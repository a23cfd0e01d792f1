/-!
# The words of the query protocol

Names and values that requests carry and answers are recognised by, shared by the requests sent in
process and by the helper routines of the generated program.
-/

namespace PageScript.Cosmos.Wire

def apiVersion : String := "2018-12-31"

def verb : String := "post"

def resourceType : String := "docs"

def tokenType : String := "master"

def tokenVersion : String := "1.0"

def headerDate : String := "x-ms-date"

def headerVersion : String := "x-ms-version"

def headerAuthorization : String := "Authorization"

def headerIsQuery : String := "x-ms-documentdb-isquery"

def headerCrossPartition : String := "x-ms-documentdb-query-enablecrosspartition"

def headerPartitionKey : String := "x-ms-documentdb-partitionkey"

def headerAccept : String := "Accept"

def headerContentType : String := "Content-Type"

def acceptMediaType : String := "application/json"

def queryMediaType : String := "application/query+json"

def endpointKey : String := "AccountEndpoint"

def accountKey : String := "AccountKey"

/-- The member of an answer that holds the documents. -/
def documentsProperty : String := "Documents"

def invalidConnectionString : String := "Invalid Cosmos connection string."

def noItemsFound : String := "No items found."

def restErrorPrefix : String := "Cosmos REST error"

def failurePrefix : String := "Failed to read Cosmos DB item via REST"

/-- The path of a container, which is also what a request is signed for. -/
def resourceLink (database container : String) : String :=
  "dbs/" ++ database ++ "/colls/" ++ container

end PageScript.Cosmos.Wire
