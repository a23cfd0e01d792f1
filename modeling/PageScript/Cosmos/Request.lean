import PageScript.Cosmos.ConnectionString
import PageScript.Cosmos.Signature
import PageScript.Json.Escaped
import PageScript.Plan
import PageScript.Url.Join

/-!
# Requests

A query is asked by one signed request. What it is signed for is the path of the container, which
together with the address of the account also gives the address of the request.
-/

namespace PageScript.Cosmos

/-- A request as it is sent. -/
structure Request where
  method : String
  url : Url
  headers : List (String × String)
  body : String
deriving DecidableEq

/-- Why a query cannot be asked. -/
inductive RequestFault where
  /-- The key of the account is not base64. -/
  | key (fault : Codec.Base64.Fault)
  | url (fault : Url.Fault)
  /-- The ASCII form of the host stands for no host name. -/
  | host (fault : Url.Idna.Fault)
  /-- A header is not ASCII. -/
  | header (text : List Char)

/-- The characters of a text up to its first run of characters beyond ASCII, and that run. -/
def beyondAscii (text : List Char) : List Char × List Char :=
  let isAscii (c : Char) : Bool := c.toNat < 0x80
  (text.takeWhile isAscii, (text.dropWhile isAscii).takeWhile (!isAscii ·))

/-- The wording for a text that cannot be written in ASCII. -/
def notAsciiMessage (text : List Char) : String :=
  let (before, run) := beyondAscii text
  let start := before.length
  let which :=
    match run with
    | [c] => "character '" ++ String.ofList (Text.numericEscape c.toNat) ++ s!"' in position {start}"
    | _ => s!"characters in position {start}-{start + run.length - 1}"
  "'ascii' codec can't encode " ++ which ++ ": ordinal not in range(128)"

def RequestFault.message : RequestFault → String
  | .key fault => fault.message
  | .url fault => fault.message
  | .host fault => fault.message
  | .header text => notAsciiMessage text

/-- The body of a request. -/
def queryPayload (text : List Text.CodePoint) : String :=
  r#"{"query":""# ++ Json.escaped text ++ r#"","parameters":[]}"#

/-- The header that names a partition. -/
def partitionKeyHeader (key : List Text.CodePoint) : String :=
  r#"[""# ++ Json.escaped key ++ r#""]"#

/-- The header that tells where to look: in one partition, or in all of them if none is named. -/
def partitionHeader (key : String) : String × String :=
  if Text.allBlank key then (Wire.headerCrossPartition, "true")
  else (Wire.headerPartitionKey, partitionKeyHeader (Text.codePoints key))

/-- The address of the documents of a container. -/
def documentsUrl (endpoint link : String) : Except Url.Fault Url := do
  let base ← Url.ofText endpoint.toList
  base.join (link ++ "/docs").toList

/-- A header has to be ASCII. -/
def checkHeader (text : List Char) : Except RequestFault Unit :=
  if text.any (0x80 ≤ ·.toNat) then .error (.header text) else .ok ()

/-- The host is sent along in a header; if it starts with an ASCII form, it has to stand for a host
name. -/
def checkHost (url : Url) : Except RequestFault Unit := do
  if url.host.isEmpty then return
  if Url.Idna.asciiMark.isPrefixOf url.host then
    (Url.Idna.checkName url.host).mapError RequestFault.host
  checkHeader url.hostAndPort

/-- The request that asks a query. -/
def Request.ofQuery (connection : Connection) (query : Query) (date : String) :
    Except RequestFault Request := do
  let link := Wire.resourceLink query.database query.container
  let token ←
    (authToken Wire.verb Wire.resourceType link date connection.key).mapError RequestFault.key
  let url ← (documentsUrl connection.endpoint link).mapError RequestFault.url
  checkHeader date.toList
  checkHost url
  return {
    method := String.ofList (Wire.verb.toList.map Char.toUpper)
    url
    headers := [
      (Wire.headerDate, date),
      (Wire.headerVersion, Wire.apiVersion),
      (Wire.headerAuthorization, token),
      (Wire.headerIsQuery, "true"),
      partitionHeader query.partitionKey,
      (Wire.headerAccept, Wire.acceptMediaType),
      (Wire.headerContentType, Wire.queryMediaType)]
    body := queryPayload (Text.codePoints query.text) }

/-- The header of a name and a password. -/
def basicToken (name password : List Char) : String :=
  "Basic " ++ Codec.Base64.encode (Text.utf8 (String.ofList (name ++ ':' :: password)))

/-- The request as it leaves: a name or a password in the address takes the place of the token. -/
def Request.withCredentials (request : Request) : Request :=
  let (name, password) := request.url.credentials
  if name.isEmpty && password.isEmpty then request
  else
    { request with
      headers := request.headers.map fun (key, value) =>
        (key, if key == Wire.headerAuthorization then basicToken name password else value) }

/-- The address as it is written. -/
def Request.address (request : Request) : String := String.ofList request.url.toText

/-- Whether an address starts with something in front of a colon that can tell its type. -/
def isTyped (address : List Char) : Bool :=
  let isType (c : Char) : Bool := c != '/' && c != ':'
  !(address.takeWhile isType).isEmpty && (address.dropWhile isType).head? == some ':'

end PageScript.Cosmos
