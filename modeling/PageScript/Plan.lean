import PageScript.Report

/-!
# Plans

A plan is what the blocks of a page do: operations in order, block by block. It is printed as a
program or run in process.
-/

namespace PageScript

/-- What a query asks for. -/
structure Query where
  database : String
  container : String
  text : String
  partitionKey : String := ""
deriving DecidableEq, Repr

/-- One step of a block. -/
inductive Operation where
  /-- Adds a line to the output. -/
  | emitText (text : String)
  /-- Reads the first item that a query gives, with a known connection string. -/
  | readFirstItem (connection : String) (query : Query)
  /-- Reads the first item that a query gives, with an account key from the environment. -/
  | readFirstItemFromEnv (variableName endpoint : String) (query : Query)
  /-- A step of a kind that cannot be carried out. -/
  | unsupported (kind : String)
deriving DecidableEq, Repr

/-- The steps of the block with this number. -/
structure BlockPlan where
  index : Int
  operations : List Operation
deriving DecidableEq, Repr

/-- The blocks of a page. -/
structure Plan where
  sourceName : String
  blocks : List BlockPlan
deriving DecidableEq, Repr

namespace Message

/-- The output of a query without database or container. -/
def missingParameters : String := "Cosmos parameters missing."

/-- The output of a query without credentials. -/
def missingAccountKey : String := "Cosmos AccountKey not provided (check environment variable)."

/-- The output of a query whose account key is not in the environment. -/
def notSet (variableName : String) : String :=
  "Environment variable " ++ variableName ++ " not set."

end Message

/-- The report about a step that cannot be carried out. -/
def unsupportedReport (kind : String) : Report :=
  { category := .plan, message := "Unsupported operation " ++ kind }

/-- The kind of a step that cannot be carried out. -/
def Operation.unsupported? : Operation → Option String
  | .unsupported kind => some kind
  | _ => none

/-- The kind of the first step of a block that cannot be carried out. -/
def BlockPlan.unsupported? (block : BlockPlan) : Option String :=
  block.operations.findSome? Operation.unsupported?

/-- The kind of the first step of a plan that cannot be carried out. -/
def Plan.unsupported? (plan : Plan) : Option String :=
  plan.blocks.findSome? BlockPlan.unsupported?

end PageScript
