import PageScript.Compile.Parameters
import PageScript.Cosmos.ConnectionString
import PageScript.Plan

/-!
# Compiling statements

Assignments keep the table of known variables, the commands that write a text and that read an item
become operations, and every other statement compiles to nothing.
-/

namespace PageScript.Compile

open Script (Expr Element Statement AssignOp)

/-- The value a scalar expression gives to a variable; other expressions give none. -/
def Scope.scalar? (scope : Scope) : Expr → Except Numeral.IntegerFault (Option String)
  | .hashtable .. | .raw .. => .ok none
  | value => some <$> scope.resolve value

/-- The variables after an assignment. A value that is not scalar, or an operator other than `=` and
`+=`, makes the variable unknown; an assignment to the environment changes nothing. -/
def Scope.assign (scope : Scope) (target : Expr) (operator : AssignOp) (value : Expr) :
    Except Numeral.IntegerFault (FoldedTable String) := do
  match target with
  | .reference _ name drive _ =>
    if Script.isEnvDrive drive then return scope.known
    match ← scope.scalar? value, operator with
    | some text, .set => return scope.known.insert name text
    | some text, .add =>
      return scope.known.insert name ((scope.known.get? name).getD "" ++ text)
    | _, _ => return scope.known.erase name
  | _ => return scope.known

/-- The command that writes a text, folded. -/
def writeCommand : String := "write-output"

/-- The command that reads an item, folded. -/
def readCommand : String := "read-azcosmositems"

/-- A text that can be the name of an environment variable. -/
def looksLikeEnvName (text : String) : Bool :=
  match plainName? text.toList with
  | some (_, []) => true
  | _ => false

/-- The number of items asked for if none is given. -/
def defaultTop : Int := 1

/-- Blanks, a sign, decimal digits and blanks. -/
def isIntegerText (text : String) : Bool :=
  let (_, body) := Numeral.takeSign (text.toList.dropWhile Text.isBlank)
  !(body.takeWhile Text.isDecimal).isEmpty && (body.dropWhile Text.isDecimal).all Text.isBlank

/-- The number of items asked for: an integer of 32 bits, or the default. -/
def topOf : Option String → Except Numeral.IntegerFault Int
  | none => .ok defaultTop
  | some text => do
    if isIntegerText text then
      let n ← Numeral.read text
      return if -0x80000000 ≤ n ∧ n ≤ 0x7FFFFFFF then n else defaultTop
    else return defaultTop

/-- The environment variable that holds the account key: the one it was taken from, or its value if
that can be a name. -/
def keyVariable? (parameters : Parameters) : Option String :=
  match parameters.sources.get? "AccountKey" with
  | some source => some source
  | none => (parameters.values.get? "AccountKey").filter looksLikeEnvName

/-- The connection string that the parameters give. -/
def connectionOf? (settings : Settings) (parameters : Parameters) : Option String :=
  let present (name : String) : Option String :=
    (parameters.values.get? name).filter (!Text.allBlank ·)
  match present "AccountName", present "AccountKey" with
  | some account, some key =>
    let key := String.ofList (Text.trimStartOf (· == '=') key.toList)
    some (Cosmos.connectionString (settings.endpointFor account) key)
  | _, _ => present "ConnectionString"

/-- The operation of a command that reads an item, from its parameters. -/
def readOperation (settings : Settings) (parameters : Parameters) :
    Except Numeral.IntegerFault Operation := do
  let present (name : String) : Option String :=
    (parameters.values.get? name).filter (!Text.allBlank ·)
  match present "DatabaseName", present "ContainerName" with
  | some database, some container =>
    let top ← topOf (parameters.values.get? "Top")
    let text := (parameters.values.get? "Query").getD s!"SELECT TOP {top} * FROM c"
    let partitionKey := (parameters.values.get? "PartitionKey").getD ""
    let query : Query := { database, container, text, partitionKey }
    match (keyVariable? parameters).filter (!·.isEmpty), present "AccountName" with
    | some source, some account =>
      return .readFirstItemFromEnv source (settings.endpointFor account) query
    | _, _ =>
      match connectionOf? settings parameters with
      | some connection => return .readFirstItem connection query
      | none => return .emitText Message.missingAccountKey
  | _, _ => return .emitText Message.missingParameters

/-- The first word of a command that is no parameter. -/
def firstArgument? (elements : List Element) : Option Expr :=
  elements.findSome? fun
    | .value expr => some expr
    | .parameter .. => none

/-- The operations of a command that writes a text: none for an empty one. -/
def Scope.writeOperations (scope : Scope) (elements : List Element) :
    Except Numeral.IntegerFault (List Operation) := do
  match firstArgument? elements with
  | none => return []
  | some argument =>
    let text ← scope.resolve argument
    return if text.isEmpty then [] else [.emitText text]

/-- The operations of a command. -/
def Scope.commandOperations (scope : Scope) (settings : Settings)
    (bindings : FoldedTable Parameters) (command : Script.Command) :
    Except Numeral.IntegerFault (List Operation) := do
  let name := Text.fold command.name
  if name == writeCommand then scope.writeOperations command.elements
  else if name == readCommand then
    let parameters ← scope.collect bindings command.elements
    return [← readOperation settings parameters]
  else return []

end PageScript.Compile
