import PageScript.CSharp.Program
import PageScript.Proofs.CSharp.Source
import PageScript.Settings.Basic

/-!
# What a method body does

Running the statements of a method body on a machine that offers the environment, the line end, the
values of what the program defines elsewhere, and the helper routine that reads the first item of a
query, which threads a state of its own through the run.

A block has its own variables: they are gone when it is left, while assignments to the variables
around it stay. A variable may be declared only where no variable of its name is in sight. A text can
be null; a null text cannot be trimmed or compared, and counts as empty where texts are put together.
Whatever has no meaning here, such as a name of the wrong kind, stops the run without a result.
-/

namespace PageScript.CSharp.Source

/-- What a variable holds. -/
inductive Value where
  | text (value : Option String)
  | list (items : List String)
deriving DecidableEq

/-- The local variables in sight, the one declared last first. -/
abbrev Locals := List (String × Value)

/-- The variables with one more. -/
def Locals.declare? (locals : Locals) (name : String) (value : Value) : Option Locals :=
  if (locals.lookup name).isSome then none else some ((name, value) :: locals)

/-- The variables with another value of `name`. -/
def Locals.set (locals : Locals) (name : String) (value : Value) : Locals :=
  locals.map fun entry => if entry.1 = name then (name, value) else entry

/-- What a method body sees of the machine it runs on. -/
structure Host (σ : Type) where
  environment : Environ
  newLine : String
  /-- The value of an expression that is defined outside of the method. -/
  outer : String → Option String
  /-- The helper routine: a connection string and a query to the line they give. -/
  readFirst : String → Query → σ → String × σ

section

variable {σ : Type} (host : Host σ)

/-! ## Expressions -/

/-- The value of a path: a local variable, the line end, or something defined elsewhere. -/
def pathText (locals : Locals) (name : String) : Option (Option String) :=
  match locals.lookup name with
  | some (.text value) => some value
  | some (.list _) => none
  | none => if name = "Environment.NewLine" then some (some host.newLine) else some (host.outer name)

/-- The text of a piece of an interpolated string. -/
def partText (locals : Locals) : Part → Option String
  | .char c => some (String.ofList [c])
  | .hole name => (pathText host locals name).map (·.getD "")

/-- The text of an expression without a call. -/
def atomText (locals : Locals) : Atom → Option (Option String)
  | .text value => some (some value)
  | .char _ => none
  | .interpolated parts => (parts.mapM (partText host locals)).map fun texts => some (String.join texts)
  | .path name => pathText host locals name

/-- The text of an argument that must not be null. -/
def argumentText (locals : Locals) (argument : Atom) : Option String :=
  (atomText host locals argument).join

/-- The text of the argument with this label. -/
def labelledText (locals : Locals) (arguments : List Argument) (label : String) : Option String :=
  (arguments.find? (·.label == some label)).bind fun argument =>
    argumentText host locals argument.value

/-- The value of a call of a library method. -/
def libraryCall (locals : Locals) (method : String) (arguments : List Argument) :
    Option (Option String) :=
  match arguments with
  | [⟨none, .char c⟩] => do
    let receiver ← before? ".TrimStart" method.toList
    let value ← argumentText host locals (.path (String.ofList receiver))
    return some (String.ofList (value.toList.dropWhile (· == c)))
  | [⟨none, argument⟩] =>
    if method = "Environment.GetEnvironmentVariable" then
      (argumentText host locals argument).map host.environment
    else none
  | [⟨none, separator⟩, ⟨none, .path list⟩] =>
    match method, locals.lookup list with
    | "string.Join", some (.list items) =>
      (argumentText host locals separator).map fun text => some (text.intercalate items)
    | _, _ => none
  | _ => none

/-- The line that a call of the helper routine gives. -/
def helperCall (locals : Locals) (arguments : List Argument) (state : σ) : Option (String × σ) := do
  let connection ← labelledText host locals arguments "connectionString"
  let database ← labelledText host locals arguments "databaseName"
  let container ← labelledText host locals arguments "containerName"
  let text ← labelledText host locals arguments "query"
  let partitionKey ← labelledText host locals arguments "partitionKey"
  return host.readFirst connection { database, container, text, partitionKey } state

/-- The value of an expression, and the state after its evaluation. -/
def termText (locals : Locals) (state : σ) : Term → Option (Option String × σ)
  | .atom value => (atomText host locals value).map (·, state)
  | .outer code => some (host.outer code, state)
  | .call false method arguments => (libraryCall host locals method arguments).map (·, state)
  | .call true method arguments =>
    if method = helperMethod then
      (helperCall host locals arguments state).map fun (line, state) => (some line, state)
    else none

/-- A condition holds. -/
def testHolds (locals : Locals) : Test → Option Bool
  | .call "string.IsNullOrWhiteSpace" [⟨none, argument⟩] =>
    (atomText host locals argument).map Text.absent
  | .call method [⟨none, argument⟩] => do
    let receiver ← before? ".StartsWith" method.toList
    let value ← argumentText host locals (.path (String.ofList receiver))
    let start ← argumentText host locals argument
    return start.toList.isPrefixOf value.toList
  | .equals name number => do
    let list ← before? ".Count" name.toList
    match locals.lookup (String.ofList list) with
    | some (.list items) => some (items.length == number)
    | _ => none
  | _ => none

/-! ## Statements -/

/-- Where a statement leads. -/
inductive Flow (σ : Type) where
  | next (locals : Locals) (state : σ)
  /-- The method is left with a value. -/
  | done (value : Option String) (state : σ)

/-- Leaves a block: the variables declared in it are gone. -/
def Flow.leave (around : Locals) : Flow σ → Flow σ
  | .next locals state => .next (locals.drop (locals.length - around.length)) state
  | .done value state => .done value state

/-- Runs a statement in one line. -/
def runAction (locals : Locals) (state : σ) : Action → Option (Flow σ)
  | .newList name => (locals.declare? name (.list [])).map (.next · state)
  | .declare name term => do
    let (value, state) ← termText host locals state term
    return .next (← locals.declare? name (.text value)) state
  | .assign name term => do
    let (value, state) ← termText host locals state term
    match locals.lookup name with
    | some (.text _) => some (.next (locals.set name (.text value)) state)
    | _ => none
  | .add list term => do
    let (value, state) ← termText host locals state term
    match locals.lookup list with
    | some (.list items) =>
      some (.next (locals.set list (.list (items ++ [value.getD ""]))) state)
    | _ => none
  | .ret term => do
    let (value, state) ← termText host locals state term
    return .done value state

mutual

/-- Runs a statement. -/
def runNode (locals : Locals) (state : σ) : Node → Option (Flow σ)
  | .action action => runAction host locals state action
  | .scope body => (runNodes locals state body).map (.leave locals)
  | .when test yes =>
    match testHolds host locals test with
    | some true => (runNodes locals state yes).map (.leave locals)
    | some false => some (.next locals state)
    | none => none
  | .whenElse test yes no =>
    match testHolds host locals test with
    | some true => (runNodes locals state yes).map (.leave locals)
    | some false => (runNodes locals state no).map (.leave locals)
    | none => none

/-- Runs statements in order, up to one that leaves the method. -/
def runNodes (locals : Locals) (state : σ) : List Node → Option (Flow σ)
  | [] => some (.next locals state)
  | node :: rest =>
    match runNode locals state node with
    | some (.next locals state) => runNodes locals state rest
    | flow => flow

end

/-- Runs a method body: the value it returns, and the state after the run. -/
def runMethod (lines : List String) (state : σ) : Option (Option String × σ) := do
  match ← runNodes host [] state (← body? lines) with
  | .done value state => some (value, state)
  | .next .. => none

end

end PageScript.CSharp.Source
