import PageScript.Compile.Scope

/-!
# Values of expressions and the parameters of a command

An expression resolves to a text. Parameters are written one after the other, the last write of a
name winning; each keeps beside its value the environment variable it was taken from, if it was
written as one, so that a secret can be read at run time instead. A hashtable literal gives
parameters too, which a splat or the literal itself passes to a command.
-/

namespace PageScript.Compile

open Script (Expr Element)

/-- `text` without the quotes at both ends. -/
def unquoted (text : String) : String :=
  String.ofList (Text.trimOf (fun c => c == '"' || c == '\'') text.toList)

/-- The value of a variable of the environment; an unset one stands for its own name. -/
def Scope.envValue (scope : Scope) (name : String) : String :=
  (scope.environ.set? name).getD name

/-- The text an expression stands for. -/
def Scope.resolve (scope : Scope) : Expr → Except Numeral.IntegerFault String
  | .string _ value _ => .ok value
  | .expandable _ body => .ok (scope.expand body)
  | .number _ value => value.write
  | .reference extent name drive splatted =>
    if splatted then .ok (unquoted extent.text)
    else if Script.isEnvDrive drive then .ok (scope.envValue name)
    else .ok ((scope.lookup? name).getD "")
  | .hashtable extent _ | .raw extent _ => .ok (unquoted extent.text)

/-- The environment variable that an expression names, outside of any string. -/
def envSource? : Expr → Option String
  | .reference _ name drive false => if Script.isEnvDrive drive then some name else none
  | _ => none

/-- Named values and, of some of them, the environment variable they come from. -/
structure Parameters where
  values : FoldedTable String := .empty
  sources : FoldedTable String := .empty

instance : Inhabited Parameters := ⟨{}⟩

/-- One write of a parameter. -/
structure Write where
  name : String
  value : String
  /-- The environment variable the value comes from. -/
  source : Option String

namespace Parameters

/-- Writes a parameter; a source of the same name keeps its place. -/
def put (parameters : Parameters) (w : Write) : Parameters :=
  { values := parameters.values.insert w.name w.value
    sources :=
      match w.source with
      | some source => parameters.sources.insert w.name source
      | none => parameters.sources.erase w.name }

/-- Writes a parameter; its source moves to the end. -/
def write (parameters : Parameters) (w : Write) : Parameters :=
  put { parameters with sources := parameters.sources.erase w.name } w

/-- The writes that give these parameters. -/
def writes (parameters : Parameters) : List Write :=
  parameters.values.toList.map fun (name, value) =>
    { name, value, source := parameters.sources.get? name }

/-- Writes all `others` in order. -/
def merge (parameters others : Parameters) : Parameters := others.writes.foldl put parameters

end Parameters

/-- The name an entry of a hashtable literal has. -/
def Scope.keyName (scope : Scope) : Expr → Except Numeral.IntegerFault String
  | .string extent value quote => named extent (.string extent value quote)
  | .expandable extent body => named extent (.expandable extent body)
  | .number extent value => named extent (.number extent value)
  | key => .ok key.extent.text
where
  /-- The resolved text of a key, or the key as it is written if that is empty. -/
  named (extent : Script.Extent) (key : Expr) : Except Numeral.IntegerFault String := do
    let text ← scope.resolve key
    return if text.isEmpty then extent.text else text

/-- The mark in front of an environment variable. -/
def envMark : String := "$env:"

/-- The name behind the mark of an environment variable, in any letter case. -/
def afterEnvMark? (text : String) : Option String :=
  let (mark, name) := text.toList.splitAt envMark.length
  if Text.fold (String.ofList mark) == envMark then some (String.ofList name) else none

/-- The write of one entry of a hashtable literal. An entry without a value that is written as an
environment variable stands for the name of the variable. -/
def Scope.entryWrite (scope : Scope) (key value : Expr) : Except Numeral.IntegerFault Write := do
  let name ← scope.keyName key
  let text ← scope.resolve value
  if text.isEmpty then
    match afterEnvMark? value.extent.text with
    | some known => return { name, value := known, source := some known }
    | none => return { name, value := text, source := envSource? value }
  else return { name, value := text, source := envSource? value }

/-- The parameters that a hashtable literal gives. -/
def Scope.table (scope : Scope) (entries : List (Expr × Expr)) :
    Except Numeral.IntegerFault Parameters :=
  entries.foldlM
    (fun parameters (key, value) => return parameters.write (← scope.entryWrite key value)) {}

/-- The value of a parameter that is given without one. -/
def switchValue : String := "true"

/-- The write of a parameter with or without an argument. -/
def Scope.argumentWrite (scope : Scope) (name : String) :
    Option Expr → Except Numeral.IntegerFault Write
  | none => .ok { name, value := switchValue, source := none }
  | some argument => return { name, value := ← scope.resolve argument, source := envSource? argument }

/-- Goes through the words of a command from left to right. A parameter takes the next word unless
that is a parameter too; a splat and a hashtable literal write all their entries. -/
def Scope.collectFrom (scope : Scope) (bindings : FoldedTable Parameters) (parameters : Parameters) :
    List Element → Except Numeral.IntegerFault Parameters
  | [] => .ok parameters
  | .parameter _ name (some argument) :: rest => do
    if name.isEmpty then scope.collectFrom bindings parameters rest
    else
      let w ← scope.argumentWrite name (some argument)
      scope.collectFrom bindings (parameters.write w) rest
  | .parameter _ name none :: .value argument :: rest => do
    if name.isEmpty then scope.collectFrom bindings parameters (.value argument :: rest)
    else
      let w ← scope.argumentWrite name (some argument)
      scope.collectFrom bindings (parameters.write w) rest
  | .parameter _ name none :: rest => do
    if name.isEmpty then scope.collectFrom bindings parameters rest
    else
      let w ← scope.argumentWrite name none
      scope.collectFrom bindings (parameters.write w) rest
  | .value (.reference _ name _ true) :: rest =>
    match bindings.get? name with
    | some binding => scope.collectFrom bindings (parameters.merge binding) rest
    | none => scope.collectFrom bindings parameters rest
  | .value (.hashtable _ entries) :: rest => do
    let table ← scope.table entries
    scope.collectFrom bindings (parameters.merge table) rest
  | .value _ :: rest => scope.collectFrom bindings parameters rest

/-- A parameter with no word behind it is a switch. -/
theorem Scope.collectFrom_switch {rest : List Element}
    (h : ∀ argument more, rest = .value argument :: more → False) (scope : Scope)
    (bindings : FoldedTable Parameters) (parameters : Parameters) (extent : Script.Extent)
    (name : String) :
    scope.collectFrom bindings parameters (.parameter extent name none :: rest) =
      if name.isEmpty then scope.collectFrom bindings parameters rest
      else scope.argumentWrite name none >>= fun w =>
        scope.collectFrom bindings (parameters.write w) rest := by
  rw [Scope.collectFrom]
  exact h

/-- The parameters that the words of a command give. -/
def Scope.collect (scope : Scope) (bindings : FoldedTable Parameters) (elements : List Element) :
    Except Numeral.IntegerFault Parameters :=
  scope.collectFrom bindings {} elements

end PageScript.Compile
