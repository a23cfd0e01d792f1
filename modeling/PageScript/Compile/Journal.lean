import PageScript.Compile.Block
import PageScript.Journal

/-!
# Notes taken while compiling a block

The notes of both passes over a block, computed beside the passes: which variables of the environment
are unset where their values are asked for, which hashtables are recorded, where an account key will
come from at run time, and which commands are passed over.
-/

namespace PageScript.Compile

open Script (Expr Element Statement)

/-- An expression that names an environment variable without a value. -/
def unsetNotes (environ : Environ) (expr : Expr) : List Note :=
  match envSource? expr with
  | some name => if (environ.set? name).isNone then [.envUnset name] else []
  | none => []

/-- The notes of the entries of a hashtable literal. -/
def tableNotes (environ : Environ) (entries : List (Expr × Expr)) : List Note :=
  entries.flatMap fun (_, value) => unsetNotes environ value

/-- The notes of an assignment of a scalar. -/
def assignNotes (environ : Environ) (target value : Expr) : List Note :=
  match target with
  | .reference _ _ drive _ => if Script.isEnvDrive drive then [] else unsetNotes environ value
  | _ => []

/-- The notes of one statement in the first pass, which has led to `bound`. -/
def bindNotes (environ : Environ) (bound : Bound) : Statement → List Note
  | .assignment _ (.reference extent name drive splatted) operator value =>
    match operator, value with
    | .set, .hashtable _ entries =>
      tableNotes environ entries ++
        (bound.bindings.get? name).toList.map fun table => .tableBound name table.values.size
    | _, _ => assignNotes environ (.reference extent name drive splatted) value
  | _ => []

/-- The notes of the first pass, up to a statement that cannot be compiled. -/
def bindAllNotes (environ : Environ) : Bound → List Statement → List Note
  | _, [] => []
  | bound, statement :: rest =>
    match bindStatement environ bound statement with
    | .ok bound => bindNotes environ bound statement ++ bindAllNotes environ bound rest
    | .error _ => []

/-- The notes of the words of a command that reads an item. -/
def collectNotes (environ : Environ) : List Element → List Note
  | [] => []
  | .parameter _ name (some argument) :: rest =>
    (if name.isEmpty then [] else unsetNotes environ argument) ++ collectNotes environ rest
  | .parameter _ name none :: .value argument :: rest =>
    if name.isEmpty then collectNotes environ (.value argument :: rest)
    else unsetNotes environ argument ++ collectNotes environ rest
  | .parameter .. :: rest => collectNotes environ rest
  | .value (.hashtable _ entries) :: rest => tableNotes environ entries ++ collectNotes environ rest
  | .value _ :: rest => collectNotes environ rest

/-- The notes of one statement in the second pass. -/
def statementNotes (settings : Settings) (environ : Environ) (bindings : FoldedTable Parameters)
    (known : FoldedTable String) : Statement → List Note
  | .assignment _ target _ value => assignNotes environ target value
  | .command command =>
    let scope : Scope := { environ, known }
    let name := Text.fold command.name
    if name == writeCommand then
      (firstArgument? command.elements).toList.flatMap (unsetNotes environ)
    else if name == readCommand then
      collectNotes environ command.elements ++
        match scope.collect bindings command.elements with
        | .ok parameters =>
          match readOperation settings parameters with
          | .ok (.readFirstItemFromEnv variableName _ _) =>
            [.keyFromEnv ((parameters.values.get? "AccountName").getD "") variableName]
          | _ => []
        | .error _ => []
    else [.commandIgnored command.name]
  | .other .. => []

/-- The notes of the second pass, up to a statement that cannot be compiled. -/
def compileAllNotes (settings : Settings) (environ : Environ) (bindings : FoldedTable Parameters) :
    FoldedTable String → List Statement → List Note
  | _, [] => []
  | known, statement :: rest =>
    match compileStatement settings environ bindings known statement with
    | .ok (_, after) =>
      statementNotes settings environ bindings known statement ++
        compileAllNotes settings environ bindings after rest
    | .error _ => []

/-- The notes of a block that is compiled with these tables. -/
def Bound.blockNotes (settings : Settings) (environ : Environ) (tables : Bound)
    (statements : List Statement) : List Note :=
  let tables := tables.forgetBindings.forgetKnown
  bindAllNotes environ tables statements ++
    match statements.foldlM (bindStatement environ) tables with
    | .ok bound =>
      compileAllNotes settings environ bound.bindings bound.forgetKnown.known statements
    | .error _ => []

end PageScript.Compile
