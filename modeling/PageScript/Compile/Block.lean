import PageScript.Compile.Statement

/-!
# Compiling a block

A block is gone through twice. The first pass records the hashtables that are assigned to variables,
with the variables known at each place; the second starts over with no variable known and compiles
the commands against the hashtables recorded last.

The tables are kept from block to block. They are emptied when they have served, so that what a block
does is what it does alone: `compileBlock` says what that is, and `Bound.compileBlock` does it with
whatever the tables hold.
-/

namespace PageScript.Compile

open Script (Statement)

/-- What the first pass knows: the variables, and the hashtables of variables. -/
structure Bound where
  known : FoldedTable String := .empty
  bindings : FoldedTable Parameters := .empty

def Bound.forgetKnown (tables : Bound) : Bound := { tables with known := .empty }

def Bound.forgetBindings (tables : Bound) : Bound := { tables with bindings := .empty }

/-- The hashtables after an assignment to `name`: a hashtable literal is recorded, and any other
value or operator drops the one that was. -/
def Scope.rebind (scope : Scope) (bindings : FoldedTable Parameters) (name : String) :
    Script.AssignOp → Script.Expr → Except Numeral.IntegerFault (FoldedTable Parameters)
  | .set, .hashtable _ entries => return bindings.insert name (← scope.table entries)
  | _, _ => .ok (bindings.erase name)

/-- One statement of the first pass. -/
def bindStatement (environ : Environ) (bound : Bound) :
    Statement → Except Numeral.IntegerFault Bound
  | .assignment _ (.reference extent name drive splatted) operator value => do
    let scope : Scope := { environ, known := bound.known }
    let bindings ← scope.rebind bound.bindings name operator value
    let known ← scope.assign (.reference extent name drive splatted) operator value
    return { known, bindings }
  | _ => .ok bound

/-- The first pass over a block. -/
def bindAll (environ : Environ) (statements : List Statement) :
    Except Numeral.IntegerFault Bound :=
  statements.foldlM (bindStatement environ) {}

/-- One statement of the second pass: its operations, and the variables after it. -/
def compileStatement (settings : Settings) (environ : Environ) (bindings : FoldedTable Parameters)
    (known : FoldedTable String) :
    Statement → Except Numeral.IntegerFault (List Operation × FoldedTable String)
  | .assignment _ target operator value => do
    let scope : Scope := { environ, known }
    return ([], ← scope.assign target operator value)
  | .command command => do
    let scope : Scope := { environ, known }
    return (← scope.commandOperations settings bindings command, known)
  | .other .. => .ok ([], known)

/-- The second pass over a block. -/
def compileAll (settings : Settings) (environ : Environ) (bindings : FoldedTable Parameters) :
    FoldedTable String → List Statement → Except Numeral.IntegerFault (List Operation)
  | _, [] => .ok []
  | known, statement :: rest => do
    let (operations, known) ← compileStatement settings environ bindings known statement
    return operations ++ (← compileAll settings environ bindings known rest)

/-- The operations of a block. -/
def compileBlock (settings : Settings) (environ : Environ) (statements : List Statement) :
    Except Numeral.IntegerFault (List Operation) := do
  let bound ← bindAll environ statements
  compileAll settings environ bound.bindings .empty statements

/-- The second pass over a block, with the tables as they are. It gives the tables that it leaves,
too. -/
def Bound.compileAll (settings : Settings) (environ : Environ) (tables : Bound) :
    List Statement → Except Numeral.IntegerFault (List Operation × Bound)
  | [] => .ok ([], tables)
  | statement :: rest => do
    let (operations, known) ←
      compileStatement settings environ tables.bindings tables.known statement
    let (more, tables) ← Bound.compileAll settings environ { tables with known } rest
    return (operations ++ more, tables)

/-- The operations of a block, compiled with tables that may hold anything, and the tables after it.
Both tables are emptied before the first pass, and that of the variables again before the second. -/
def Bound.compileBlock (settings : Settings) (environ : Environ) (tables : Bound)
    (statements : List Statement) : Except Numeral.IntegerFault (List Operation × Bound) := do
  let bound ← statements.foldlM (bindStatement environ) tables.forgetBindings.forgetKnown
  bound.forgetKnown.compileAll settings environ statements

end PageScript.Compile
