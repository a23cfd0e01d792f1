import PageScript.Compile.Journal
import PageScript.Page
import PageScript.Script.Reading

/-!
# Compiling a page

Each block of a page is compiled on its own. A block that cannot be read is skipped with a warning,
and the others are compiled all the same; only a number that cannot be converted ends the compilation.
One compiler can compile many pages, and keeps its tables from block to block.
-/

namespace PageScript.Compile

/-- A result together with the notes taken on the way to it. -/
abbrev Noted (α : Type) := α × List Note

/-- A compiler: what it is set up with, and its tables as they were left by what it has compiled. -/
structure Compiler where
  settings : Settings
  environ : Environ
  tables : Bound := {}

namespace Compiler

/-- Compiles one block: its plan, or nothing if the block cannot be read. The tables are not touched if
it cannot. -/
def planBlock (compiler : Compiler) (sourceName : String) (block : Page.Block) :
    Noted (Except Numeral.IntegerFault (Option BlockPlan × Compiler)) :=
  match Script.read block.text with
  | .error fault => (.error fault, [])
  | .ok reading =>
    match reading.diagnostics sourceName (some block.index) with
    | first :: _ => (.ok (none, compiler), [.blockSkipped block.index first.format])
    | [] =>
      let notes := compiler.tables.blockNotes compiler.settings compiler.environ reading.statements
      match compiler.tables.compileBlock compiler.settings compiler.environ reading.statements with
      | .error fault => (.error fault, notes)
      | .ok (operations, tables) =>
        (.ok (some { index := block.index, operations }, { compiler with tables }),
          notes ++ [.blockCompiled block.index operations.length])

/-- Compiles blocks in order, up to one that cannot be compiled. -/
def planBlocks (compiler : Compiler) (sourceName : String) :
    List Page.Block → Noted (Except Numeral.IntegerFault (List BlockPlan × Compiler))
  | [] => (.ok ([], compiler), [])
  | block :: rest =>
    match compiler.planBlock sourceName block with
    | (.error fault, notes) => (.error fault, notes)
    | (.ok (plan, compiler), notes) =>
      let (outcome, more) := compiler.planBlocks sourceName rest
      (outcome.map fun (plans, compiler) => (plan.toList ++ plans, compiler), notes ++ more)

/-- The name that a plan goes by, which is that of its page if it has one. -/
def label (compiler : Compiler) (sourceName : Option String) : String :=
  (sourceName.filter (!·.isEmpty)).getD compiler.settings.sourceLabel

/-- The plan of blocks under the name of their page. -/
def plan (compiler : Compiler) (sourceName : Option String) (blocks : List Page.Block) :
    Noted (Except Numeral.IntegerFault (Plan × Compiler)) :=
  let sourceName := compiler.label sourceName
  match compiler.planBlocks sourceName blocks with
  | (.error fault, notes) => (.error fault, notes)
  | (.ok (blocks, compiler), notes) =>
    (.ok ({ sourceName, blocks }, compiler), notes ++ [.planned blocks.length sourceName])

/-- The plan of a page. -/
def planPage (compiler : Compiler) (sourceName : Option String) (page : String) :
    Noted (Except Numeral.IntegerFault (Plan × Compiler)) :=
  let scriptType := compiler.settings.scriptType
  let blocks := Page.blocks scriptType page
  let (outcome, notes) := compiler.plan sourceName blocks
  (outcome, .blocksFound blocks.length scriptType :: notes)

end Compiler

/-- What a compiler gives, without the compiler. -/
def result {α : Type} (outcome : Noted (Except Numeral.IntegerFault (α × Compiler))) :
    Noted (Except Numeral.IntegerFault α) :=
  (outcome.1.map Prod.fst, outcome.2)

/-- What a new compiler makes of one block. -/
def planBlock (settings : Settings) (environ : Environ) (sourceName : String) (block : Page.Block) :
    Noted (Except Numeral.IntegerFault (Option BlockPlan)) :=
  result (Compiler.planBlock { settings, environ } sourceName block)

/-- What a new compiler makes of blocks. -/
def planOf (settings : Settings) (environ : Environ) (sourceName : Option String)
    (blocks : List Page.Block) : Noted (Except Numeral.IntegerFault Plan) :=
  result (Compiler.plan { settings, environ } sourceName blocks)

/-- What a new compiler makes of a page. -/
def planPage (settings : Settings) (environ : Environ) (sourceName : Option String)
    (page : String) : Noted (Except Numeral.IntegerFault Plan) :=
  result (Compiler.planPage { settings, environ } sourceName page)

end PageScript.Compile
