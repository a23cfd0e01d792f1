import PageScript.Compile.Page
import PageScript.Found

/-!
# What is left in the tables does not matter

A compiler empties its tables before it goes through a block, so a block compiles to the same operations
whatever the compiler has compiled before, and leaves the same tables. What it compiles to is said
without tables by `compileBlock`, and of a whole block by `planBlock`, which takes a new compiler.
-/

namespace PageScript.Compile

open Script (Statement)

variable {settings : Settings} {environ : Environ}

/-- Tables that are emptied are those of a new compiler. -/
theorem Bound.compileBlock_fresh (tables : Bound) (statements : List Statement) :
    tables.compileBlock settings environ statements =
      Bound.compileBlock settings environ {} statements := rfl

theorem Bound.blockNotes_fresh (tables : Bound) (statements : List Statement) :
    tables.blockNotes settings environ statements =
      Bound.blockNotes settings environ {} statements := rfl

/-- The second pass gives the operations that `compileAll` gives, and keeps the tables in step. -/
theorem Bound.map_compileAll (tables : Bound) (statements : List Statement) :
    (tables.compileAll settings environ statements).map Prod.fst =
      Compile.compileAll settings environ tables.bindings tables.known statements := by
  induction statements generalizing tables with
  | nil => rfl
  | cons statement rest ih =>
    rw [Bound.compileAll, Compile.compileAll]
    cases compileStatement settings environ tables.bindings tables.known statement with
    | error fault => rfl
    | ok out =>
      obtain ⟨operations, known⟩ := out
      simp only [bind, Except.bind]
      rw [← ih { tables with known }]
      cases Bound.compileAll settings environ { tables with known } rest <;> rfl

theorem Bound.map_compileBlock (tables : Bound) (statements : List Statement) :
    (tables.compileBlock settings environ statements).map Prod.fst =
      Compile.compileBlock settings environ statements := by
  rw [Bound.compileBlock, Compile.compileBlock]
  -- Emptied tables are those of a new compiler.
  show Except.map _ (bindAll environ statements >>= _) = _
  cases bindAll environ statements with
  | error fault => rfl
  | ok bound => exact bound.forgetKnown.map_compileAll statements

section

variable {sourceName : String} (block : Page.Block) {reading : Script.Reading}

theorem planBlock_unread {fault : Numeral.IntegerFault} (hr : Script.read block.text = .error fault) :
    planBlock settings environ sourceName block = (.error fault, []) := by
  rw [planBlock, Compiler.planBlock, hr]
  rfl

theorem planBlock_skipped {first : Diagnostic} {others : List Diagnostic}
    (hr : Script.read block.text = .ok reading)
    (hd : reading.diagnostics sourceName (some block.index) = first :: others) :
    planBlock settings environ sourceName block =
      (.ok none, [.blockSkipped block.index first.format]) := by
  rw [planBlock, Compiler.planBlock, hr]
  simp only [hd]
  rfl

/-- What a block does in which there is nothing to complain about. -/
theorem planBlock_clean (hr : Script.read block.text = .ok reading)
    (hd : reading.diagnostics sourceName (some block.index) = []) :
    planBlock settings environ sourceName block =
      ((compileBlock settings environ reading.statements).map fun operations =>
          some ⟨block.index, operations⟩,
        Bound.blockNotes settings environ {} reading.statements ++
          match compileBlock settings environ reading.statements with
          | .ok operations => [.blockCompiled block.index operations.length]
          | .error _ => []) := by
  rw [planBlock, Compiler.planBlock, hr]
  simp only [hd, ← Bound.map_compileBlock {}]
  cases Bound.compileBlock settings environ {} reading.statements with
  | error fault => simp [result, Except.map]
  | ok out => rfl

end

/-- A compiler makes of a block what a new one makes of it. -/
theorem Compiler.result_planBlock (compiler : Compiler) (sourceName : String) (block : Page.Block) :
    result (compiler.planBlock sourceName block) =
      Compile.planBlock compiler.settings compiler.environ sourceName block := by
  rw [Compile.planBlock, planBlock, planBlock]
  cases Script.read block.text with
  | error fault => rfl
  | ok reading =>
    simp only
    split
    · rfl
    · rw [compiler.tables.compileBlock_fresh, compiler.tables.blockNotes_fresh]

/-- Only the tables of a compiler change. -/
theorem Compiler.planBlock_keeps {compiler after : Compiler} {sourceName : String}
    {block : Page.Block} {plan : Option BlockPlan}
    (h : (compiler.planBlock sourceName block).1 = .ok (plan, after)) :
    after.settings = compiler.settings ∧ after.environ = compiler.environ := by
  unfold planBlock at h
  split at h
  · cases h
  · split at h
    · cases h
      exact ⟨rfl, rfl⟩
    · simp only at h
      split at h
      · cases h
      · cases h
        exact ⟨rfl, rfl⟩

end PageScript.Compile
