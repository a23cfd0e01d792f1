import PageScript.Proofs.Compile.Quoting
import PageScript.Proofs.Compile.Tables

/-!
# Blocks are compiled on their own

A compiler goes through the blocks of a page in order, and a block never sees another one: what it
adds to the plan and to the journal is what a new compiler makes of it (`Contributes`). The one way in
which a block can reach the others is that it holds a number that cannot be converted. Then there is
no plan at all, not even of blocks that are in order (`Compiler.plan_not_isolated`).
-/

namespace PageScript.Compile

open Script (Expr Element Statement)

/-! ## Notes on a block -/

/-- None of the notes is a warning. -/
def Quiet (notes : List Note) : Prop := ∀ note ∈ notes, note.level = .debug

section

variable {settings : Settings} {environ : Environ}

theorem quiet_nil : Quiet [] := nofun

theorem Quiet.append {notes more : List Note} (h : Quiet notes) (hm : Quiet more) :
    Quiet (notes ++ more) :=
  List.forall_mem_append.2 ⟨h, hm⟩

theorem quiet_singleton {note : Note} (h : note.level = .debug) : Quiet [note] :=
  List.forall_mem_singleton.2 h

theorem quiet_unsetNotes (expr : Expr) : Quiet (unsetNotes environ expr) := by
  unfold unsetNotes
  split
  · split
    · exact quiet_singleton rfl
    · exact quiet_nil
  · exact quiet_nil

theorem quiet_tableNotes (entries : List (Expr × Expr)) : Quiet (tableNotes environ entries) := by
  intro note h
  obtain ⟨entry, -, hm⟩ := List.mem_flatMap.1 h
  exact quiet_unsetNotes entry.2 note hm

theorem quiet_assignNotes (target value : Expr) : Quiet (assignNotes environ target value) := by
  unfold assignNotes
  split
  · split
    · exact quiet_nil
    · exact quiet_unsetNotes value
  · exact quiet_nil

theorem quiet_bindNotes (bound : Bound) (statement : Statement) :
    Quiet (bindNotes environ bound statement) := by
  unfold bindNotes
  split
  · split
    · refine (quiet_tableNotes _).append fun note h => ?_
      obtain ⟨table, -, rfl⟩ := List.mem_map.1 h
      rfl
    · exact quiet_assignNotes _ _
  · exact quiet_nil

theorem quiet_bindAllNotes (bound : Bound) (statements : List Statement) :
    Quiet (bindAllNotes environ bound statements) := by
  induction statements generalizing bound with
  | nil => exact quiet_nil
  | cons statement rest ih =>
    rw [bindAllNotes]
    split
    · exact (quiet_bindNotes _ _).append (ih _)
    · exact quiet_nil

theorem quiet_collectNotes (elements : List Element) : Quiet (collectNotes environ elements) := by
  fun_induction collectNotes environ elements with
  | case1 => exact quiet_nil
  | case2 _ name argument rest ih =>
    refine Quiet.append ?_ ih
    split
    · exact quiet_nil
    · exact quiet_unsetNotes argument
  | case3 _ _ _ _ _ ih => exact ih
  | case4 _ _ argument _ _ ih => exact (quiet_unsetNotes argument).append ih
  | case5 _ _ _ _ _ _ ih => exact ih
  | case6 _ entries _ ih => exact (quiet_tableNotes entries).append ih
  | case7 _ _ _ ih => exact ih

theorem quiet_statementNotes (bindings : FoldedTable Parameters) (known : FoldedTable String)
    (statement : Statement) : Quiet (statementNotes settings environ bindings known statement) := by
  cases statement with
  | assignment extent target operator value => exact quiet_assignNotes target value
  | other => exact quiet_nil
  | command command =>
    simp only [statementNotes]
    split
    · intro note h
      obtain ⟨argument, -, hm⟩ := List.mem_flatMap.1 h
      exact quiet_unsetNotes argument note hm
    · split
      · refine (quiet_collectNotes _).append ?_
        split
        · split
          · exact quiet_singleton rfl
          · exact quiet_nil
        · exact quiet_nil
      · exact quiet_singleton rfl

theorem quiet_compileAllNotes (bindings : FoldedTable Parameters) (known : FoldedTable String)
    (statements : List Statement) :
    Quiet (compileAllNotes settings environ bindings known statements) := by
  induction statements generalizing known with
  | nil => exact quiet_nil
  | cons statement rest ih =>
    rw [compileAllNotes]
    split
    · exact (quiet_statementNotes _ _ _).append (ih _)
    · exact quiet_nil

/-- There are no warnings about a block that is compiled. -/
theorem quiet_blockNotes (tables : Bound) (statements : List Statement) :
    Quiet (tables.blockNotes settings environ statements) := by
  refine (quiet_bindAllNotes _ _).append ?_
  split
  · exact quiet_compileAllNotes _ _ _
  · exact quiet_nil

end

/-! ## One block after the other -/

/-- What blocks come to if each of them is given to a new compiler, up to one that cannot be
compiled. -/
def planEach (settings : Settings) (environ : Environ) (sourceName : String) :
    List Page.Block → Noted (Except Numeral.IntegerFault (List BlockPlan))
  | [] => (.ok [], [])
  | block :: rest =>
    match planBlock settings environ sourceName block with
    | (.error fault, notes) => (.error fault, notes)
    | (.ok plan, notes) =>
      ((planEach settings environ sourceName rest).1.map (plan.toList ++ ·),
        notes ++ (planEach settings environ sourceName rest).2)

theorem Compiler.result_planBlocks (compiler : Compiler) (sourceName : String)
    (blocks : List Page.Block) :
    result (compiler.planBlocks sourceName blocks) =
      planEach compiler.settings compiler.environ sourceName blocks := by
  induction blocks generalizing compiler with
  | nil => rfl
  | cons block rest ih =>
    rw [planBlocks, planEach, ← compiler.result_planBlock]
    cases h : compiler.planBlock sourceName block with
    | mk outcome notes =>
      cases outcome with
      | error fault => rfl
      | ok out =>
        obtain ⟨plan, after⟩ := out
        -- The next block finds other tables, but the same settings and environment.
        have hkeeps := planBlock_keeps (congrArg Prod.fst h)
        have hrest := ih after
        rw [hkeeps.1, hkeeps.2] at hrest
        simp only [result, Except.map, ← hrest]
        cases after.planBlocks sourceName rest with
        | mk outcome more => cases outcome <;> rfl

theorem Compiler.planBlocks_keeps {compiler after : Compiler} {sourceName : String}
    {blocks : List Page.Block} {plans : List BlockPlan}
    (h : (compiler.planBlocks sourceName blocks).1 = .ok (plans, after)) :
    after.settings = compiler.settings ∧ after.environ = compiler.environ := by
  induction blocks generalizing compiler plans with
  | nil =>
    cases h
    exact ⟨rfl, rfl⟩
  | cons block rest ih =>
    rw [planBlocks] at h
    split at h
    · cases h
    · rename_i plan next notes hb
      obtain ⟨out, ho, he⟩ := ok_of_map h
      cases he
      have hnext := planBlock_keeps (congrArg Prod.fst hb)
      have hafter := ih ho
      exact ⟨hafter.1.trans hnext.1, hafter.2.trans hnext.2⟩

/-- What a compiler makes of blocks, said without its tables. -/
theorem Compiler.result_plan_eq (compiler : Compiler) (sourceName : Option String)
    (blocks : List Page.Block) :
    result (compiler.plan sourceName blocks) =
      match planEach compiler.settings compiler.environ (compiler.label sourceName) blocks with
      | (.error fault, notes) => (.error fault, notes)
      | (.ok plans, notes) =>
        (.ok ⟨compiler.label sourceName, plans⟩,
          notes ++ [.planned plans.length (compiler.label sourceName)]) := by
  rw [← compiler.result_planBlocks, plan]
  cases compiler.planBlocks (compiler.label sourceName) blocks with
  | mk outcome notes => cases outcome <;> rfl

theorem Compiler.plan_keeps {compiler after : Compiler} {sourceName : Option String}
    {blocks : List Page.Block} {whole : Plan}
    (h : (compiler.plan sourceName blocks).1 = .ok (whole, after)) :
    after.settings = compiler.settings ∧ after.environ = compiler.environ := by
  rw [plan] at h
  split at h
  · cases h
  · rename_i plans next notes hb
    cases h
    exact planBlocks_keeps (congrArg Prod.fst hb)

theorem Compiler.plan_ok {compiler after : Compiler} {sourceName : Option String}
    {blocks : List Page.Block} {whole : Plan}
    (h : (compiler.plan sourceName blocks).1 = .ok (whole, after)) :
    (planEach compiler.settings compiler.environ (compiler.label sourceName) blocks).1 =
        .ok whole.blocks ∧
      (compiler.plan sourceName blocks).2 =
        (planEach compiler.settings compiler.environ (compiler.label sourceName) blocks).2 ++
          [.planned whole.blocks.length (compiler.label sourceName)] := by
  have heq := compiler.result_plan_eq sourceName blocks
  rw [result, h] at heq
  split at heq
  · cases heq
  · rename_i plans notes he
    obtain ⟨hw, hn⟩ := Prod.mk.inj heq
    cases hw
    rw [he, hn]
    exact ⟨rfl, rfl⟩

theorem Compiler.plan_returns {compiler : Compiler} {sourceName : Option String}
    {blocks : List Page.Block} {plans : List BlockPlan}
    (h : (planEach compiler.settings compiler.environ (compiler.label sourceName) blocks).1 =
      .ok plans) :
    ∃ whole after, (compiler.plan sourceName blocks).1 = .ok (whole, after) := by
  have heq := congrArg Prod.fst (compiler.result_plan_eq sourceName blocks)
  split at heq
  · rename_i he
    rw [he] at h
    cases h
  · obtain ⟨⟨whole, after⟩, hw, -⟩ := ok_of_map heq
    exact ⟨whole, after, hw⟩

/-- A block that cannot be compiled ends the compilation. -/
theorem Compiler.plan_error {compiler : Compiler} {sourceName : Option String} {block : Page.Block}
    {rest : List Page.Block} {fault : Numeral.IntegerFault}
    (h : (Compile.planBlock compiler.settings compiler.environ (compiler.label sourceName) block).1 =
      .error fault) :
    (compiler.plan sourceName (block :: rest)).1 = .error fault := by
  have heq := congrArg Prod.fst (compiler.result_plan_eq sourceName (block :: rest))
  rw [planEach] at heq
  cases hb : Compile.planBlock compiler.settings compiler.environ (compiler.label sourceName) block with
  | mk outcome notes =>
    rw [hb] at h heq
    cases h
    cases hp : (compiler.plan sourceName (block :: rest)).1 with
    | error other =>
      rw [result, hp] at heq
      cases heq
      rfl
    | ok out =>
      rw [result, hp] at heq
      cases heq

/-- A compiler that has compiled something compiles everything as before. -/
theorem Compiler.result_plan_after {compiler after : Compiler} {sourceName : Option String}
    {blocks : List Page.Block} {whole : Plan}
    (h : (compiler.plan sourceName blocks).1 = .ok (whole, after)) (sourceName' : Option String)
    (blocks' : List Page.Block) :
    result (after.plan sourceName' blocks') = result (compiler.plan sourceName' blocks') := by
  obtain ⟨hs, he⟩ := plan_keeps h
  rw [result_plan_eq, result_plan_eq, label, label, hs, he]

/-! ## What a block adds -/

section

variable {settings : Settings} {environ : Environ} {sourceName : String}

/-- What a block adds to a plan and to the journal. If nothing in it is complained about, it adds one
plan with its own number and the operations that a new compiler gives for it alone, and no warning; and
else one warning with the first complaint and nothing more. -/
inductive Contributes (settings : Settings) (environ : Environ) (sourceName : String)
    (block : Page.Block) : List BlockPlan → List Note → Prop where
  | planned {reading : Script.Reading} {operations : List Operation} {notes : List Note} :
    Script.read block.text = .ok reading →
    reading.diagnostics sourceName (some block.index) = [] →
    planBlock settings environ sourceName block = (.ok (some ⟨block.index, operations⟩), notes) →
    Quiet notes → Contributes settings environ sourceName block [⟨block.index, operations⟩] notes
  | skipped {reading : Script.Reading} {first : Diagnostic} {others : List Diagnostic} :
    Script.read block.text = .ok reading →
    reading.diagnostics sourceName (some block.index) = first :: others →
    Contributes settings environ sourceName block [] [.blockSkipped block.index first.format]

/-- What a new compiler makes of a block, as something added to a plan. -/
def contribution (settings : Settings) (environ : Environ) (sourceName : String)
    (block : Page.Block) : List BlockPlan × List Note :=
  let outcome := planBlock settings environ sourceName block
  (outcome.1.toOption.join.toList, outcome.2)

theorem contributes_of_planBlock {block : Page.Block} {plan : Option BlockPlan}
    (h : (planBlock settings environ sourceName block).1 = .ok plan) :
    Contributes settings environ sourceName block
      (contribution settings environ sourceName block).1
      (contribution settings environ sourceName block).2 := by
  cases hr : Script.read block.text with
  | error fault =>
    rw [planBlock_unread block hr] at h
    cases h
  | ok reading =>
    cases hd : reading.diagnostics sourceName (some block.index) with
    | cons first others =>
      rw [contribution, planBlock_skipped block hr hd]
      exact .skipped hr hd
    | nil =>
      have hp : planBlock settings environ sourceName block = _ := planBlock_clean block hr hd
      cases hc : compileBlock settings environ reading.statements with
      | error fault =>
        rw [hp, hc] at h
        cases h
      | ok operations =>
        rw [hc] at hp
        rw [contribution, hp]
        exact .planned hr hd hp ((quiet_blockNotes _ _).append (quiet_singleton rfl))

theorem planEach_ok {blocks : List Page.Block} {plans : List BlockPlan}
    (h : (planEach settings environ sourceName blocks).1 = .ok plans) :
    (∀ block ∈ blocks, ∃ plan, (planBlock settings environ sourceName block).1 = .ok plan) ∧
      plans = blocks.flatMap (fun block => (contribution settings environ sourceName block).1) ∧
      (planEach settings environ sourceName blocks).2 =
        blocks.flatMap (fun block => (contribution settings environ sourceName block).2) := by
  induction blocks generalizing plans with
  | nil =>
    cases h
    exact ⟨nofun, rfl, rfl⟩
  | cons block rest ih =>
    rw [planEach] at h ⊢
    split at h
    · cases h
    · rename_i plan notes hb
      obtain ⟨others, ho, rfl⟩ := ok_of_map h
      obtain ⟨hall, rfl, hnotes⟩ := ih ho
      have hc : contribution settings environ sourceName block = (plan.toList, notes) := by
        rw [contribution, hb]
        rfl
      refine ⟨List.forall_mem_cons.2 ⟨⟨plan, congrArg Prod.fst hb⟩, hall⟩, ?_, ?_⟩
      · rw [List.flatMap_cons, hc]
      · rw [List.flatMap_cons, hc, ← hnotes]

theorem planEach_returns {blocks : List Page.Block}
    (h : ∀ block ∈ blocks, ∃ plan, (planBlock settings environ sourceName block).1 = .ok plan) :
    ∃ plans, (planEach settings environ sourceName blocks).1 = .ok plans := by
  induction blocks with
  | nil => exact ⟨[], rfl⟩
  | cons block rest ih =>
    obtain ⟨⟨plan, hp⟩, hrest⟩ := List.forall_mem_cons.1 h
    obtain ⟨plans, ho⟩ := ih hrest
    refine ⟨plan.toList ++ plans, ?_⟩
    rw [planEach]
    split
    · rename_i hb
      rw [hb] at hp
      cases hp
    · rename_i hb
      rw [hb] at hp
      cases hp
      rw [ho]
      rfl

end

/-- A plan, and the notes on it, are put together from what its blocks add. -/
theorem Compiler.contributions_of_plan {compiler after : Compiler} {sourceName : Option String}
    {blocks : List Page.Block} {whole : Plan}
    (h : (compiler.plan sourceName blocks).1 = .ok (whole, after)) :
    ∃ added : Page.Block → List BlockPlan × List Note,
      (∀ block ∈ blocks, Contributes compiler.settings compiler.environ (compiler.label sourceName)
        block (added block).1 (added block).2) ∧
      whole.blocks = blocks.flatMap (fun block => (added block).1) ∧
      (compiler.plan sourceName blocks).2 = blocks.flatMap (fun block => (added block).2) ++
        [.planned whole.blocks.length (compiler.label sourceName)] := by
  obtain ⟨he, hnotes⟩ := plan_ok h
  obtain ⟨hall, hblocks, hadded⟩ := planEach_ok he
  refine ⟨_, fun block hb => ?_, hblocks, ?_⟩
  · obtain ⟨plan, hp⟩ := hall block hb
    exact contributes_of_planBlock hp
  · rw [hnotes, hadded]

/-- Every block adds to a plan what it adds alone, whatever the compiler has compiled before, and the
compiler makes the same plan again. There is a plan exactly if each block, alone, can be compiled. -/
theorem Compiler.plan_of_contributions (compiler : Compiler) (sourceName : Option String)
    (blocks : List Page.Block) :
    ((∃ whole after, (compiler.plan sourceName blocks).1 = .ok (whole, after)) ↔
      ∀ block ∈ blocks, ∃ plan, (Compile.planBlock compiler.settings compiler.environ
        (compiler.label sourceName) block).1 = .ok plan) ∧
    ∀ whole after, (compiler.plan sourceName blocks).1 = .ok (whole, after) →
      (∃ added : Page.Block → List BlockPlan × List Note,
        (∀ block ∈ blocks, Contributes compiler.settings compiler.environ
          (compiler.label sourceName) block (added block).1 (added block).2) ∧
        whole.blocks = blocks.flatMap (fun block => (added block).1) ∧
        (compiler.plan sourceName blocks).2 = blocks.flatMap (fun block => (added block).2) ++
          [.planned whole.blocks.length (compiler.label sourceName)]) ∧
      result (after.plan sourceName blocks) = result (compiler.plan sourceName blocks) := by
  refine ⟨⟨?_, ?_⟩, ?_⟩
  · rintro ⟨whole, after, h⟩
    exact (planEach_ok (plan_ok h).1).1
  · intro h
    obtain ⟨plans, hp⟩ := planEach_returns h
    exact plan_returns hp
  · intro whole after h
    exact ⟨contributions_of_plan h, result_plan_after h sourceName blocks⟩

end PageScript.Compile

/-! ## A number that is read but not written -/

namespace PageScript.Numeral

theorem takeDigits_hex (n : Nat) :
    takeDigits hexValue? (List.replicate n 'F') = (List.replicate n 15, []) := by
  induction n with
  | zero => rfl
  | succ n ih =>
    have hv : hexValue? 'F' = some 15 := rfl
    rw [List.replicate_succ, takeDigits, hv, ih]
    rfl

theorem ofDigits_hex (n : Nat) : ofDigits 16 (List.replicate n 15) + 1 = Nat.pow 16 n := by
  have step (a : Nat) :
      (List.replicate n 15).foldl (fun n d => n * 16 + d) a + 1 = (a + 1) * Nat.pow 16 n := by
    induction n generalizing a with
    | zero => exact (Nat.mul_one _).symm
    | succ n ih =>
      have hp : Nat.pow 16 (n + 1) = 16 * Nat.pow 16 n := Nat.mul_comm _ _
      rw [List.replicate_succ, List.foldl_cons, ih, hp, ← Nat.mul_assoc, Nat.add_mul a 1 16]
  exact (step 0).trans (Nat.one_mul _)

end PageScript.Numeral

namespace PageScript.Script

/-- A hexadecimal number of which all digits are the same. -/
def hexNumber (n : Nat) : List Char := '0' :: 'x' :: List.replicate (n + 1) 'F'

theorem wordRest_hexNumber (n : Nat) : wordRest (hexNumber n) = [] := by
  have hdigits (m : Nat) : wordRest (List.replicate m 'F') = [] := by
    induction m with
    | zero => rw [List.replicate_zero, wordRest]
    | succ m ih =>
      have hf : endsWord 'F' = false := by decide +kernel
      rw [List.replicate_succ, wordRest_plain (by decide), hf, ih]
      rfl
  have h0 : endsWord '0' = false := by decide +kernel
  have hx : endsWord 'x' = false := by decide +kernel
  rw [hexNumber, wordRest_plain (by decide), h0, wordRest_plain (by decide), hx, hdigits]
  rfl

theorem wordExpr_hexNumber (n : Nat) (extent : Extent) :
    wordExpr extent (String.ofList (hexNumber n)) =
      .ok (.number extent (.integer (Numeral.ofDigits 16 (List.replicate (n + 1) 15)))) := by
  have ht : Numeral.Literal.ofText? (hexNumber n) =
      some (.hexadecimal false (List.replicate (n + 1) 15)) := by
    rw [Numeral.Literal.ofText?, Numeral.Literal.take?_marked rfl rfl, Numeral.takeDigits_hex]
    rfl
  rw [wordExpr, String.toList_ofList, ht]
  rfl

theorem word_whole {text : List Char} (hne : text ≠ []) (h : wordRest text = []) :
    ∃ found, word text = .ok found ∧ found.value = String.ofList text ∧ found.rest = [] := by
  have hlt : (wordRest text).length < text.length := by
    rw [h]
    exact List.length_pos_iff.2 hne
  refine ⟨_, dif_pos hlt, ?_, h⟩
  simp only [h, List.length_nil, Nat.sub_zero, List.take_length]

/-- A hexadecimal number is an argument from end to end. -/
theorem argument_hexNumber (n : Nat) :
    ∃ found extent, argument hashtable (hexNumber n) = .ok found ∧ found.rest = [] ∧
      found.value = .number extent (.integer (Numeral.ofDigits 16 (List.replicate (n + 1) 15))) := by
  have hne : hexNumber n ≠ [] := List.cons_ne_nil _ _
  obtain ⟨found, hw, hv, hr⟩ := word_whole hne (wordRest_hexNumber n)
  have hp : primary? hashtable (hexNumber n) = .ok none := primary?_none (by decide) _ _
  have he := wordExpr_hexNumber n (.between (hexNumber n) found.rest)
  have ha : argument hashtable (hexNumber n) = .ok (found.map fun _ => .number
      (.between (hexNumber n) found.rest)
      (.integer (Numeral.ofDigits 16 (List.replicate (n + 1) 15)))) := by
    rw [argument, hp]
    show word (hexNumber n) >>= _ = _
    rw [hw]
    show liftNumeral (wordExpr (.between (hexNumber n) found.rest) found.value) >>= _ = _
    rw [hv, he]
    rfl
  exact ⟨_, _, ha, hr, rfl⟩

theorem startsArgument_hexNumber (n : Nat) : StartsArgument (hexNumber n) :=
  ⟨skipInline_plain rfl (by decide) (by decide) (by decide) _, rfl, by simp [hexNumber]⟩

theorem noPair_hexNumber (n : Nat) : NoPair (hexNumber n) := by
  intro h
  have hm : '\r' ∈ hexNumber n := h.subset List.mem_cons_self
  simp [hexNumber, List.mem_replicate] at hm

end PageScript.Script

namespace PageScript.Compile

open Script (writeHead hexNumber)

/-- A block that writes a number of too many decimal digits, which it gives in hexadecimal. -/
def unwritable : Page.Block := ⟨String.ofList (writeHead ++ hexNumber 3999), 0⟩

/-- A block that writes a letter. -/
def plain : Page.Block := ⟨String.ofList (writeHead ++ Script.inApostrophes ['x']), 1⟩

theorem resolve_hexNumber {n : Nat} (h : Nat.pow 10 Numeral.digitLimit < Nat.pow 16 (n + 1))
    (scope : Scope) (extent : Script.Extent) :
    scope.resolve (.number extent (.integer (Numeral.ofDigits 16 (List.replicate (n + 1) 15)))) =
      .error .tooLarge := by
  have hd := Numeral.ofDigits_hex (n + 1)
  rw [Scope.resolve, Numeral.Number.write, Numeral.write, Int.natAbs_natCast, if_neg (by omega)]

/-- A block that is in order, but writes a number that is too large, is read and not compiled. -/
theorem planBlock_hexNumber {n : Nat} (h : Nat.pow 10 Numeral.digitLimit < Nat.pow 16 (n + 1))
    (settings : Settings) (environ : Environ) (sourceName : String) (index : Nat) :
    (∃ reading, Script.read (String.ofList (writeHead ++ hexNumber n)) = .ok reading ∧
      reading.diagnostics sourceName (some index) = []) ∧
    (planBlock settings environ sourceName ⟨String.ofList (writeHead ++ hexNumber n), index⟩).1 =
      .error .tooLarge := by
  obtain ⟨found, extent, ha, hr, hv⟩ := Script.argument_hexNumber n
  obtain ⟨whole, hread⟩ := Script.read_write (Script.startsArgument_hexNumber n) ha hr
    (Script.noPair_hexNumber n)
  have hc := compileBlock_write found.value settings environ whole
  rw [hv, resolve_hexNumber h, ← hv] at hc
  refine ⟨⟨_, hread, rfl⟩, ?_⟩
  rw [planBlock_clean ⟨String.ofList (writeHead ++ hexNumber n), index⟩ hread rfl, hc]
  rfl

theorem compilesTo_plain :
    CompilesTo (writeHead ++ Script.inApostrophes ['x']) [.emitText "x"] := by
  have starts : Script.StartsArgument (Script.inApostrophes ['x']) :=
    ⟨Script.skipInline_plain rfl (by decide) (by decide) (by decide) _, rfl, by decide⟩
  have whole : Script.NoPair ['x'] := show ¬ ['\r', '\n'] <:+: ['x'] by decide
  exact compilesTo_of_denotes (Script.denotes_inApostrophes ['x']) starts
    (Script.noPair_inApostrophes whole) (by decide)

/-- A block that cannot be compiled takes the plan from the other blocks, although nothing is complained
about in any of them. -/
theorem Compiler.plan_not_isolated :
    (∀ block ∈ [unwritable, plain], ∃ reading, Script.read block.text = .ok reading ∧
      reading.diagnostics "index.html" (some block.index) = []) ∧
    (Compile.planBlock {} (fun _ => none) "index.html" plain).1 = .ok (some ⟨1, [.emitText "x"]⟩) ∧
    (Compiler.plan { settings := {}, environ := fun _ => none } none [unwritable, plain]).1 =
      .error .tooLarge := by
  have hlarge : Nat.pow 10 Numeral.digitLimit < Nat.pow 16 (3999 + 1) := by decide +kernel
  obtain ⟨hunwritable, hfault⟩ := planBlock_hexNumber hlarge {} (fun _ => none) "index.html" 0
  obtain ⟨⟨reading, hread, -, hclean⟩, hplain⟩ := compilesTo_plain {} (fun _ => none) "index.html" 1
  refine ⟨?_, hplain, ?_⟩
  · exact List.forall_mem_cons.2
      ⟨hunwritable, List.forall_mem_singleton.2 ⟨reading, hread, hclean⟩⟩
  · exact plan_error hfault

end PageScript.Compile
