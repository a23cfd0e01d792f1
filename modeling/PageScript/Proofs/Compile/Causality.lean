import PageScript.Compile.Block
import PageScript.Found
import PageScript.Proofs.FoldedTable

/-!
# What a later statement does to an earlier command

Statements added at the end of a block leave the number and the order of the operations in front of
them alone, and the variables that those see. The hashtables are another matter: the first pass is
over before the first command is compiled, so a splat sees the hashtable that its variable holds at
the end of the block.
-/

namespace PageScript.Compile

open Script (Expr Element Statement)

/-! ## The first pass -/

/-- The variable whose hashtable a statement records or drops. -/
def assigned? : Statement → Option String
  | .assignment _ (.reference _ name _ _) _ _ => some name
  | _ => none

/-- No statement assigns to a variable. -/
def Untouched (name : String) (statements : List Statement) : Prop :=
  ∀ statement ∈ statements, ∀ other, assigned? statement = some other → sameName name other = false

theorem rebind_get? {scope : Scope} {bindings after : FoldedTable Parameters} {target name : String}
    {operator : Script.AssignOp} {value : Expr} (hn : sameName name target = false)
    (h : scope.rebind bindings target operator value = .ok after) :
    after.get? name = bindings.get? name := by
  unfold Scope.rebind at h
  split at h
  · obtain ⟨table, -, ht⟩ := ok_of_bind h
    cases ht
    rw [FoldedTable.get?_insert, hn]
    rfl
  · cases h
    rw [FoldedTable.get?_erase, hn]
    rfl

theorem bindStatement_get? {environ : Environ} {bound after : Bound} {statement : Statement}
    {name : String} (hn : ∀ other, assigned? statement = some other → sameName name other = false)
    (h : bindStatement environ bound statement = .ok after) :
    after.bindings.get? name = bound.bindings.get? name := by
  unfold bindStatement at h
  split at h
  · obtain ⟨bindings, hb, h⟩ := ok_of_bind h
    obtain ⟨known, -, h⟩ := ok_of_bind h
    cases h
    exact rebind_get? (hn _ rfl) hb
  · cases h
    rfl

/-- Statements that do not assign to a variable keep its hashtable. -/
theorem foldlM_bindStatement_get? {environ : Environ} {bound after : Bound}
    {statements : List Statement} {name : String} (hn : Untouched name statements)
    (h : statements.foldlM (bindStatement environ) bound = .ok after) :
    after.bindings.get? name = bound.bindings.get? name := by
  induction statements generalizing bound with
  | nil =>
    cases h
    rfl
  | cons statement rest ih =>
    rw [List.foldlM_cons] at h
    obtain ⟨between, hb, hr⟩ := ok_of_bind h
    rw [ih (fun s hs => hn s (List.mem_cons_of_mem _ hs)) hr,
      bindStatement_get? (hn statement List.mem_cons_self) hb]

/-- The hashtables of a longer block, where the statements added do not assign. -/
theorem bindAll_append_get? {environ : Environ} {first rest : List Statement} {bound : Bound}
    (h : bindAll environ (first ++ rest) = .ok bound) :
    ∃ before, bindAll environ first = .ok before ∧
      ∀ name, Untouched name rest → bound.bindings.get? name = before.bindings.get? name := by
  rw [bindAll, List.foldlM_append] at h
  obtain ⟨before, hb, hr⟩ := ok_of_bind h
  exact ⟨before, hb, fun name hn => foldlM_bindStatement_get? hn hr⟩

/-! ## The hashtables a command reads -/

/-- The variables that the words of a command splat, with a word that a parameter takes left out. -/
def splatNames : List Element → List String
  | [] => []
  | .parameter _ _ (some _) :: rest => splatNames rest
  | .parameter _ name none :: .value argument :: rest =>
    if name.isEmpty then splatNames (.value argument :: rest) else splatNames rest
  | .parameter _ _ none :: rest => splatNames rest
  | .value (.reference _ name _ true) :: rest => name :: splatNames rest
  | .value _ :: rest => splatNames rest

/-- The variables whose hashtables a statement reads. -/
def splats : Statement → List String
  | .command command =>
    if Text.fold command.name == readCommand then splatNames command.elements else []
  | _ => []

theorem collectFrom_congr {scope : Scope} {bindings others : FoldedTable Parameters}
    {parameters : Parameters} {elements : List Element}
    (h : ∀ name ∈ splatNames elements, bindings.get? name = others.get? name) :
    scope.collectFrom bindings parameters elements =
      scope.collectFrom others parameters elements := by
  fun_induction splatNames elements generalizing parameters with
  | case1 => rw [Scope.collectFrom, Scope.collectFrom]
  | case2 extent name argument rest ih =>
    simp only [Scope.collectFrom, fun parameters => @ih parameters h]
  | case3 extent name argument rest he ih =>
    simp only [Scope.collectFrom, he, if_true, @ih parameters h]
  | case4 extent name argument rest he ih =>
    simp only [Scope.collectFrom, fun parameters => @ih parameters h, if_neg he]
  | case5 extent name rest hr ih =>
    rw [Scope.collectFrom_switch hr, Scope.collectFrom_switch hr]
    simp only [fun parameters => @ih parameters h]
  | case6 extent name drive rest ih =>
    have hn := h name List.mem_cons_self
    have hr := fun parameters => @ih parameters fun other ho => h other (List.mem_cons_of_mem _ ho)
    simp only [Scope.collectFrom, hn, hr]
  | case7 value rest hv ih =>
    cases value with
    | reference extent name drive splatted =>
      cases splatted with
      | true => exact absurd rfl (hv extent name drive)
      | false => simp only [Scope.collectFrom, @ih parameters h]
    | _ => simp only [Scope.collectFrom, fun parameters => @ih parameters h]

/-! ## The second pass -/

section

variable {settings : Settings} {environ : Environ} {bindings others : FoldedTable Parameters}
  {known : FoldedTable String}

theorem commandOperations_congr {scope : Scope} {command : Script.Command}
    (h : ∀ name ∈ splats (.command command), bindings.get? name = others.get? name) :
    scope.commandOperations settings bindings command =
      scope.commandOperations settings others command := by
  rw [splats] at h
  simp only [Scope.commandOperations, Scope.collect]
  cases hr : Text.fold command.name == readCommand with
  | true =>
    rw [hr, if_pos rfl] at h
    rw [collectFrom_congr h]
  | false => rfl

theorem compileStatement_congr {statement : Statement}
    (h : ∀ name ∈ splats statement, bindings.get? name = others.get? name) :
    compileStatement settings environ bindings known statement =
      compileStatement settings environ others known statement := by
  cases statement with
  | assignment extent target operator value => rfl
  | command command => rw [compileStatement, compileStatement, commandOperations_congr h]
  | other extent kind => rfl

theorem compileAll_congr {statements : List Statement}
    (h : ∀ statement ∈ statements, ∀ name ∈ splats statement, bindings.get? name = others.get? name) :
    compileAll settings environ bindings known statements =
      compileAll settings environ others known statements := by
  induction statements generalizing known with
  | nil => rfl
  | cons statement rest ih =>
    rw [List.forall_mem_cons] at h
    rw [compileAll, compileAll, compileStatement_congr h.1]
    simp only [fun known => @ih known h.2]

/-- Whatever the hashtables are, a statement gives as many operations and leaves the same variables. -/
theorem compileStatement_shape {statement : Statement} {operations changed : List Operation}
    {after next : FoldedTable String}
    (h : compileStatement settings environ bindings known statement = .ok (operations, after))
    (h' : compileStatement settings environ others known statement = .ok (changed, next)) :
    operations.length = changed.length ∧ after = next := by
  cases statement with
  | assignment extent target operator value =>
    cases h.symm.trans h'
    exact ⟨rfl, rfl⟩
  | command command =>
    rw [compileStatement] at h h'
    obtain ⟨found, hf, h⟩ := ok_of_bind h
    obtain ⟨found', hf', h'⟩ := ok_of_bind h'
    cases h
    cases h'
    refine ⟨?_, rfl⟩
    simp only [Scope.commandOperations] at hf hf'
    split at hf
    · rename_i hw
      rw [if_pos hw, hf] at hf'
      cases hf'
      rfl
    · rename_i hw
      rw [if_neg hw] at hf'
      split at hf
      · rename_i hr
        rw [if_pos hr] at hf'
        obtain ⟨parameters, -, hf⟩ := ok_of_bind hf
        obtain ⟨parameters', -, hf'⟩ := ok_of_bind hf'
        obtain ⟨operation, -, hf⟩ := ok_of_bind hf
        obtain ⟨operation', -, hf'⟩ := ok_of_bind hf'
        cases hf
        cases hf'
        rfl
      · rename_i hr
        rw [if_neg hr] at hf'
        cases hf
        cases hf'
        rfl
  | other extent kind =>
    cases h.symm.trans h'
    exact ⟨rfl, rfl⟩

theorem compileAll_length {statements : List Statement} {operations changed : List Operation}
    (h : compileAll settings environ bindings known statements = .ok operations)
    (h' : compileAll settings environ others known statements = .ok changed) :
    operations.length = changed.length := by
  induction statements generalizing known operations changed with
  | nil =>
    cases h.symm.trans h'
    rfl
  | cons statement rest ih =>
    rw [compileAll] at h h'
    obtain ⟨⟨first, after⟩, hs, h⟩ := ok_of_bind h
    obtain ⟨⟨first', after'⟩, hs', h'⟩ := ok_of_bind h'
    obtain ⟨hl, rfl⟩ := compileStatement_shape hs hs'
    obtain ⟨more, hm, hj⟩ := ok_of_bind h
    obtain ⟨more', hm', hj'⟩ := ok_of_bind h'
    cases hj
    cases hj'
    rw [List.length_append, List.length_append, hl, ih hm hm']

theorem compileAll_append {first rest : List Statement} {operations : List Operation}
    (h : compileAll settings environ bindings known (first ++ rest) = .ok operations) :
    ∃ before after, compileAll settings environ bindings known first = .ok before ∧
      operations = before ++ after := by
  induction first generalizing known operations with
  | nil => exact ⟨[], operations, rfl, rfl⟩
  | cons statement first ih =>
    rw [List.cons_append, compileAll] at h
    obtain ⟨⟨found, next⟩, hs, h⟩ := ok_of_bind h
    obtain ⟨more, hm, h⟩ := ok_of_bind h
    obtain ⟨before, after, hb, rfl⟩ := ih hm
    cases h
    refine ⟨found ++ before, after, ?_, (List.append_assoc ..).symm⟩
    rw [compileAll, hs]
    show (do
      return found ++ (← compileAll settings environ bindings next first)) = _
    rw [hb]
    rfl

end

/-! ## Blocks -/

/-- What statements added at the end of a block do to it. The operations in front are those of the
same statements, compiled against the hashtables that the variables hold at the end of the longer
block; they are the ones from before exactly if that makes no difference, and it makes none if no
hashtable that one of the commands reads is assigned in what was added. A command that reads none that
is assigned behind it is compiled against the hashtables recorded in front of it. -/
theorem compileBlock_append {settings : Settings} {environ : Environ} {first rest : List Statement}
    {operations longer : List Operation} (h : compileBlock settings environ first = .ok operations)
    (h' : compileBlock settings environ (first ++ rest) = .ok longer) :
    ∃ bound, bindAll environ (first ++ rest) = .ok bound ∧
      compileAll settings environ bound.bindings .empty first =
        .ok (longer.take operations.length) ∧
      (operations <+: longer ↔
        compileAll settings environ bound.bindings .empty first = .ok operations) ∧
      ((∀ statement ∈ first, ∀ name ∈ splats statement, Untouched name rest) →
        operations <+: longer) ∧
      ∀ before command after, first ++ rest = before ++ .command command :: after →
        (∀ name ∈ splats (.command command), Untouched name after) →
        ∃ recorded, bindAll environ before = .ok recorded ∧
          ∀ known, Scope.commandOperations { environ, known } settings bound.bindings command =
            Scope.commandOperations { environ, known } settings recorded.bindings command := by
  rw [compileBlock] at h h'
  obtain ⟨early, he, hc⟩ := ok_of_bind h
  obtain ⟨bound, hb, hc'⟩ := ok_of_bind h'
  obtain ⟨start, more, hs, rfl⟩ := compileAll_append hc'
  have hl := compileAll_length hc hs
  have ht : (start ++ more).take operations.length = start := by
    rw [hl, List.take_left]
  have iff : operations <+: start ++ more ↔
      compileAll settings environ bound.bindings .empty first = .ok operations := by
    rw [List.prefix_iff_eq_take, ht, hs, Except.ok.injEq, eq_comm]
  refine ⟨bound, hb, by rw [ht, hs], iff, ?_, ?_⟩
  · intro hu
    obtain ⟨recorded, hr, hsame⟩ := bindAll_append_get? hb
    cases he.symm.trans hr
    rw [iff, ← hc]
    exact compileAll_congr fun statement hm name hn => hsame name (hu statement hm name hn)
  · intro before command after hsplit hu
    rw [hsplit] at hb
    obtain ⟨recorded, hr, hsame⟩ := bindAll_append_get? hb
    refine ⟨recorded, hr, fun known => commandOperations_congr fun name hn => hsame name ?_⟩
    intro statement hm other ho
    cases hm with
    | head => cases ho
    | tail _ hm => exact hu name hn statement hm other ho

/-- `'text'` -/
def quotedText (text : String) : Expr := .string ⟨"'" ++ text ++ "'", 0⟩ text .single

/-- `$name = 'text'` -/
def assignText (name text : String) : Statement :=
  .assignment ⟨"$" ++ name ++ " = '" ++ text ++ "'", 0⟩ (.reference ⟨"$" ++ name, 0⟩ name none false)
    .set (quotedText text)

/-- A hashtable in `$p`, and a command that reads it. -/
def splatBlock : List Statement :=
  [.assignment ⟨"$p = @\x7b ... \x7d", 0⟩ (.reference ⟨"$p", 0⟩ "p" none false) .set
      (.hashtable ⟨"@\x7b ... \x7d", 0⟩
        [(quotedText "ConnectionString", quotedText "s"), (quotedText "DatabaseName", quotedText "d"),
          (quotedText "ContainerName", quotedText "c")]),
    .command ⟨⟨"Read-AzCosmosItems @p", 0⟩, "Read-AzCosmosItems",
      [.value (.reference ⟨"@p", 0⟩ "p" none true)]⟩]

/-- The query of that command, as long as `$p` keeps its hashtable. -/
def splatQuery : Operation :=
  .readFirstItem "s" { database := "d", container := "c", text := "SELECT TOP 1 * FROM c" }

theorem compileBlock_append_otherVariable :
    compileBlock {} (fun _ => none) splatBlock = .ok [splatQuery] ∧
      compileBlock {} (fun _ => none) (splatBlock ++ [assignText "q" "x"]) = .ok [splatQuery] ∧
      (∀ statement ∈ splatBlock, ∀ name ∈ splats statement,
        Untouched name [assignText "q" "x"]) ∧
      [splatQuery] <+: [splatQuery] := by
  have h : compileBlock {} (fun _ => none) splatBlock = .ok [splatQuery] := rfl
  have h' : compileBlock {} (fun _ => none) (splatBlock ++ [assignText "q" "x"]) = .ok [splatQuery] :=
    rfl
  have hu : ∀ statement ∈ splatBlock, ∀ name ∈ splats statement,
      Untouched name [assignText "q" "x"] := by
    intro statement hs name hn
    have hp : name = "p" := by
      rcases List.mem_cons.1 hs with rfl | hs
      · cases hn
      · rw [List.mem_singleton.1 hs] at hn
        exact List.mem_singleton.1 hn
    intro assignment ha other ho
    rw [List.mem_singleton.1 ha] at ho
    cases ho
    rw [hp]
    rfl
  obtain ⟨-, -, -, -, unchanged, -⟩ := compileBlock_append h h'
  exact ⟨h, h', hu, unchanged hu⟩

/-- A text assigned to `$p` behind the command takes the hashtable away from it. -/
theorem compileBlock_not_causal :
    compileBlock {} (fun _ => none) splatBlock = .ok [splatQuery] ∧
      compileBlock {} (fun _ => none) (splatBlock ++ [assignText "p" "x"]) =
        .ok [.emitText Message.missingParameters] ∧
      ¬[splatQuery] <+: [.emitText Message.missingParameters] :=
  ⟨rfl, rfl, by decide⟩

end PageScript.Compile
