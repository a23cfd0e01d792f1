import PageScript.Proofs.Compile.Replay

/-!
# The statements that count

Compilation looks at assignments and at two commands. Every other statement can be left out of a block:
it leaves both tables alone and has no operations. A block compiles to what its statements yield one
after the other, which is one operation for a command that reads, at most one for a command that
writes, and nothing else.
-/

namespace PageScript.Compile

open Script (Expr Extent Statement)

variable {settings : Settings} {environ : Environ} {bindings : FoldedTable Parameters}

/-- Assignments, and the two commands with a meaning. -/
def counts : Statement → Bool
  | .assignment .. => true
  | .command command =>
    Text.fold command.name == writeCommand || Text.fold command.name == readCommand
  | .other .. => false

/-! ## The statements that do not count -/

section

variable {statement : Statement} (h : counts statement = false)
include h

theorem recordStatement_of_not_counts (known : FoldedTable String) :
    recordStatement environ known statement = .ok known := by
  cases statement with
  | assignment => cases h
  | command => rfl
  | other => rfl

theorem operations_of_not_counts (scope : Scope) :
    scope.operations settings bindings statement = .ok [] := by
  cases statement with
  | assignment => cases h
  | command command =>
    obtain ⟨hw, hr⟩ := Bool.or_eq_false_iff.1 h
    simp only [Scope.operations, Scope.commandOperations, hw, hr, Bool.false_eq_true, if_false]
    rfl
  | other => rfl

theorem bindStatement_of_not_counts (bound : Bound) :
    bindStatement environ bound statement = .ok bound := by
  cases statement with
  | assignment => cases h
  | command => rfl
  | other => rfl

end

theorem bindAll_filter_counts (statements : List Statement) :
    bindAll environ (statements.filter counts) = bindAll environ statements := by
  rw [bindAll, bindAll, List.foldlM_filter]
  congr
  funext bound statement
  cases hc : counts statement with
  | true => rfl
  | false => exact (bindStatement_of_not_counts hc bound).symm

theorem compileAll_filter_counts (known : FoldedTable String) (statements : List Statement) :
    compileAll settings environ bindings known (statements.filter counts) =
      compileAll settings environ bindings known statements := by
  induction statements generalizing known with
  | nil => rfl
  | cons statement rest ih =>
    rw [List.filter_cons, compileAll_cons]
    cases hc : counts statement with
    | true =>
      rw [if_pos rfl, compileAll_cons]
      simp only [ih]
    | false =>
      rw [if_neg Bool.false_ne_true, operations_of_not_counts hc, recordStatement_of_not_counts hc, ih]
      show _ = (compileAll settings environ bindings known rest).map ([] ++ ·)
      cases compileAll settings environ bindings known rest <;> rfl

/-! ## What the statements yield -/

/-- The operations that a statement yields at a place of a block. -/
inductive Yields (settings : Settings) (bindings : FoldedTable Parameters) (scope : Scope) :
    Statement → List Operation → Prop where
  | assignment (extent : Extent) (target : Expr) (operator : Script.AssignOp) (value : Expr) :
      Yields settings bindings scope (.assignment extent target operator value) []
  | other (extent : Extent) (kind : Script.OtherKind) :
      Yields settings bindings scope (.other extent kind) []
  | ignored {command : Script.Command} (foreign : counts (.command command) = false) :
      Yields settings bindings scope (.command command) []
  | writesNothing {command : Script.Command} (named : Text.fold command.name = writeCommand)
      (empty : ∀ argument ∈ firstArgument? command.elements, scope.resolve argument = .ok "") :
      Yields settings bindings scope (.command command) []
  | writes {command : Script.Command} {argument : Expr} {text : String}
      (named : Text.fold command.name = writeCommand)
      (given : firstArgument? command.elements = some argument)
      (resolved : scope.resolve argument = .ok text) (filled : text ≠ "") :
      Yields settings bindings scope (.command command) [.emitText text]
  | reads {command : Script.Command} {parameters : Parameters} {operation : Operation}
      (named : Text.fold command.name = readCommand)
      (collected : scope.collect bindings command.elements = .ok parameters)
      (asked : readOperation settings parameters = .ok operation) :
      Yields settings bindings scope (.command command) [operation]

section

variable {scope : Scope} {command : Script.Command}

theorem operations_write (named : Text.fold command.name = writeCommand) :
    scope.operations settings bindings (.command command) =
      scope.writeOperations command.elements := by
  rw [Scope.operations, Scope.commandOperations, named]
  exact if_pos rfl

theorem operations_read (named : Text.fold command.name = readCommand) :
    scope.operations settings bindings (.command command) =
      scope.collect bindings command.elements >>= fun parameters =>
        (readOperation settings parameters).map ([·]) := by
  rw [Scope.operations, Scope.commandOperations, named, if_neg (by decide), if_pos (by decide)]
  cases scope.collect bindings command.elements with
  | error fault => rfl
  | ok parameters =>
    simp only [bind, Except.bind]
    cases readOperation settings parameters <;> rfl

theorem yields_of_writeOperations {part : List Operation}
    (named : Text.fold command.name = writeCommand)
    (h : scope.writeOperations command.elements = .ok part) :
    Yields settings bindings scope (.command command) part := by
  unfold Scope.writeOperations at h
  split at h
  · rename_i hnone
    cases h
    exact .writesNothing named (by simp [hnone])
  · rename_i argument hsome
    obtain ⟨text, ht, h⟩ := ok_of_bind h
    cases h
    by_cases he : text = ""
    · subst he
      refine .writesNothing named fun other ho => ?_
      cases hsome.symm.trans ho
      exact ht
    · rw [if_neg (by simpa [String.isEmpty_iff] using he)]
      exact .writes named hsome ht he

end

/-- The relation says what is computed. -/
theorem operations_eq_ok_iff {scope : Scope} {statement : Statement} {part : List Operation} :
    scope.operations settings bindings statement = .ok part ↔
      Yields settings bindings scope statement part := by
  constructor
  · intro h
    cases statement with
    | assignment extent target operator value =>
      cases h
      exact .assignment ..
    | other extent kind =>
      cases h
      exact .other ..
    | command command =>
      by_cases hw : Text.fold command.name = writeCommand
      · rw [operations_write hw] at h
        exact yields_of_writeOperations hw h
      by_cases hr : Text.fold command.name = readCommand
      · rw [operations_read hr] at h
        obtain ⟨parameters, hp, h⟩ := ok_of_bind h
        obtain ⟨operation, ho, rfl⟩ := ok_of_map h
        exact .reads hr hp ho
      · have foreign : counts (.command command) = false :=
          Bool.or_eq_false_iff.2 ⟨beq_false_of_ne hw, beq_false_of_ne hr⟩
        rw [operations_of_not_counts foreign] at h
        cases h
        exact .ignored foreign
  · intro h
    cases h with
    | assignment => rfl
    | other => rfl
    | ignored foreign => exact operations_of_not_counts foreign scope
    | @writesNothing command named empty =>
      rw [operations_write named, Scope.writeOperations]
      cases hf : firstArgument? command.elements with
      | none => rfl
      | some argument =>
        simp only [empty argument hf]
        rfl
    | writes named given resolved filled =>
      rw [operations_write named, Scope.writeOperations, given]
      simp only [resolved]
      exact congrArg Except.ok (if_neg (by simpa [String.isEmpty_iff] using filled))
    | reads named collected asked =>
      rw [operations_read named, collected]
      show Except.map _ (readOperation settings _) = _
      rw [asked]
      rfl

/-- The operations that the statements of a block yield, one list for each of them, where `known` is
known in front of the first. -/
inductive YieldsAll (settings : Settings) (environ : Environ) (bindings : FoldedTable Parameters) :
    FoldedTable String → List Statement → List (List Operation) → Prop where
  | nil (known : FoldedTable String) : YieldsAll settings environ bindings known [] []
  | cons {known next : FoldedTable String} {statement : Statement} {rest : List Statement}
      {part : List Operation} {parts : List (List Operation)}
      (here : Yields settings bindings { environ, known } statement part)
      (recorded : recordStatement environ known statement = .ok next)
      (more : YieldsAll settings environ bindings next rest parts) :
      YieldsAll settings environ bindings known (statement :: rest) (part :: parts)

theorem compileAll_eq_ok_iff {known : FoldedTable String} {statements : List Statement}
    {operations : List Operation} :
    compileAll settings environ bindings known statements = .ok operations ↔
      ∃ parts, YieldsAll settings environ bindings known statements parts ∧
        parts.flatten = operations := by
  induction statements generalizing known operations with
  | nil =>
    constructor
    · rintro ⟨⟩
      exact ⟨[], .nil known, rfl⟩
    · rintro ⟨_, ⟨⟩, rfl⟩
      rfl
  | cons statement rest ih =>
    rw [compileAll_cons]
    constructor
    · intro h
      obtain ⟨part, hp, h⟩ := ok_of_bind h
      obtain ⟨next, hn, h⟩ := ok_of_bind h
      obtain ⟨more, hm, rfl⟩ := ok_of_map h
      obtain ⟨parts, hy, rfl⟩ := ih.1 hm
      exact ⟨part :: parts, .cons (operations_eq_ok_iff.1 hp) hn hy, rfl⟩
    · rintro ⟨_, yields, rfl⟩
      cases yields with
      | cons here recorded more =>
      rw [operations_eq_ok_iff.2 here, recorded]
      show Except.map _ (compileAll settings environ bindings _ rest) = _
      rw [ih.2 ⟨_, more, rfl⟩]
      rfl

/-! ## Blocks -/

/-- Of a block only the assignments and the two commands with a meaning count, and there are operations
exactly if both passes come to their end; they are then what the statements yield, in order: one
operation for each command that reads, a text or nothing for each that writes, and nothing for any
other statement. -/
theorem compileBlock_filter_counts (settings : Settings) (environ : Environ)
    (statements : List Statement) :
    compileBlock settings environ (statements.filter counts) =
        compileBlock settings environ statements ∧
      ∀ operations, compileBlock settings environ statements = .ok operations ↔
        ∃ bound parts, bindAll environ statements = .ok bound ∧
          YieldsAll settings environ bound.bindings .empty statements parts ∧
          parts.flatten = operations := by
  constructor
  · simp only [compileBlock, bindAll_filter_counts, compileAll_filter_counts]
  · intro operations
    rw [compileBlock]
    constructor
    · intro h
      obtain ⟨bound, hb, hc⟩ := ok_of_bind h
      obtain ⟨parts, hy, hf⟩ := compileAll_eq_ok_iff.1 hc
      exact ⟨bound, parts, hb, hy, hf⟩
    · rintro ⟨bound, parts, hb, hy, hf⟩
      rw [hb]
      exact compileAll_eq_ok_iff.2 ⟨parts, hy, hf⟩

end PageScript.Compile
