import PageScript.Proofs.Compile.Replay
import PageScript.Proofs.Compile.Writes

/-!
# Assignments to the environment

An assignment to a variable of the environment leaves the variables of the script alone, in both
passes. Not so the hashtables: they are kept under bare names, and the first pass takes the assignment
for one to the variable of that name. So `$env:p = 'x'` takes the hashtable of `$p` from every splat in
the block, in front of it and behind it, and `$env:p = @{ ... }` puts another in its place. Splats of
other variables are safe, and those of a variable that is assigned again further down.
-/

namespace PageScript.Compile

open Script (AssignOp Expr Extent Statement)

variable {settings : Settings} {environ : Environ} {bindings : FoldedTable Parameters}

/-- An assignment to a variable of the environment. -/
structure EnvAssignment where
  extent : Extent
  place : Extent
  name : String
  drive : Option String
  splatted : Bool
  operator : AssignOp
  value : Expr
  inEnv : Script.isEnvDrive drive = true

namespace EnvAssignment

variable (assignment : EnvAssignment)

def statement : Statement :=
  .assignment assignment.extent
    (.reference assignment.place assignment.name assignment.drive assignment.splatted)
    assignment.operator assignment.value

/-! ## What it does to the tables -/

theorem recordStatement_eq (known : FoldedTable String) :
    recordStatement environ known assignment.statement = .ok known := by
  rw [statement, recordStatement, Scope.assign, if_pos assignment.inEnv]
  rfl

theorem compileStatement_eq_ok (known : FoldedTable String) :
    compileStatement settings environ bindings known assignment.statement = .ok ([], known) := by
  rw [compileStatement_eq, recordStatement_eq]
  rfl

theorem bindStatement_eq_map (bound : Bound) :
    bindStatement environ bound assignment.statement =
      (Scope.rebind { environ, known := bound.known } bound.bindings assignment.name
        assignment.operator assignment.value).map fun bindings => { bound with bindings } := by
  rw [bindStatement_eq, recordStatement_eq]
  rfl

/-- The hashtables stay as they are: a literal that is assigned is there already, and for any other
value there is none to drop. -/
def Spares (environ : Environ) (bound : Bound) : Prop :=
  match assignment.operator, assignment.value with
  | .set, .hashtable _ entries =>
    ∃ table, Scope.table { environ, known := bound.known } entries = .ok table ∧
      bound.bindings.entry? assignment.name = some (assignment.name, table)
  | _, _ => bound.bindings.get? assignment.name = none

theorem rebind_eq_self_iff (bound : Bound) :
    Scope.rebind { environ, known := bound.known } bound.bindings assignment.name
        assignment.operator assignment.value = .ok bound.bindings ↔
      assignment.Spares environ bound := by
  unfold Spares
  generalize assignment.operator = operator, assignment.value = value
  split
  · constructor
    · intro h
      obtain ⟨table, ht, hi⟩ := ok_of_bind h
      exact ⟨table, ht, FoldedTable.insert_eq_self_iff.1 (Except.ok.inj hi)⟩
    · rintro ⟨table, ht, he⟩
      rw [Scope.rebind, ht]
      exact congrArg Except.ok (FoldedTable.insert_eq_self_iff.2 he)
  · rename_i hv
    rw [Scope.rebind, Except.ok.injEq]
    · exact FoldedTable.erase_eq_self_iff
    · exact hv

theorem bindStatement_eq_self_iff (bound : Bound) :
    bindStatement environ bound assignment.statement = .ok bound ↔
      assignment.Spares environ bound := by
  rw [bindStatement_eq_map, ← rebind_eq_self_iff]
  constructor
  · intro h
    obtain ⟨bindings, hb, he⟩ := ok_of_map h
    rw [hb, ← congrArg Bound.bindings he]
  · intro h
    rw [h]
    rfl

/-- All that the first pass changes is the hashtable of the variable with the same bare name. -/
theorem bindStatement_frame {bound after : Bound}
    (h : bindStatement environ bound assignment.statement = .ok after) :
    after.known = bound.known ∧ ∀ other, sameName other assignment.name = false →
      after.bindings.get? other = bound.bindings.get? other := by
  constructor
  · have recorded := record_of_bindStatement h
    rw [recordStatement_eq] at recorded
    exact (Except.ok.inj recorded).symm
  · intro other ho
    refine bindStatement_get? ?_ h
    rintro _ ⟨⟩
    exact ho

end EnvAssignment

/-! ## Hashtables that differ in places -/

/-- The variables of which two tables of hashtables say the same, once statements have been gone
through that assign to some. -/
def SameBehind (statements : List Statement) (bindings others : FoldedTable Parameters)
    (name : String) : Prop :=
  bindings.get? name = others.get? name ∨ ¬Untouched name statements

theorem SameBehind.of_untouched {statement : Statement} {bindings others : FoldedTable Parameters}
    {name : String} (h : SameBehind [statement] bindings others name)
    (hu : ∀ target, assigned? statement = some target → sameName name target = false) :
    bindings.get? name = others.get? name :=
  h.resolve_right (not_not_intro (List.forall_mem_singleton.2 hu))

theorem rebindStatement_both (scope : Scope) (bindings others : FoldedTable Parameters)
    (statement : Statement) :
    Both (fun after next => ∀ name, SameBehind [statement] bindings others name →
        after.get? name = next.get? name)
      (scope.rebindStatement bindings statement) (scope.rebindStatement others statement) := by
  cases ha : assigned? statement with
  | none =>
    have kept (tables : FoldedTable Parameters) :
        scope.rebindStatement tables statement = .ok tables := by
      unfold Scope.rebindStatement
      split
      · cases ha
      · rfl
    rw [kept, kept]
    refine .ok fun name same => same.of_untouched ?_
    rw [ha]
    nofun
  | some target =>
    obtain ⟨extent, place, drive, splatted, operator, value, rfl⟩ := eq_assignment_of_assigned? ha
    -- Both tables are changed in the same way, so only other variables can tell them apart.
    have other {name : String} (hn : sameName name target = false) : ∀ another,
        assigned? (.assignment extent (.reference place target drive splatted) operator value) =
          some another → sameName name another = false := by
      rintro _ ⟨⟩
      exact hn
    rw [Scope.rebindStatement, Scope.rebindStatement]
    unfold Scope.rebind
    split
    · rename_i entries
      cases scope.table entries with
      | error fault => exact .error fault
      | ok table =>
        refine .ok fun name same => ?_
        rw [FoldedTable.get?_insert, FoldedTable.get?_insert]
        cases hn : sameName name target with
        | true => rfl
        | false => exact same.of_untouched (other hn)
    · refine .ok fun name same => ?_
      rw [FoldedTable.get?_erase, FoldedTable.get?_erase]
      cases hn : sameName name target with
      | true => rfl
      | false => exact same.of_untouched (other hn)

/-- One statement of the first pass, beside itself with other hashtables. -/
theorem bindStatement_both {bound other : Bound} (hk : bound.known = other.known)
    (statement : Statement) :
    Both (fun after next => after.known = next.known ∧ ∀ name,
        SameBehind [statement] bound.bindings other.bindings name →
          after.bindings.get? name = next.bindings.get? name)
      (bindStatement environ bound statement) (bindStatement environ other statement) := by
  rw [bindStatement_eq, bindStatement_eq, hk]
  refine (rebindStatement_both _ _ _ statement).bind fun after next same => ?_
  cases recordStatement environ other.known statement with
  | error fault => exact .error fault
  | ok known => exact .ok ⟨rfl, same⟩

/-- The first pass over statements, beside itself with other hashtables. -/
theorem foldlM_bindStatement_both {bound other : Bound} (hk : bound.known = other.known)
    (statements : List Statement) :
    Both (fun after next => after.known = next.known ∧ ∀ name,
        SameBehind statements bound.bindings other.bindings name →
          after.bindings.get? name = next.bindings.get? name)
      (statements.foldlM (bindStatement environ) bound)
      (statements.foldlM (bindStatement environ) other) := by
  induction statements generalizing bound other with
  | nil => exact .ok ⟨hk, fun name same => same.resolve_right (not_not_intro nofun)⟩
  | cons statement rest ih =>
    rw [List.foldlM_cons, List.foldlM_cons]
    refine (bindStatement_both hk statement).bind fun after next ⟨hk, here⟩ => ?_
    refine (ih hk).imp fun last final ⟨hk, behind⟩ => ⟨hk, fun name same => behind name ?_⟩
    -- Whatever is assigned in the rest may differ up to there.
    by_cases hu : Untouched name rest
    · refine .inl (here name (same.imp_right fun touched single => touched ?_))
      exact List.forall_mem_cons.2 ⟨List.forall_mem_singleton.1 single, hu⟩
    · exact .inr hu

/-! ## An assignment to the environment in a block -/

namespace EnvAssignment

variable (assignment : EnvAssignment)

theorem compileAll_insert (known : FoldedTable String) (before after : List Statement) :
    compileAll settings environ bindings known (before ++ assignment.statement :: after) =
      compileAll settings environ bindings known (before ++ after) := by
  induction before generalizing known with
  | nil =>
    rw [List.nil_append, List.nil_append, compileAll_cons, assignment.recordStatement_eq]
    show (compileAll settings environ bindings known after).map ([] ++ ·) = _
    cases compileAll settings environ bindings known after <;> rfl
  | cons statement before ih =>
    rw [List.cons_append, List.cons_append, compileAll_cons, compileAll_cons]
    simp only [ih]

/-- Nobody sees what the assignment does to the hashtables of a block: it can be carried out, and if
a command splats the variable of its name, then either the variable is assigned again behind it, or
the assignment leaves its hashtable as it is. -/
def Unseen (environ : Environ) (before after : List Statement) : Prop :=
  ∀ reached, bindAll environ before = .ok reached →
    ∃ next, bindStatement environ reached assignment.statement = .ok next ∧
      ∀ statement ∈ before ++ after, ∀ splat ∈ splats statement,
        sameName splat assignment.name = true →
          SameBehind after next.bindings reached.bindings splat

theorem compileBlock_insert {before after : List Statement}
    (h : assignment.Unseen environ before after) :
    compileBlock settings environ (before ++ assignment.statement :: after) =
      compileBlock settings environ (before ++ after) := by
  simp only [compileBlock, compileAll_insert, bindAll, List.foldlM_append, List.foldlM_cons]
  cases hb : bindAll environ before with
  | error fault =>
    rw [bindAll] at hb
    rw [hb]
    rfl
  | ok reached =>
    obtain ⟨next, hn, seen⟩ := h reached hb
    -- From here on the first passes have tables that differ in the one name at most.
    obtain ⟨hk, frame⟩ := assignment.bindStatement_frame hn
    rw [bindAll] at hb
    rw [hb]
    show (bindStatement environ reached assignment.statement >>= _) >>= _ = _
    rw [hn]
    refine ((foldlM_bindStatement_both hk after).bind fun last final both => ?_).eq
    refine Both.of_eq (compileAll_congr fun statement hs splat hsplat => both.2 splat ?_)
    cases hname : sameName splat assignment.name with
    | true => exact seen statement hs splat hsplat hname
    | false => exact .inl (frame splat hname)

/-- An assignment to the environment compiles to nothing and leaves the variables alone in both passes,
and so it leaves all hashtables but one: that of the variable with the same bare name, which is only
spared if the assignment is of no hashtable and there is none, or of the one that is there. In a block
it can be left out if no command sees the difference. -/
theorem spares_all_but_namesake (settings : Settings) (environ : Environ) :
    (∀ bindings known,
      compileStatement settings environ bindings known assignment.statement = .ok ([], known)) ∧
    (∀ bound after, bindStatement environ bound assignment.statement = .ok after →
      after.known = bound.known ∧ ∀ other, sameName other assignment.name = false →
        after.bindings.get? other = bound.bindings.get? other) ∧
    (∀ bound, bindStatement environ bound assignment.statement = .ok bound ↔
      assignment.Spares environ bound) ∧
    ∀ before after, assignment.Unseen environ before after →
      compileBlock settings environ (before ++ assignment.statement :: after) =
        compileBlock settings environ (before ++ after) := by
  refine ⟨?_, ?_, assignment.bindStatement_eq_self_iff, ?_⟩
  · intro bindings known
    exact assignment.compileStatement_eq_ok known
  · intro bound after h
    exact assignment.bindStatement_frame h
  · intro before after h
    exact assignment.compileBlock_insert h

/-- `$env:name = 'text'` -/
def ofText (name text : String) : EnvAssignment where
  extent := ⟨"$env:" ++ name ++ " = '" ++ text ++ "'", 0⟩
  place := ⟨"$env:" ++ name, 0⟩
  name := name
  drive := some "env"
  splatted := false
  operator := .set
  value := quotedText text
  inEnv := by decide

/-- The variable of the same name gets its hashtable behind the assignment. -/
theorem spares_all_but_namesake_inFront :
    (ofText "P" "x").Unseen (fun _ => none) [] splatBlock ∧
      compileBlock {} (fun _ => none) ((ofText "P" "x").statement :: splatBlock) =
        .ok [splatQuery] := by
  have unseen : (ofText "P" "x").Unseen (fun _ => none) [] splatBlock := by
    rintro _ ⟨⟩
    refine ⟨_, rfl, fun statement hs splat hsplat hname => .inr fun untouched => ?_⟩
    have again := untouched _ List.mem_cons_self "p" rfl
    rw [sameName_congr hname] at again
    cases again
  exact ⟨unseen, ((ofText "P" "x").spares_all_but_namesake {} (fun _ => none)).2.2.2 [] _ unseen⟩

/-- Between a hashtable and its splat the assignment takes the hashtable away, and the command has no
parameters. -/
theorem compileBlock_loses_hashtable :
    compileBlock {} (fun _ => none) (splatBlock.take 1 ++ splatBlock.drop 1) = .ok [splatQuery] ∧
      compileBlock {} (fun _ => none)
          (splatBlock.take 1 ++ (ofText "p" "x").statement :: splatBlock.drop 1) =
        .ok [.emitText Message.missingParameters] ∧
      ∃ bound after, bindAll (fun _ => none) (splatBlock.take 1) = .ok bound ∧
        bindStatement (fun _ => none) bound (ofText "p" "x").statement = .ok after ∧
        bound.bindings.contains "p" = true ∧ after.bindings.contains "p" = false :=
  ⟨rfl, rfl, _, _, rfl, rfl, rfl, rfl⟩

end EnvAssignment

end PageScript.Compile
