import PageScript.Proofs.Compile.Replay

/-!
# What is known of a variable

The table of variables keeps one text for each variable that is known. Of an assignment it takes note
in one of three ways: a scalar that is set replaces the text, a scalar that is added is put behind it,
and anything else makes the variable unknown. The texts of a variable since the last one that was set
give its value, as long as nothing in between has made it unknown (`Follows`).

The table says more than that: it has no entry for a variable that is unknown, and none for one that
was never assigned, and it adds to both as to an empty text. A variable that was made unknown is known
again as soon as a scalar is added to it (`Revived`).
-/

namespace PageScript.Compile

open Script (AssignOp Expr Statement)

variable {environ : Environ}

/-! ## Changes of one variable -/

/-- What an assignment does to the variable that it names. -/
inductive Change where
  /-- `=` with a scalar. -/
  | set (text : String)
  /-- `+=` with a scalar. -/
  | add (text : String)
  /-- A value that is not scalar, or another operator. -/
  | forget
deriving DecidableEq, Repr

namespace Change

/-- The change that an operator makes with a value, of which the text is given if it is scalar. -/
def ofAssignment : AssignOp → Option String → Change
  | .set, some text => .set text
  | .add, some text => .add text
  | _, _ => .forget

/-- The text of a variable after a change, none if it is unknown. -/
def apply (value : Option String) : Change → Option String
  | .set text => some text
  | .add text => some (value.getD "" ++ text)
  | .forget => none

/-- The table after a change of the variable `target`. -/
def record (known : FoldedTable String) (target : String) : Change → FoldedTable String
  | .set text => known.insert target text
  | .add text => known.insert target ((known.get? target).getD "" ++ text)
  | .forget => known.erase target

theorem get?_record (change : Change) (known : FoldedTable String) (target name : String) :
    (change.record known target).get? name =
      if sameName name target then change.apply (known.get? name) else known.get? name := by
  cases change with
  | set text => exact known.get?_insert target name text
  | add text =>
    rw [record, FoldedTable.get?_insert]
    cases hn : sameName name target with
    | true => rw [if_pos rfl, if_pos rfl, apply, FoldedTable.get?_congr hn]
    | false => rw [if_neg Bool.false_ne_true, if_neg Bool.false_ne_true]
  | forget => exact known.get?_erase target name

end Change

/-- An assignment outside of the environment is a change of the variable that it names. -/
theorem assign_eq_map_record {known : FoldedTable String} {drive : Option String}
    (h : Script.isEnvDrive drive = false) (place : Script.Extent) (target : String) (splatted : Bool)
    (operator : AssignOp) (value : Expr) :
    Scope.assign { environ, known } (.reference place target drive splatted) operator value =
      (Scope.scalar? { environ, known } value).map fun scalar =>
        (Change.ofAssignment operator scalar).record known target := by
  rw [Scope.assign, h]
  cases Scope.scalar? { environ, known } value with
  | error fault => rfl
  | ok scalar =>
    cases scalar with
    | none => cases operator <;> rfl
    | some text => cases operator <;> rfl

/-- The changes that a statement makes to the variable `name`: one if it assigns to it, outside of the
environment. -/
def Scope.changes (scope : Scope) (name : String) :
    Statement → Except Numeral.IntegerFault (List Change)
  | .assignment _ (.reference _ target drive _) operator value =>
    if Script.isEnvDrive drive || !sameName name target then .ok []
    else (scope.scalar? value).map fun scalar => [.ofAssignment operator scalar]
  | _ => .ok []

/-- The changes that statements make to the variable `name`, each scalar with the text it has where it
is assigned. -/
def history (environ : Environ) (name : String) :
    FoldedTable String → List Statement → Except Numeral.IntegerFault (List Change)
  | _, [] => .ok []
  | known, statement :: rest => do
    let changes ← Scope.changes { environ, known } name statement
    let next ← recordStatement environ known statement
    return changes ++ (← history environ name next rest)

theorem recordStatement_get? {known next : FoldedTable String} {statement : Statement}
    (h : recordStatement environ known statement = .ok next) (name : String) :
    ∃ changes, Scope.changes { environ, known } name statement = .ok changes ∧
      next.get? name = changes.foldl Change.apply (known.get? name) := by
  cases statement with
  | assignment extent target operator value =>
    cases target with
    | reference place target drive splatted =>
      rw [recordStatement] at h
      cases he : Script.isEnvDrive drive with
      | true =>
        rw [Scope.assign, he] at h
        cases h
        exact ⟨[], by rw [Scope.changes, he]; rfl, rfl⟩
      | false =>
        rw [assign_eq_map_record he] at h
        obtain ⟨scalar, hs, rfl⟩ := ok_of_map h
        rw [Scope.changes, he, hs, Change.get?_record]
        cases sameName name target with
        | true => exact ⟨[.ofAssignment operator scalar], rfl, rfl⟩
        | false => exact ⟨[], rfl, rfl⟩
    | _ =>
      cases h
      exact ⟨[], rfl, rfl⟩
  | command command =>
    cases h
    exact ⟨[], rfl, rfl⟩
  | other extent kind =>
    cases h
    exact ⟨[], rfl, rfl⟩

theorem recordAll_get? {known after : FoldedTable String} {statements : List Statement}
    (h : recordAll environ known statements = .ok after) (name : String) :
    ∃ changes, history environ name known statements = .ok changes ∧
      after.get? name = changes.foldl Change.apply (known.get? name) := by
  induction statements generalizing known with
  | nil =>
    cases h
    exact ⟨[], rfl, rfl⟩
  | cons statement rest ih =>
    rw [recordAll_cons] at h
    obtain ⟨next, hs, h⟩ := ok_of_bind h
    obtain ⟨here, hc, hg⟩ := recordStatement_get? hs name
    obtain ⟨more, hm, ha⟩ := ih h
    refine ⟨here ++ more, ?_, ?_⟩
    · rw [history, hc, hs]
      show (do return here ++ (← history environ name next rest)) = _
      rw [hm]
      rfl
    · rw [ha, hg, List.foldl_append]

/-! ## The value that a history leaves -/

/-- The value that follows from the changes of a variable: since the last scalar that was set, or since
the start, there are only scalars that were added. -/
inductive Follows : List Change → String → Prop where
  | set (before : List Change) (text : String) (texts : List String) :
      Follows (before ++ .set text :: texts.map .add) (text ++ String.join texts)
  | start {texts : List String} (assigned : texts ≠ []) :
      Follows (texts.map .add) (String.join texts)

/-- The variable is made unknown, and then scalars are added to it. -/
inductive Revived : List Change → String → Prop where
  | intro (before : List Change) {texts : List String} (added : texts ≠ []) :
      Revived (before ++ .forget :: texts.map .add) (String.join texts)

namespace Change

theorem foldl_apply_add (texts : List String) (text : String) :
    (texts.map add).foldl apply (some text) = some (text ++ String.join texts) := by
  induction texts generalizing text with
  | nil => simp
  | cons first rest ih =>
    rw [List.map_cons, List.foldl_cons, apply, Option.getD_some, ih]
    simp [String.append_assoc]

/-- What is added to an unknown variable is added to an empty text. -/
theorem foldl_apply_add_unknown {texts : List String} (h : texts ≠ []) :
    (texts.map add).foldl apply none = some (String.join texts) := by
  cases texts with
  | nil => exact absurd rfl h
  | cons first rest =>
    rw [List.map_cons, List.foldl_cons, apply, foldl_apply_add]
    simp

/-- The scalars that are added at the end of a history, and what stands in front of them. -/
theorem eq_append_adds (changes : List Change) :
    (∃ texts : List String, changes = texts.map add) ∨
      ∃ before last, ∃ texts : List String, changes = before ++ last :: texts.map add ∧ ∀ text, last ≠ add text := by
  induction changes with
  | nil => exact .inl ⟨[], rfl⟩
  | cons change rest ih =>
    rcases ih with ⟨texts, rfl⟩ | ⟨before, last, texts, rfl, hl⟩
    · by_cases ha : ∃ text, change = add text
      · obtain ⟨text, rfl⟩ := ha
        exact .inl ⟨text :: texts, rfl⟩
      · exact .inr ⟨[], change, texts, rfl, fun text he => ha ⟨text, he⟩⟩
    · exact .inr ⟨change :: before, last, texts, rfl, hl⟩

theorem foldl_apply_eq_some_iff {changes : List Change} {value : String} :
    changes.foldl apply none = some value ↔ Follows changes value ∨ Revived changes value := by
  constructor
  · intro h
    rcases eq_append_adds changes with ⟨texts, rfl⟩ | ⟨before, last, texts, rfl, hl⟩
    · have assigned : texts ≠ [] := by
        rintro rfl
        cases h
      rw [foldl_apply_add_unknown assigned] at h
      cases h
      exact .inl (.start assigned)
    · rw [List.foldl_append, List.foldl_cons] at h
      cases last with
      | set text =>
        rw [apply, foldl_apply_add] at h
        cases h
        exact .inl (.set before text texts)
      | add text => exact absurd rfl (hl text)
      | forget =>
        have added : texts ≠ [] := by
          rintro rfl
          cases h
        rw [apply, foldl_apply_add_unknown added] at h
        cases h
        exact .inr (.intro before added)
  · rintro (hf | hr)
    · cases hf with
      | set before text texts =>
        rw [List.foldl_append, List.foldl_cons, apply, foldl_apply_add]
      | start assigned => exact foldl_apply_add_unknown assigned
    · cases hr with
      | intro before added =>
        rw [List.foldl_append, List.foldl_cons, apply, foldl_apply_add_unknown added]

/-- A change in front of added scalars is not one of them. -/
theorem not_mem_adds {change : Change} (h : ∀ text, change ≠ add text) (texts : List String) :
    change ∉ texts.map add := by
  intro hm
  obtain ⟨text, -, rfl⟩ := List.mem_map.1 hm
  exact h text rfl

/-- The last change that is no addition is the same however a history is divided. -/
theorem eq_of_append_adds {before before' : List Change} {change change' : Change}
    {texts texts' : List String} (h : ∀ text, change ≠ add text) (h' : ∀ text, change' ≠ add text)
    (he : before ++ change :: texts.map add = before' ++ change' :: texts'.map add) :
    change = change' := by
  rcases List.append_eq_append_iff.1 he with ⟨more, rfl, hm⟩ | ⟨more, rfl, hm⟩
  · cases more with
    | nil => exact (List.cons.inj hm).1
    | cons first more =>
      refine absurd ?_ (not_mem_adds h' texts)
      rw [(List.cons.inj hm).2]
      exact List.mem_append_right _ List.mem_cons_self
  · cases more with
    | nil => exact (List.cons.inj hm).1.symm
    | cons first more =>
      refine absurd ?_ (not_mem_adds h texts')
      rw [(List.cons.inj hm).2]
      exact List.mem_append_right _ List.mem_cons_self

end Change

theorem Follows.not_revived {changes : List Change} {value other : String}
    (hf : Follows changes value) : ¬Revived changes other := by
  have forgets : ∀ text, Change.forget ≠ .add text := nofun
  intro hr
  cases hr with
  | @intro before texts added =>
  generalize he : before ++ Change.forget :: texts.map Change.add = changes at hf
  cases hf with
  | set front text more =>
    have sets : ∀ other, Change.set text ≠ .add other := nofun
    cases Change.eq_of_append_adds forgets sets he
  | @start more assigned =>
    refine Change.not_mem_adds forgets more ?_
    rw [← he]
    exact List.mem_append_right _ List.mem_cons_self

/-! ## What the table says -/

/-- What the table says of a variable after any statements, from the changes that they make to it: it
has the value that follows from them, and it has one too where the variable was made unknown and
scalars were added behind. So it says what follows, and no more, exactly of the variables that were not
revived in this way. -/
theorem recordAll_get?_iff {statements : List Statement} {known : FoldedTable String}
    (h : recordAll environ .empty statements = .ok known) (name : String) :
    ∃ changes, history environ name .empty statements = .ok changes ∧
      (∀ value, known.get? name = some value ↔ Follows changes value ∨ Revived changes value) ∧
      ((∀ value, known.get? name = some value ↔ Follows changes value) ↔
        ∀ value, ¬Revived changes value) := by
  obtain ⟨changes, hc, hg⟩ := recordAll_get? h name
  have value_iff (value : String) :
      known.get? name = some value ↔ Follows changes value ∨ Revived changes value := by
    rw [hg]
    exact Change.foldl_apply_eq_some_iff
  refine ⟨changes, hc, value_iff, ?_, ?_⟩
  · -- The table has a value for a revived variable, but none follows.
    intro sound value hr
    have hf := (sound value).1 ((value_iff value).2 (.inr hr))
    exact hf.not_revived hr
  · intro unrevived value
    exact (value_iff value).trans (or_iff_left (unrevived value))

/-- `$name += value` -/
def addValue (name : String) (value : Expr) : Statement :=
  .assignment ⟨"$" ++ name ++ " += " ++ value.extent.text, 0⟩ (variableNamed name) .add value

/-- `$name = Get-Date` -/
def assignDate (name : String) : Statement :=
  .assignment ⟨"$" ++ name ++ " = Get-Date", 0⟩ (variableNamed name) .set
    (.raw ⟨"Get-Date", 0⟩ .pipeline)

/-- A variable that is unknown first, then set, and then has its own value added. -/
theorem recordAll_get?_iff_selfReference :
    ∃ known, recordAll (fun _ => none) .empty
        [assignDate "x", assignText "X" "a", assignDate "y", addValue "x" (variableNamed "x")] =
          .ok known ∧
      history (fun _ => none) "x" .empty
        [assignDate "x", assignText "X" "a", assignDate "y", addValue "x" (variableNamed "x")] =
          .ok [.forget, .set "a", .add "a"] ∧
      known.get? "x" = some "aa" ∧ Follows [.forget, .set "a", .add "a"] "aa" := by
  have recorded : recordAll (fun _ => none) .empty
      [assignDate "x", assignText "X" "a", assignDate "y", addValue "x" (variableNamed "x")] =
        .ok (.ofList [("x", "aa")]) := rfl
  obtain ⟨changes, hc, value_iff, -⟩ := recordAll_get?_iff recorded "x"
  have listed : changes = [.forget, .set "a", .add "a"] := Except.ok.inj (hc.symm.trans rfl)
  subst listed
  have follows : Follows [.forget, .set "a", .add "a"] "aa" := .set [.forget] "a" ["a"]
  exact ⟨_, recorded, hc, (value_iff "aa").2 (.inl follows), follows⟩

/-- A text that is added to the result of a command is taken for the whole. -/
theorem recordAll_revives :
    ∃ known, recordAll (fun _ => none) .empty [assignDate "x", addValue "x" (quotedText "a")] =
          .ok known ∧
      known.get? "x" = some "a" ∧
      history (fun _ => none) "x" .empty [assignDate "x", addValue "x" (quotedText "a")] =
          .ok [.forget, .add "a"] ∧
      ¬∃ value, Follows [.forget, .add "a"] value := by
  refine ⟨_, rfl, rfl, rfl, ?_⟩
  rintro ⟨value, follows⟩
  exact follows.not_revived (.intro [] (List.cons_ne_nil "a" []))

end PageScript.Compile
