import PageScript.Proofs.Script.Faults
import PageScript.Script.Reading

/-!
# Reading to the end

Reading goes through a script from place to place (`Visits`), each at the end of a statement or where
it resumes after one that failed. It returns unless there is a number with too many digits at one of
these places, which needs a run of that many digits in the script; and on the way every other fault is
recorded, and reading resumes further on.
-/

namespace PageScript.Script

theorem skipSeparators_error {text : List Char} {fault : Fault}
    (h : skipSeparators text = .error fault) : OpenComment text fault := by
  fun_induction skipSeparators text with
  | case1 text rest hr ih =>
    exact (ih h).mono ((List.suffix_cons ';' rest).trans (skipBlanks_suffix hr))
  | case2 => cases h
  | case3 text found hr =>
    cases h
    exact skipBlanks_error hr

theorem skipSeparators_nil {text : List Char} (h : text = []) : skipSeparators text = .ok [] := by
  subst h
  have hb := skipBlanks_stays skipInline_nil fun rest => (List.cons_ne_nil _ rest).symm
  exact skipSeparators_stays hb fun rest => (List.cons_ne_nil _ rest).symm

/-- Reading resumes behind the first character of the statement that failed. -/
theorem resume_suffix {c : Char} {t reached : List Char} (h : reached <:+ c :: t) :
    resume t reached <:+ t := by
  have tail (l : List Char) : (l.dropWhile (· != '\n')).tail <:+ l :=
    (List.tail_suffix _).trans (List.dropWhile_suffix _)
  rw [resume]
  split
  · rename_i hl
    refine (tail reached).trans ?_
    rcases List.suffix_cons_iff.1 h with rfl | h
    · simp only [List.length_cons] at hl
      omega
    · exact h
  · exact tail t

/-- The places between statements that reading gets to from `text` on. -/
inductive Visits : List Char → List Char → Prop where
  | start (text : List Char) : Visits text text
  /-- A statement has been read. -/
  | next {text place : List Char} {c : Char} {t : List Char} {found : Found Statement (c :: t)} :
    skipSeparators text = .ok (c :: t) → statement (c :: t) = .ok found →
    Visits found.rest place → Visits text place
  /-- A statement has failed. -/
  | resumed {text place : List Char} {c : Char} {t : List Char} {what : Problem}
      {site reached : List Char} :
    skipSeparators text = .ok (c :: t) → statement (c :: t) = .error (.problem what site reached) →
    Visits (resume t reached) place → Visits text place

theorem Visits.suffix {text place : List Char} (h : Visits text place) : place <:+ text := by
  induction h with
  | start text => exact List.suffix_rfl
  | @next text place c t found hs hf _ ih =>
    exact (ih.trans found.suffix).trans (skipSeparators_suffix hs)
  | @resumed text place c t what site reached hs hf _ ih =>
    have hw : reached <:+ site ∧ site <:+ c :: t := statement_faults (c :: t) _ hf
    exact ((ih.trans (resume_suffix (hw.1.trans hw.2))).trans (List.suffix_cons c t)).trans
      (skipSeparators_suffix hs)

/-! ## One round of the loop -/

section

variable {text t : List Char} {c : Char}

/-- A round that gets to a statement. -/
theorem readStatements_eq (hs : skipSeparators text = .ok (c :: t)) :
    readStatements text =
      match statement (c :: t) with
      | .ok found => do
        let (statements, complaints) ← readStatements found.rest
        return (found.value :: statements, complaints)
      | .error (.problem what site reached) => do
        let (statements, complaints) ← readStatements (resume t reached)
        return (statements, ⟨what, site.length⟩ :: complaints)
      | .error (.numeral fault) => .error fault := by
  rw [readStatements]
  split
  · rename_i h
    cases hs.symm.trans h
  · rename_i h
    cases hs.symm.trans h
    cases statement (c :: t) with
    | ok found => rfl
    | error fault => cases fault <;> rfl
  · rename_i h
    cases hs.symm.trans h
  · rename_i h
    cases hs.symm.trans h

theorem readStatements_next {found : Found Statement (c :: t)}
    (hs : skipSeparators text = .ok (c :: t)) (hf : statement (c :: t) = .ok found) :
    readStatements text =
      (readStatements found.rest).map fun out => (found.value :: out.1, out.2) := by
  rw [readStatements_eq hs, hf]
  dsimp only
  cases readStatements found.rest <;> rfl

theorem readStatements_resumed {what : Problem} {site reached : List Char}
    (hs : skipSeparators text = .ok (c :: t))
    (hf : statement (c :: t) = .error (.problem what site reached)) :
    readStatements text =
      (readStatements (resume t reached)).map fun out => (out.1, ⟨what, site.length⟩ :: out.2) := by
  rw [readStatements_eq hs, hf]
  dsimp only
  cases readStatements (resume t reached) <;> rfl

/-- A round that gets to the end. -/
theorem readStatements_end (hs : skipSeparators text = .ok []) :
    readStatements text = .ok ([], []) := by
  rw [readStatements]
  split
  · rfl
  · rename_i h
    cases hs.symm.trans h
  · rename_i h
    cases hs.symm.trans h
  · rename_i h
    cases hs.symm.trans h

/-- A round that ends in an open comment. -/
theorem readStatements_openComment {site rest : List Char} {what : Problem}
    (hs : skipSeparators text = .error (.problem what site rest)) :
    readStatements text = .ok ([], [⟨what, site.length⟩]) := by
  rw [readStatements]
  split
  · rename_i h
    cases hs.symm.trans h
  · rename_i h
    cases hs.symm.trans h
  · rename_i h
    cases hs.symm.trans h
    rfl
  · rename_i h
    cases hs.symm.trans h

end

/-! ## The whole run -/

/-- A number that cannot be converted, at a place that is visited, ends reading. -/
theorem Visits.fails {text place t : List Char} {c : Char} {fault : Numeral.IntegerFault}
    (h : Visits text place) (hs : skipSeparators place = .ok (c :: t))
    (hf : statement (c :: t) = .error (.numeral fault)) : readStatements text = .error fault := by
  induction h with
  | start text => rw [readStatements_eq hs, hf]
  | next hsep hstmt _ ih =>
    rw [readStatements_next hsep hstmt, ih hs]
    rfl
  | resumed hsep hstmt _ ih =>
    rw [readStatements_resumed hsep hstmt, ih hs]
    rfl

/-- Nothing else ends reading. -/
theorem visits_of_error {text : List Char} {fault : Numeral.IntegerFault}
    (h : readStatements text = .error fault) :
    ∃ place c t, Visits text place ∧ skipSeparators place = .ok (c :: t) ∧
      statement (c :: t) = .error (.numeral fault) := by
  fun_induction readStatements text with
  | case1 => cases h
  | case2 text c t hs found hf ih =>
    cases hr : readStatements found.rest with
    | error e =>
      rw [hr] at h
      cases h
      obtain ⟨place, d, u, hv, hsep, hstmt⟩ := ih hr
      exact ⟨place, d, u, .next hs hf hv, hsep, hstmt⟩
    | ok out =>
      rw [hr] at h
      cases h
  | case3 text c t hs what site reached hf ih =>
    cases hr : readStatements (resume t reached) with
    | error e =>
      rw [hr] at h
      cases h
      obtain ⟨place, d, u, hv, hsep, hstmt⟩ := ih hr
      exact ⟨place, d, u, .resumed hs hf hv, hsep, hstmt⟩
    | ok out =>
      rw [hr] at h
      cases h
  | case4 text c t hs found hf =>
    cases h
    exact ⟨text, c, t, .start text, hs, hf⟩
  | case5 => cases h
  | case6 text found hs =>
    obtain ⟨site, -, he⟩ := skipSeparators_error hs
    cases he

/-- The complaints of a run hold those of the rest of the run. -/
theorem Visits.complaints {text place : List Char} (h : Visits text place)
    {statements : List Statement} {complaints : List Complaint}
    (hr : readStatements text = .ok (statements, complaints)) :
    ∃ later more, readStatements place = .ok (later, more) ∧ more <:+ complaints := by
  induction h generalizing statements complaints with
  | start text => exact ⟨statements, complaints, hr, List.suffix_rfl⟩
  | next hs hf _ ih =>
    rw [readStatements_next hs hf] at hr
    obtain ⟨out, ho, he⟩ := ok_of_map hr
    cases he
    exact ih ho
  | resumed hs hf _ ih =>
    rw [readStatements_resumed hs hf] at hr
    obtain ⟨out, ho, he⟩ := ok_of_map hr
    cases he
    obtain ⟨later, more, hl, hm⟩ := ih ho
    exact ⟨later, more, hl, hm.trans (List.suffix_cons _ _)⟩

theorem Visits.trans {text place later : List Char} (h : Visits text place)
    (h' : Visits place later) : Visits text later := by
  induction h with
  | start text => exact h'
  | next hs hf _ ih => exact .next hs hf (ih h')
  | resumed hs hf _ ih => exact .resumed hs hf (ih h')

/-- A statement that fails at a place that is visited is complained about, and reading resumes behind
its first character. -/
theorem Visits.recovers {text place t site reached : List Char} {c : Char} {what : Problem}
    (h : Visits text place) {statements : List Statement} {complaints : List Complaint}
    (hr : readStatements text = .ok (statements, complaints))
    (hs : skipSeparators place = .ok (c :: t))
    (hf : statement (c :: t) = .error (.problem what site reached)) :
    ⟨what, site.length⟩ ∈ complaints ∧ site <:+ text ∧ resume t reached <:+ t ∧
      Visits text (resume t reached) := by
  have hw : reached <:+ site ∧ site <:+ c :: t := statement_faults (c :: t) _ hf
  have hplace := (skipSeparators_suffix hs).trans h.suffix
  refine ⟨?_, hw.2.trans hplace, resume_suffix (hw.1.trans hw.2),
    h.trans (.resumed hs hf (.start _))⟩
  obtain ⟨later, more, hl, hm⟩ := h.complaints hr
  rw [readStatements_resumed hs hf] at hl
  obtain ⟨out, -, he⟩ := ok_of_map hl
  cases he
  exact hm.subset List.mem_cons_self

/-- A comment that is not closed is complained about where it opens. -/
theorem Visits.openComment {text place site rest : List Char} {what : Problem}
    (h : Visits text place) {statements : List Statement} {complaints : List Complaint}
    (hr : readStatements text = .ok (statements, complaints))
    (hs : skipSeparators place = .error (.problem what site rest)) :
    ⟨what, site.length⟩ ∈ complaints ∧ site <:+ text := by
  obtain ⟨later, more, hl, hm⟩ := h.complaints hr
  rw [readStatements_openComment hs] at hl
  cases hl
  obtain ⟨opened, ho, he⟩ := skipSeparators_error hs
  cases he
  exact ⟨hm.subset List.mem_cons_self, ho.trans h.suffix⟩

theorem read_eq (source : String) :
    read source = (readStatements (Text.unifyLineEnds source.toList)).map fun out =>
      ⟨Text.unifyLineEnds source.toList, out.1, out.2⟩ := by
  rw [read]
  cases readStatements (Text.unifyLineEnds source.toList) <;> rfl

/-! ## A number with too many digits -/

theorem takeDecimals_nines (n : Nat) :
    Numeral.takeDecimals (List.replicate n '9') = (List.replicate n 9, []) := by
  induction n with
  | zero => rfl
  | succ n ih =>
    have hd : Text.decimalValue? '9' = some 9 := rfl
    rw [Numeral.takeDecimals] at ih ⊢
    rw [List.replicate_succ, Numeral.takeDigits, hd, ih]
    rfl

theorem take?_nines (n : Nat) :
    Numeral.Literal.take? (List.replicate (n + 1) '9') =
      some (.whole false (List.replicate (n + 1) 9), []) := by
  have hd : Numeral.takeDecimal? false (List.replicate (n + 1) '9') =
      some (.whole false (List.replicate (n + 1) 9), []) := by
    rw [Numeral.takeDecimal?, takeDecimals_nines]
    rfl
  exact hd

theorem numberOrCommand?_nines {n : Nat} (h : Numeral.digitLimit ≤ n) :
    numberOrCommand? hashtable (List.replicate (n + 1) '9') =
      .error (.numeral (.tooManyDigits (n + 1))) := by
  have hv : (Numeral.Literal.whole false (List.replicate (n + 1) 9)).value =
      .error (.tooManyDigits (n + 1)) := by
    rw [Numeral.Literal.value, Numeral.ofDecimals, List.length_replicate, if_neg (by omega)]
    rfl
  rw [numberOrCommand?]
  split
  · rename_i ht
    cases (take?_nines n).symm.trans ht
    rw [hv]
    rfl
  · rename_i ht
    cases (take?_nines n).symm.trans ht

theorem statement_nines {n : Nat} (h : Numeral.digitLimit ≤ n) :
    statement (List.replicate (n + 1) '9') = .error (.numeral (.tooManyDigits (n + 1))) := by
  have hp : primary? hashtable (List.replicate (n + 1) '9') = .ok none := rfl
  have he : expression hashtable endsElement (List.replicate (n + 1) '9') =
      .error (.numeral (.tooManyDigits (n + 1))) := by
    rw [expression, hp]
    show numberOrCommand? hashtable (List.replicate (n + 1) '9') >>= _ = _
    rw [numberOrCommand?_nines h]
    rfl
  have hs : stage (List.replicate (n + 1) '9') = .error (.numeral (.tooManyDigits (n + 1))) := by
    have hcommand : startsCommand '9' = false := by decide
    rw [List.replicate_succ] at he ⊢
    rw [stage, if_neg (by simp [startsInvocation]), if_neg (by simp [hcommand]), he]
    rfl
  have hk : startsKeyword (List.replicate (n + 1) '9') = false := rfl
  have hline : pipelineStatement (List.replicate (n + 1) '9') =
      .error (.numeral (.tooManyDigits (n + 1))) := by
    rw [pipelineStatement, pipeline, hs]
    rfl
  rw [List.replicate_succ] at hk hline ⊢
  rw [statement, if_neg (by decide), hk, if_neg Bool.false_ne_true, hline]
  intro h
  exact absurd h (by decide)

theorem skipSeparators_nines (n : Nat) :
    skipSeparators (List.replicate (n + 1) '9') = .ok (List.replicate (n + 1) '9') := by
  have hi : skipInline (List.replicate (n + 1) '9') = .ok (List.replicate (n + 1) '9') := by
    rw [List.replicate_succ, skipInline]
    · rfl
    · intro u h
      exact absurd h (by decide)
    · intro u h
      exact absurd h (by decide)
  have hb : skipBlanks (List.replicate (n + 1) '9') = .ok (List.replicate (n + 1) '9') := by
    rw [skipBlanks]
    split
    · rename_i h
      cases hi.symm.trans h
    · rename_i h
      exact h.symm.trans hi
    · rename_i h
      cases hi.symm.trans h
  rw [skipSeparators]
  split
  · rename_i h
    cases hb.symm.trans h
  · rename_i h
    exact h.symm.trans hb
  · rename_i h
    cases hb.symm.trans h

theorem unifyLineEnds_nines (n : Nat) :
    Text.unifyLineEnds (List.replicate n '9') = List.replicate n '9' := by
  induction n with
  | zero => rfl
  | succ n ih => exact congrArg ('9' :: ·) ih

/-- A script of nines alone, more than are converted, is not read. -/
theorem read_nines {n : Nat} (h : Numeral.digitLimit ≤ n) :
    read (String.ofList (List.replicate (n + 1) '9')) = .error (.tooManyDigits (n + 1)) := by
  have hr : readStatements (List.replicate (n + 1) '9') = .error (.tooManyDigits (n + 1)) :=
    (Visits.start _).fails (skipSeparators_nines n) (statement_nines h)
  rw [read_eq, String.toList_ofList, unifyLineEnds_nines, hr]
  rfl

/-! ## When reading returns -/

/-- Reading a script returns exactly if no place that it visits holds a number with too many digits.
It can only fail to return if a run of more digits than are converted stands in the script, and then
it names their number. If it returns, every fault at a place that it visited is among the complaints,
with a site in the script, and behind a statement that failed reading has resumed at a later place. -/
theorem read_returns_iff (source : String) :
    ((∃ reading, read source = .ok reading) ↔
      ∀ place c t fault, Visits (Text.unifyLineEnds source.toList) place →
        skipSeparators place = .ok (c :: t) → statement (c :: t) ≠ .error (.numeral fault)) ∧
    (∀ fault, read source = .error fault →
      LongNumber (Text.unifyLineEnds source.toList) fault) ∧
    ∀ reading, read source = .ok reading → ∀ place, Visits reading.text place →
      (∀ c t what site reached, skipSeparators place = .ok (c :: t) →
        statement (c :: t) = .error (.problem what site reached) →
        ⟨what, site.length⟩ ∈ reading.complaints ∧ site <:+ reading.text ∧
          resume t reached <:+ t ∧ Visits reading.text (resume t reached)) ∧
      ∀ what site rest, skipSeparators place = .error (.problem what site rest) →
        ⟨what, site.length⟩ ∈ reading.complaints ∧ site <:+ reading.text := by
  rw [read_eq]
  cases hr : readStatements (Text.unifyLineEnds source.toList) with
  | error fault =>
    obtain ⟨place, c, t, hv, hs, hf⟩ := visits_of_error hr
    refine ⟨?_, ?_, ?_⟩
    · constructor
      · rintro ⟨reading, h⟩
        cases h
      · intro h
        exact absurd hf (h place c t fault hv hs)
    · intro other ho
      cases ho
      exact LongNumber.mono (statement_faults (c :: t) _ hf)
        ((skipSeparators_suffix hs).trans hv.suffix).isInfix
    · intro reading h
      cases h
  | ok out =>
    refine ⟨?_, ?_, ?_⟩
    · constructor
      · intro _ place c t fault hv hs hf
        cases hr.symm.trans (hv.fails hs hf)
      · intro _
        exact ⟨_, rfl⟩
    · intro fault h
      cases h
    · intro reading h place hv
      cases h
      constructor
      · intro c t what site reached hs hf
        exact hv.recovers hr hs hf
      · intro what site rest hs
        exact hv.openComment hr hs

theorem read_not_total :
    read (String.ofList (List.replicate 4301 '9')) = .error (.tooManyDigits 4301) ∧
      ¬∀ source, ∃ reading, read source = .ok reading := by
  have hr : read (String.ofList (List.replicate 4301 '9')) = .error (.tooManyDigits 4301) :=
    read_nines (n := 4300) (Nat.le_refl _)
  refine ⟨hr, ?_⟩
  intro returns
  obtain ⟨reading, h⟩ := returns (String.ofList (List.replicate 4301 '9'))
  cases hr.symm.trans h

end PageScript.Script
