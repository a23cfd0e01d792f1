import Mathlib.Data.Nat.Init
import PageScript.Script.Statement

/-!
# Where the faults of a script are

Every reader of a part of a script that fails does so at a place of the text it was given: the site
of a problem is a tail of that text, and reading has got to the site or further. The one fault of
another kind, a number that cannot be converted, has its cause in the text too, a run of more decimal
digits than are converted. `FaultsIn` says so of a reader's outcome. It goes through sequences and
choices, so there is one short lemma for each reader, in the order of the readers.
-/

namespace PageScript.Script

/-! ## Numbers with too many digits -/

/-- A run of more decimal digits than are converted stands in the text, and is what the fault is
about. -/
def LongNumber (text : List Char) (fault : Numeral.IntegerFault) : Prop :=
  ∃ run, run <:+: text ∧ (∀ c ∈ run, (Text.decimalValue? c).isSome) ∧
    Numeral.digitLimit < run.length ∧ fault = .tooManyDigits run.length

theorem LongNumber.mono {inner text : List Char} {fault : Numeral.IntegerFault}
    (h : LongNumber inner fault) (hi : inner <:+: text) : LongNumber text fault := by
  obtain ⟨run, hr, digits, long, rfl⟩ := h
  exact ⟨run, hr.trans hi, digits, long, rfl⟩

/-- The digits that are taken are as many characters at the start of the text. -/
theorem takeDigits_run (value? : Char → Option Nat) (text : List Char) :
    ∃ run, run <+: text ∧ (∀ c ∈ run, (value? c).isSome) ∧
      run.length = (Numeral.takeDigits value? text).1.length := by
  induction text with
  | nil => exact ⟨[], List.prefix_rfl, fun _ h => absurd h List.not_mem_nil, rfl⟩
  | cons c rest ih =>
    rw [Numeral.takeDigits]
    cases hc : value? c with
    | none => exact ⟨[], List.nil_prefix, fun _ h => absurd h List.not_mem_nil, rfl⟩
    | some d =>
      obtain ⟨run, hp, hd, hl⟩ := ih
      refine ⟨c :: run, List.prefix_cons_inj c |>.2 hp, ?_, by rw [List.length_cons, hl]; rfl⟩
      intro e he
      rcases List.mem_cons.1 he with rfl | he
      · rw [hc]
        rfl
      · exact hd e he

theorem takeDecimal?_long {negative : Bool} {text rest : List Char} {literal : Numeral.Literal}
    {fault : Numeral.IntegerFault} (h : Numeral.takeDecimal? negative text = some (literal, rest))
    (hv : literal.value = .error fault) : LongNumber text fault := by
  obtain ⟨run, hp, digits, hl⟩ := takeDigits_run Text.decimalValue? text
  simp only [Numeral.takeDecimal?] at h
  split at h
  · cases h
  · cases h
    unfold Numeral.Literal.ofParts at hv
    split at hv
    · rw [Numeral.Literal.value, Numeral.ofDecimals] at hv
      split at hv
      · cases hv
      · rename_i hlong
        cases hv
        rw [Numeral.takeDecimals, ← hl] at hlong ⊢
        exact ⟨run, hp.isInfix, digits, Nat.lt_of_not_le hlong, rfl⟩
    · cases hv

/-- Only a whole number in decimal digits can have too many of them. -/
theorem take?_long {text rest : List Char} {literal : Numeral.Literal}
    {fault : Numeral.IntegerFault} (h : Numeral.Literal.take? text = some (literal, rest))
    (hv : literal.value = .error fault) : LongNumber text fault := by
  have hs := (Numeral.takeSign_suffix text).isInfix
  have decimal {negative : Bool} {body : List Char}
      (hb : Numeral.takeDecimal? negative body = some (literal, rest))
      (he : body = (Numeral.takeSign text).2) : LongNumber text fault :=
    (takeDecimal?_long hb hv).mono (he ▸ hs)
  simp only [Numeral.Literal.take?] at h
  split at h
  · rename_i x tail hbody
    split at h
    · split at h
      · exact decimal h rfl
      · cases h
        cases hv
    · exact decimal h rfl
  · exact decimal h rfl

theorem wordExpr_long {extent : Extent} {word : String} {fault : Numeral.IntegerFault}
    (h : wordExpr extent word = .error fault) : LongNumber word.toList fault := by
  unfold wordExpr at h
  split at h
  · rename_i literal hl
    unfold Numeral.Literal.ofText? at hl
    split at hl
    · rename_i found ht
      cases hl
      cases hv : literal.value with
      | ok value =>
        rw [hv] at h
        cases h
      | error e =>
        rw [hv] at h
        cases h
        exact take?_long ht hv
    · cases hl
  · split at h <;> cases h

/-! ## Faults and outcomes -/

/-- The fault has its cause in the text, and for a problem reading has got to its site or further. -/
def Fault.Within (text : List Char) : Fault → Prop
  | .problem _ site rest => rest <:+ site ∧ site <:+ text
  | .numeral fault => LongNumber text fault

theorem Fault.Within.mono {inner text : List Char} {fault : Fault} (h : fault.Within inner)
    (hs : inner <:+ text) : fault.Within text := by
  cases fault with
  | problem what site rest => exact ⟨h.1, h.2.trans hs⟩
  | numeral fault => exact LongNumber.mono h hs.isInfix

theorem unexpected_within (text : List Char) : (Fault.unexpected text).Within text := by
  cases text with
  | nil => exact ⟨List.suffix_rfl, List.suffix_rfl⟩
  | cons c t => exact ⟨List.suffix_rfl, List.suffix_rfl⟩

/-- If this fails, it fails in the text. -/
def FaultsIn {α : Type} (text : List Char) (x : Except Fault α) : Prop :=
  ∀ fault, x = .error fault → fault.Within text

section

variable {α β : Type} {text inner : List Char}

theorem FaultsIn.ok (a : α) : FaultsIn text (.ok a) := by
  intro fault h
  cases h

theorem FaultsIn.error {fault : Fault} (h : fault.Within text) :
    FaultsIn (α := α) text (.error fault) := by
  intro found hf
  cases hf
  exact h

theorem FaultsIn.site {what : Problem} {site : List Char} (h : site <:+ text) :
    FaultsIn (α := α) text (.error (.problem what site site)) :=
  .error ⟨List.suffix_rfl, h⟩

theorem FaultsIn.mono {x : Except Fault α} (h : FaultsIn inner x) (hs : inner <:+ text) :
    FaultsIn text x := fun fault hf => (h fault hf).mono hs

theorem FaultsIn.bind {x : Except Fault α} {f : α → Except Fault β} (h : FaultsIn text x)
    (hf : ∀ a, x = .ok a → FaultsIn text (f a)) : FaultsIn text (x >>= f) := by
  cases x with
  | error fault => exact .error (h fault rfl)
  | ok a => exact hf a rfl

theorem FaultsIn.map {x : Except Fault α} (f : α → β) (h : FaultsIn text x) :
    FaultsIn text (x.map f) := by
  cases x with
  | error fault => exact .error (h fault rfl)
  | ok a => exact .ok (f a)

theorem FaultsIn.checked {x : Except Fault α} (h : FaultsIn text x) :
    FaultsIn text (checked x) := by
  cases x with
  | error fault => exact .error (h fault rfl)
  | ok a => exact .ok _

theorem FaultsIn.liftNumeral {x : Except Numeral.IntegerFault α}
    (h : ∀ fault, x = .error fault → LongNumber text fault) : FaultsIn text (liftNumeral x) := by
  cases x with
  | error fault => exact .error (h fault rfl)
  | ok a => exact .ok a

end

/-! ## Blanks, strings and groups -/

/-- Blanks can be wrong in one way: a comment in them is not closed. -/
def OpenComment (text : List Char) (fault : Fault) : Prop :=
  ∃ site, site <:+ text ∧ fault = .problem .openComment site site

theorem OpenComment.mono {inner text : List Char} {fault : Fault} (h : OpenComment inner fault)
    (hs : inner <:+ text) : OpenComment text fault := by
  obtain ⟨site, hi, rfl⟩ := h
  exact ⟨site, hi.trans hs, rfl⟩

theorem OpenComment.within {text : List Char} {fault : Fault} (h : OpenComment text fault) :
    fault.Within text := by
  obtain ⟨site, hi, rfl⟩ := h
  exact ⟨List.suffix_rfl, hi⟩

theorem skipBlockComment_error {text : List Char} {fault : Fault}
    (h : skipBlockComment text = .error fault) : OpenComment text fault := by
  unfold skipBlockComment at h
  split at h
  · cases h
  · cases h
    exact ⟨text, List.suffix_rfl, rfl⟩

theorem skipInline_error {text : List Char} {fault : Fault} (h : skipInline text = .error fault) :
    OpenComment text fault := by
  fun_induction skipInline text with
  | case1 => cases h
  | case2 c t _ ih => exact (ih h).mono (List.suffix_cons c t)
  | case3 t _ ih => exact (ih h).mono ((skipLineComment_suffix t).trans (List.suffix_cons _ t))
  | case4 u _ _ ih => exact (ih h).mono ⟨['`', '\n'], rfl⟩
  | case5 u rest hr _ _ ih =>
    exact (ih h).mono ((skipBlockComment_suffix hr).trans ⟨['<', '#'], rfl⟩)
  | case6 u found hr =>
    cases h
    exact skipBlockComment_error hr
  | case7 => cases h

theorem skipBlanks_error {text : List Char} {fault : Fault} (h : skipBlanks text = .error fault) :
    OpenComment text fault := by
  fun_induction skipBlanks text with
  | case1 text rest hr ih =>
    exact (ih h).mono ((List.suffix_cons '\n' rest).trans (skipInline_suffix hr))
  | case2 => cases h
  | case3 text found hr =>
    cases h
    exact skipInline_error hr

theorem skipBlockComment_faults (text : List Char) : FaultsIn text (skipBlockComment text) :=
  fun _ h => (skipBlockComment_error h).within

theorem skipInline_faults (text : List Char) : FaultsIn text (skipInline text) :=
  fun _ h => (skipInline_error h).within

theorem skipBlanks_faults (text : List Char) : FaultsIn text (skipBlanks text) :=
  fun _ h => (skipBlanks_error h).within

theorem singleQuotedBody_faults (opened text : List Char) :
    FaultsIn opened (singleQuotedBody opened text) := by
  fun_induction singleQuotedBody opened text with
  | case1 rest ih => exact ih.map _
  | case2 => exact .ok _
  | case3 c rest _ _ ih => exact ih.map _
  | case4 => exact .error ⟨List.nil_suffix, List.suffix_rfl⟩

theorem hereStringBody_faults (opened : List Char) (quote : Char) (text : List Char) :
    FaultsIn opened (hereStringBody opened quote text) := by
  unfold hereStringBody
  split
  · exact .ok _
  · exact .site List.suffix_rfl

theorem flatItem_faults (c : Char) (rest : List Char) : FaultsIn (c :: rest) (flatItem c rest) := by
  unfold flatItem
  split
  · exact (singleQuotedBody_faults _ _).map _
  · split
    · exact (hereStringBody_faults _ _ _).map _
    · split
      · exact .ok _
      · split
        · exact skipBlockComment_faults _
        · split <;> exact .ok _

/-- What is open was opened in the text. -/
def Frame.Within (text : List Char) : Frame → Prop
  | .group _ opened | .string opened => opened <:+ text

theorem stringStep_within {text opened rest : List Char} {c : Char} (ho : opened <:+ text)
    (hr : c :: rest <:+ text) : ∀ frame ∈ (stringStep opened c rest).1, frame.Within text := by
  have same : ∀ frame ∈ [Frame.string opened], frame.Within text := by
    intro frame hf
    cases List.mem_singleton.1 hf
    exact ho
  unfold stringStep
  split
  · exact same
  · split
    · split
      · intro frame hf
        rcases List.mem_cons.1 hf with rfl | hf
        · exact (List.suffix_cons c _).trans hr
        · exact same frame hf
      · exact same
    · split
      · split
        · exact same
        · exact fun _ hf => absurd hf List.not_mem_nil
      · exact same

theorem groupStep_within {closer c : Char} {text opened rest after : List Char}
    {frames : List Frame} (ho : opened <:+ text) (hr : c :: rest <:+ text)
    (h : groupStep closer opened c rest = .ok (frames, after)) :
    ∀ frame ∈ frames, frame.Within text := by
  have pair {first : Frame} (hf : first.Within text) :
      ∀ frame ∈ [first, .group closer opened], frame.Within text := by
    intro frame hm
    rcases List.mem_cons.1 hm with rfl | hm
    · exact hf
    · cases List.mem_singleton.1 hm
      exact ho
  unfold groupStep at h
  split at h
  · cases h
    exact pair hr
  · split at h
    · split at h
      · cases h
        exact fun _ hf => absurd hf List.not_mem_nil
      · cases h
    · split at h
      · cases h
        exact pair hr
      · cases hi : flatItem c rest with
        | error fault =>
          rw [hi] at h
          cases h
        | ok found =>
          rw [hi] at h
          cases h
          intro frame hm
          cases List.mem_singleton.1 hm
          exact ho

theorem step_within {c : Char} {text rest after : List Char} {frame : Frame} {frames : List Frame}
    (hf : frame.Within text) (hr : c :: rest <:+ text)
    (h : frame.step c rest = .ok (frames, after)) : ∀ frame ∈ frames, frame.Within text := by
  cases frame with
  | group closer opened => exact groupStep_within hf hr h
  | string opened =>
    rw [Frame.step, Except.ok.injEq] at h
    have := stringStep_within hf hr
    rwa [h] at this

theorem step_faults (c : Char) (rest : List Char) (frame : Frame) :
    FaultsIn (c :: rest) (frame.step c rest) := by
  cases frame with
  | string opened => exact .ok _
  | group closer opened =>
    rw [Frame.step]
    unfold groupStep
    split
    · exact .ok _
    · split
      · split
        · exact .ok _
        · exact .site List.suffix_rfl
      · split
        · exact .ok _
        · exact (flatItem_faults c rest).map _

theorem closeAll_faults {text whole : List Char} {frames : List Frame}
    (hf : ∀ frame ∈ frames, frame.Within whole) (ht : text <:+ whole) :
    FaultsIn whole (closeAll frames text) := by
  fun_induction closeAll frames text with
  | case1 => exact .ok _
  | case2 frame frames =>
    have := hf frame List.mem_cons_self
    cases frame with
    | group closer opened => exact .error ⟨List.nil_suffix, this⟩
    | string opened => exact .error ⟨List.nil_suffix, this⟩
  | case3 frame frames c rest top after hs ih =>
    refine ih (fun other hm => ?_) ((Frame.step_suffix hs).trans ((List.suffix_cons c rest).trans ht))
    rcases List.mem_append.1 hm with hm | hm
    · exact step_within (hf frame List.mem_cons_self) ht hs other hm
    · exact hf other (List.mem_cons_of_mem _ hm)
  | case4 frame frames c rest fault hs => exact .error ((step_faults c rest frame fault hs).mono ht)

theorem groupRest_faults (closer : Char) (text : List Char) :
    FaultsIn text (groupRest closer text) := by
  refine closeAll_faults (fun frame hm => ?_) (List.tail_suffix text)
  cases List.mem_singleton.1 hm
  exact List.suffix_rfl

theorem doubleQuotedRest_faults (text : List Char) : FaultsIn text (doubleQuotedRest text) := by
  refine closeAll_faults (fun frame hm => ?_) (List.tail_suffix text)
  cases List.mem_singleton.1 hm
  exact List.suffix_rfl

/-! ## Text that is passed over -/

theorem rawItem_faults (c : Char) (rest : List Char) : FaultsIn (c :: rest) (rawItem c rest) := by
  unfold rawItem
  split
  · exact groupRest_faults _ _
  · split
    · exact .error (unexpected_within _)
    · split
      · exact doubleQuotedRest_faults _
      · exact flatItem_faults c rest

theorem rawRest_faults (stops : Char → Bool) (text : List Char) :
    FaultsIn text (rawRest stops text) := by
  fun_induction rawRest stops text with
  | case1 => exact .ok _
  | case2 => exact .ok _
  | case3 c rest _ after hr ih => exact ih.mono ((rawItem_suffix hr).trans (List.suffix_cons c rest))
  | case4 c rest _ fault hr => exact .error (rawItem_faults c rest fault hr)

theorem rawBehind_faults (stops : Char → Bool) (c : Char) (rest : List Char) :
    FaultsIn (c :: rest) (rawBehind stops c rest) := by
  refine (rawItem_faults c rest).bind fun after hr => ?_
  exact (rawRest_faults stops after).mono ((rawItem_suffix hr).trans (List.suffix_cons c rest))

/-! ## Words and variables -/

theorem word_faults (text : List Char) : FaultsIn text (word text) := by
  unfold word
  split
  · exact .ok _
  · exact .error (unexpected_within text)

theorem word_value {text : List Char} {found : Found String text} (h : word text = .ok found) :
    found.value.toList <+: text := by
  unfold word at h
  split at h
  · cases h
    rw [String.toList_ofList]
    exact List.take_prefix _ text
  · cases h

theorem variableName?_faults (rest : List Char) : FaultsIn ('$' :: rest) (variableName? rest) := by
  unfold variableName?
  split
  · split
    · exact .ok _
    · exact .error ⟨List.suffix_cons _ _, List.suffix_rfl⟩
  · split
    · exact .ok _
    · split
      · split
        · split <;> exact .ok _
        · exact .ok _
      · exact .ok _
  · exact .ok _

theorem variableAt_faults (rest : List Char) : FaultsIn ('$' :: rest) (variableAt rest) := by
  refine (variableName?_faults rest).checked.bind fun found _ => ?_
  split <;> exact .ok _

theorem memberItem?_faults (text : List Char) : FaultsIn text (memberItem? text) := by
  unfold memberItem?
  split
  · rename_i c t
    split
    · split
      · rename_i arguments ha
        have hs := dropName_suffix (c :: t)
        rw [ha] at hs
        exact ((groupRest_faults _ _).map _).mono (hs.trans (List.suffix_cons _ _))
      · exact .ok _
    · exact .ok _
  · exact (groupRest_faults _ _).map _
  · exact .ok _

theorem membersRest_faults (text : List Char) : FaultsIn text (membersRest text) := by
  fun_induction membersRest text with
  | case1 text rest hr ih => exact ih.mono (memberItem?_suffix hr).1
  | case2 => exact .ok _
  | case3 text fault hr => exact .error (memberItem?_faults text fault hr)

theorem withMembers_faults {text : List Char} (found : Found Expr text) :
    FaultsIn text (withMembers found) := by
  refine ((membersRest_faults found.rest).mono found.suffix).checked.bind fun rest _ => ?_
  dsimp only
  split <;> exact .ok _

/-! ## Expressions and commands -/

theorem groupExpr_faults (kind : RawKind) (closer c : Char) (t : List Char) :
    FaultsIn (c :: t) (groupExpr kind closer c t) :=
  (groupRest_faults closer (c :: t)).checked.bind fun _ _ => .ok _

theorem signedGroupExpr_faults (kind : RawKind) (c : Char) (t : List Char) :
    FaultsIn (c :: '(' :: t) (signedGroupExpr kind c t) :=
  ((groupRest_faults ')' ('(' :: t)).mono (List.suffix_cons c _)).checked.bind fun _ _ => .ok _

theorem hereStringExpr_faults {text body : List Char} {quote : Char}
    (head : hereStringHead? text = some (quote, body)) : FaultsIn text (hereStringExpr head) :=
  (hereStringBody_faults text quote body).checked.bind fun _ _ => .ok _

theorem dollarExpr_faults (t : List Char) : FaultsIn ('$' :: t) (dollarExpr t) := by
  unfold dollarExpr
  split
  · exact (signedGroupExpr_faults _ _ _).bind fun found _ => withMembers_faults found
  · exact (variableAt_faults _).bind fun found _ => withMembers_faults found

section

variable {table : TableReader} (htable : ∀ text, FaultsIn text (table text))
include htable

theorem atExpr_faults (t : List Char) : FaultsIn ('@' :: t) (atExpr table t) := by
  unfold atExpr
  split
  · exact (htable _).bind fun _ _ => .ok _
  · exact signedGroupExpr_faults _ _ _
  · split
    · exact .ok _
    · exact .site List.suffix_rfl

theorem primary?_faults (text : List Char) : FaultsIn text (primary? table text) := by
  unfold primary?
  split
  · exact ((singleQuotedBody_faults _ _).checked.bind fun _ _ => .ok _).map some
  · exact ((doubleQuotedRest_faults _).checked.bind fun _ _ => .ok _).map some
  · split
    · exact (hereStringExpr_faults _).map some
    · exact (atExpr_faults htable _).map some
  · exact (dollarExpr_faults _).map some
  · exact (groupExpr_faults _ _ _ _).map some
  · exact (groupExpr_faults _ _ _ _).map some
  · exact (groupExpr_faults _ _ _ _).map some
  · exact .ok _

theorem argument_faults (text : List Char) : FaultsIn text (argument table text) := by
  refine (primary?_faults htable text).bind fun first _ => ?_
  split
  · exact .ok _
  · refine (word_faults text).bind fun found hw => ?_
    refine (FaultsIn.liftNumeral fun fault hf => ?_).bind fun _ _ => .ok _
    exact (wordExpr_long hf).mono (word_value hw).isInfix

omit htable in
theorem listComma?_faults (text : List Char) : FaultsIn text (listComma? text) := by
  refine (skipInline_faults text).checked.bind fun found _ => ?_
  split
  · rename_i t h _
    have hs := (List.suffix_cons ',' t).trans (skipInline_suffix h)
    refine ((skipBlanks_faults t).mono hs).checked.bind fun here _ => ?_
    obtain ⟨here, hb⟩ := here
    dsimp only
    split
    · exact .site ((skipBlanks_suffix hb).trans hs)
    · exact .ok _
  · exact .ok _

theorem listRest_faults (text : List Char) : FaultsIn text (listRest table text) := by
  induction hn : text.length using Nat.strongRecOn generalizing text with
  | ind n ih =>
    subst hn
    rw [listRest]
    refine (listComma?_faults text).bind fun comma _ => ?_
    cases comma with
    | none => exact .ok _
    | some comma =>
      refine ((argument_faults htable comma.rest).mono comma.suffix).bind fun item _ => ?_
      have hl := Nat.lt_trans item.shorter comma.shorter
      exact ((ih _ hl item.rest rfl).mono (item.suffix.trans comma.suffix)).bind fun _ _ => .ok _

theorem parameter_faults (t : List Char) : FaultsIn ('-' :: t) (parameter table t) := by
  unfold parameter
  dsimp only
  split
  · rename_i behind hd
    have hs : behind <:+ '-' :: t :=
      ((List.suffix_cons ':' behind).trans (hd ▸ List.dropWhile_suffix _)).trans (List.suffix_cons _ t)
    refine ((skipInline_faults behind).mono hs).checked.bind fun here _ => ?_
    obtain ⟨here, h⟩ := here
    have hh := (skipInline_suffix h).trans hs
    dsimp only
    split
    · exact .site hh
    · exact ((argument_faults htable here).mono hh).bind fun _ _ => .ok _
  · exact .ok _

theorem positional_faults (text : List Char) : FaultsIn text (positional table text) := by
  refine (argument_faults htable text).bind fun found _ => ?_
  refine ((listRest_faults htable found.rest).mono found.suffix).bind fun rest _ => ?_
  split <;> exact .ok _

theorem element_faults (text : List Char) : FaultsIn text (element table text) := by
  unfold element
  split
  · split
    · exact parameter_faults htable _
    · exact positional_faults htable _
  · exact positional_faults htable _

theorem elements_faults (text : List Char) : FaultsIn text (elements table text) := by
  induction hn : text.length using Nat.strongRecOn generalizing text with
  | ind n ih =>
    subst hn
    rw [elements]
    refine (skipInline_faults text).checked.bind fun here _ => ?_
    obtain ⟨here, h⟩ := here
    have hs := skipInline_suffix h
    dsimp only
    split
    · exact .ok _
    · refine ((element_faults htable here).mono hs).bind fun first _ => ?_
      have hl := Nat.lt_of_lt_of_le first.shorter hs.length_le
      exact ((ih _ hl first.rest rfl).mono (first.suffix.trans hs)).bind fun _ _ => .ok _

theorem command_faults (text : List Char) : FaultsIn text (command table text) := by
  refine (word_faults text).bind fun name _ => ?_
  exact ((elements_faults htable name.rest).mono name.suffix).bind fun _ _ => .ok _

theorem numberOrCommand?_faults (text : List Char) :
    FaultsIn text (numberOrCommand? table text) := by
  unfold numberOrCommand?
  split
  · rename_i literal rest h
    exact (FaultsIn.liftNumeral fun fault hf => take?_long h hf).bind fun _ _ => .ok _
  · split
    · exact (command_faults htable text).bind fun _ _ => .ok _
    · exact .ok _

omit htable in
theorem unaryExpr_faults (stops : Char → Bool) (text : List Char) :
    FaultsIn text (unaryExpr stops text) := by
  unfold unaryExpr
  split
  · exact .error (unexpected_within [])
  · split
    · exact (rawBehind_faults stops _ _).checked.bind fun _ _ => .ok _
    · exact .error (unexpected_within _)

omit htable in
theorem extended_faults {text : List Char} (stops : Char → Bool) (first : Found Expr text) :
    FaultsIn text (extended stops first) := by
  refine ((skipInline_faults first.rest).mono first.suffix).checked.bind fun here _ => ?_
  obtain ⟨here, h⟩ := here
  dsimp only
  split
  · exact .ok _
  · have hs := (skipInline_suffix h).trans first.suffix
    exact ((rawRest_faults stops here).mono hs).checked.bind fun _ _ => .ok _

theorem expression_faults (stops : Char → Bool) (text : List Char) :
    FaultsIn text (expression table stops text) := by
  refine (primary?_faults htable text).bind fun first _ => ?_
  cases first with
  | some first => exact extended_faults stops first
  | none =>
    refine (numberOrCommand?_faults htable text).bind fun first _ => ?_
    cases first with
    | some first => exact extended_faults stops first
    | none => exact unaryExpr_faults stops text

/-! ## Hashtable literals -/

omit htable in
theorem bareKey_faults (text : List Char) : FaultsIn text (bareKey text) := by
  unfold bareKey
  split
  · exact .site List.suffix_rfl
  · split
    · exact .site List.suffix_rfl
    · refine (FaultsIn.liftNumeral fun fault hf => ?_).bind fun _ _ => .ok _
      refine (wordExpr_long hf).mono ?_
      rw [Extent.between, String.toList_ofList]
      exact (List.take_prefix _ _).isInfix

theorem key_faults (text : List Char) : FaultsIn text (key table text) := by
  refine (primary?_faults htable text).bind fun first _ => ?_
  cases first with
  | some first => exact .ok _
  | none => exact bareKey_faults text

omit htable in
theorem entryValue_missing {text here : List Char} (h : skipInline text = .ok here)
    (he : ∀ t, here ≠ '=' :: t) (table : TableReader) :
    entryValue table text = .error (.problem .missingEquals here here) := by
  conv => lhs; rw [entryValue, checked_ok h]; dsimp only [bind, Except.bind]
  split
  · rename_i heq
    exact absurd (congrArg Subtype.val heq) (he _)
  · rfl

theorem entryValue_faults (text : List Char) : FaultsIn text (entryValue table text) := by
  refine (skipInline_faults text).checked.bind fun found _ => ?_
  split
  · rename_i t h _
    have hs := (List.suffix_cons '=' t).trans (skipInline_suffix h)
    refine ((skipBlanks_faults t).mono hs).checked.bind fun here _ => ?_
    obtain ⟨here, hb⟩ := here
    have hh := (skipBlanks_suffix hb).trans hs
    dsimp only
    split
    · exact .site hh
    · exact ((expression_faults htable endsEntry here).mono hh).bind fun _ _ => .ok _
  · exact .site (skipInline_suffix found.property)

theorem entries_faults {opened whole : List Char} (ho : opened <:+ whole) {text : List Char}
    (ht : text <:+ whole) : FaultsIn whole (entries table opened text) := by
  induction hn : text.length using Nat.strongRecOn generalizing text with
  | ind n ih =>
    subst hn
    rw [entries]
    refine ((skipBlanks_faults text).mono ht).checked.bind fun found _ => ?_
    split
    · exact .error ⟨List.nil_suffix, ho⟩
    · rename_i t h _
      have hs := (List.suffix_cons ';' t).trans (skipBlanks_suffix h)
      have hl : t.length < text.length := (skipBlanks_suffix h).length_le
      exact (ih _ hl (hs.trans ht) rfl).bind fun _ _ => .ok _
    · exact .ok _
    · rename_i c t h _ _ _
      have hs := (skipBlanks_suffix h).trans ht
      refine ((key_faults htable _).mono hs).bind fun key _ => ?_
      have hk := key.suffix.trans hs
      refine ((entryValue_faults htable _).mono hk).bind fun value _ => ?_
      have hl : value.rest.length < text.length :=
        Nat.lt_of_lt_of_le (Nat.lt_trans value.shorter key.shorter) (skipBlanks_suffix h).length_le
      exact (ih _ hl (value.suffix.trans hk) rfl).bind fun _ _ => .ok _

end

theorem hashtable_faults (text : List Char) : FaultsIn text (hashtable text) := by
  induction hn : text.length using Nat.strongRecOn generalizing text with
  | ind n ih =>
    subst hn
    rw [hashtable]
    refine (entries_faults (fun t => ?_) List.suffix_rfl (List.drop_suffix 2 text)).bind
      fun _ _ => .ok _
    split
    · rename_i hl
      exact ih _ hl t rfl
    · exact .error (unexpected_within t)

/-! ## Statements -/

theorem clausesRest_faults (text : List Char) : FaultsIn text (clausesRest text) := by
  induction hn : text.length using Nat.strongRecOn generalizing text with
  | ind n ih =>
    subst hn
    cases text with
    | nil =>
      rw [clausesRest]
      exact .ok _
    | cons c t =>
      rw [clausesRest]
      refine (rawBehind_faults endsStatement c t).checked.bind fun stop _ => ?_
      obtain ⟨stop, hs⟩ := stop
      have hstop := (rawBehind_suffix hs).trans (List.suffix_cons c t)
      refine ((skipBlanks_faults stop).mono hstop).checked.bind fun next _ => ?_
      obtain ⟨next, hn⟩ := next
      have hnext := (skipBlanks_suffix hn).trans (rawBehind_suffix hs)
      dsimp only
      split
      · have hl : next.length < (c :: t).length := Nat.lt_succ_of_le hnext.length_le
        exact ((ih _ hl next rfl).mono (hnext.trans (List.suffix_cons c t))).bind fun _ _ => .ok _
      · exact .ok _

theorem keywordStatement_faults (c : Char) (t : List Char) :
    FaultsIn (c :: t) (keywordStatement c t) :=
  (clausesRest_faults (c :: t)).bind fun _ _ => .ok _

theorem invocation_faults (c : Char) (t : List Char) : FaultsIn (c :: t) (invocation c t) := by
  refine ((skipInline_faults t).mono (List.suffix_cons c t)).checked.bind fun here _ => ?_
  obtain ⟨here, h⟩ := here
  have hs := (skipInline_suffix h).trans (List.suffix_cons c t)
  exact ((rawRest_faults endsElement here).mono hs).checked.bind fun _ _ => .ok _

theorem stage_faults (text : List Char) : FaultsIn text (stage text) := by
  unfold stage
  split
  · exact .error (unexpected_within [])
  · split
    · exact invocation_faults _ _
    · split
      · exact (command_faults hashtable_faults _).map _
      · exact (expression_faults hashtable_faults _ _).map _

theorem junction_faults (text : List Char) : FaultsIn text (junction text) := by
  induction hn : text.length using Nat.strongRecOn generalizing text with
  | ind n ih =>
    subst hn
    rw [junction]
    refine (skipInline_faults text).checked.bind fun here _ => ?_
    obtain ⟨here, h⟩ := here
    have hs := skipInline_suffix h
    dsimp only
    split
    · have hd := (List.drop_suffix 2 here).trans hs
      refine ((skipBlanks_faults _).mono hd).checked.bind fun next _ => ?_
      obtain ⟨next, hn⟩ := next
      have hnext := (skipBlanks_suffix hn).trans hd
      exact ((rawRest_faults endsStatement next).mono hnext).checked.bind fun _ _ => .ok _
    · split
      · have ht := (List.tail_suffix here).trans hs
        refine ((skipBlanks_faults _).mono ht).checked.bind fun next _ => ?_
        obtain ⟨next, hn⟩ := next
        have hnext := (skipBlanks_suffix hn).trans ht
        dsimp only
        split
        · exact .site hnext
        · refine ((stage_faults next).mono hnext).bind fun part _ => ?_
          have hl := Nat.lt_of_lt_of_le part.shorter hnext.length_le
          exact ((ih _ hl part.rest rfl).mono (part.suffix.trans hnext)).bind fun _ _ => .ok _
      · exact .ok _

theorem pipeline_faults (text : List Char) : FaultsIn text (pipeline text) := by
  refine (stage_faults text).bind fun first _ => ?_
  exact ((junction_faults first.rest).mono first.suffix).bind fun _ _ => .ok _

theorem statementEnd_faults (text : List Char) : FaultsIn text (statementEnd text) := by
  refine (skipInline_faults text).bind fun here h => ?_
  split
  · exact .ok _
  · exact .error ((unexpected_within here).mono (skipInline_suffix h))

theorem assignedValue_faults (text : List Char) : FaultsIn text (assignedValue text) := by
  have asText : FaultsIn text (assignedValue.asText text) :=
    (pipeline_faults text).bind fun _ _ => .ok _
  unfold assignedValue
  split
  · exact asText
  · refine (expression_faults hashtable_faults endsElement text).bind fun found _ => ?_
    refine ((skipInline_faults found.rest).mono found.suffix).bind fun here _ => ?_
    split
    · exact asText
    · exact .ok _

theorem assignment?_faults (t : List Char) : FaultsIn ('$' :: t) (assignment? t) := by
  refine ((variableAt_faults t).bind fun found _ => withMembers_faults found).bind fun target _ => ?_
  refine ((skipInline_faults target.rest).mono target.suffix).checked.bind fun here _ => ?_
  obtain ⟨here, hh⟩ := here
  have hhere := (skipInline_suffix hh).trans target.suffix
  dsimp only
  split
  · exact .ok _
  · rename_i op behind hop
    have hb := (assignOp?_suffix hop).trans hhere
    refine ((skipBlanks_faults behind).mono hb).checked.bind fun start _ => ?_
    obtain ⟨start, hs⟩ := start
    have hstart := (skipBlanks_suffix hs).trans hb
    dsimp only
    split
    · exact .site hstart
    · refine ((assignedValue_faults start).mono hstart).bind fun value _ => ?_
      have hv := value.suffix.trans hstart
      exact ((statementEnd_faults value.rest).mono hv).checked.bind fun _ _ => .ok _

theorem pipelineStatement_faults (text : List Char) : FaultsIn text (pipelineStatement text) := by
  refine (pipeline_faults text).bind fun found _ => ?_
  exact ((statementEnd_faults found.rest).mono found.suffix).checked.bind fun _ _ => .ok _

/-- A statement that cannot be read has its fault in the text from its first character on. -/
theorem statement_faults (text : List Char) : FaultsIn text (statement text) := by
  unfold statement
  split
  · exact .error (unexpected_within [])
  · split
    · refine (assignment?_faults _).bind fun found _ => ?_
      cases found with
      | some found => exact .ok _
      | none => exact pipelineStatement_faults _
    · exact pipelineStatement_faults _
  · split
    · exact .error (unexpected_within _)
    · split
      · exact keywordStatement_faults _ _
      · exact pipelineStatement_faults _

end PageScript.Script
