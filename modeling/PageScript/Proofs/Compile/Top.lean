import PageScript.Compile.Statement
import PageScript.Proofs.Numeral.Integer

/-!
# The number of items asked for

Any text may be given as the number of items. One that is an integer between blanks asks for so
many, if it fits 32 bits, and any other text for the default. Two rules decide together: what is an
integer between blanks is recognised by one of them (`isIntegerText_iff`) and converted by the
other, which knows fewer blanks and takes fewer digits. Where the second refuses what the first has
let pass, there is no number at all.
-/

namespace PageScript.Compile

open Numeral (Sign Spaced IntegerFault)

/-- The texts that are recognised are the integers between blanks. -/
theorem isIntegerText_iff (text : String) :
    isIntegerText text = true ↔ ∃ spaced : Spaced, text = spaced.text := by
  constructor
  · intro h
    simp only [isIntegerText, Bool.and_eq_true, Bool.not_eq_true', List.isEmpty_eq_false_iff,
      List.all_eq_true] at h
    obtain ⟨sign, hs, -⟩ := Numeral.exists_sign (text.toList.dropWhile Text.isBlank)
    refine ⟨⟨text.toList.takeWhile Text.isBlank, sign, _, _, fun c => List.mem_takeWhile_imp, h.1,
      fun c => List.mem_takeWhile_imp, h.2⟩, ?_⟩
    rw [Spaced.text, List.takeWhile_append_dropWhile, ← hs, List.takeWhile_append_dropWhile,
      String.ofList_toList]
  · rintro ⟨spaced, rfl⟩
    have start : spaced.text.toList.dropWhile Text.isBlank =
        spaced.sign.chars ++ (spaced.digits ++ spaced.trail) := by
      rw [Spaced.text, String.toList_ofList]
      exact Text.dropWhile_append_stop spaced.lead_blank spaced.head_not_blank
    have stop := spaced.trail_head @Text.isDecimal_of_isBlank
    simp only [isIntegerText, start, Spaced.takeSign_text,
      Text.takeWhile_append_stop spaced.digits_decimal stop,
      Text.dropWhile_append_stop spaced.digits_decimal stop, List.all_eq_true.2 spaced.trail_blank,
      Bool.and_true, Bool.not_eq_true', List.isEmpty_eq_false_iff]
    exact spaced.digits_ne_nil

/-- An integer of 32 bits. -/
def Fits (n : Int) : Prop := -0x80000000 ≤ n ∧ n ≤ 0x7FFFFFFF

instance (n : Int) : Decidable (Fits n) := inferInstanceAs (Decidable (_ ∧ _))

/-- The number of items that a text asks for. -/
inductive AsksFor : Option String → Int → Prop where
  | number (spaced : Spaced) (h : Fits spaced.value) : AsksFor (some spaced.text) spaced.value
  | default {value : Option String}
      (h : ∀ spaced : Spaced, value = some spaced.text → ¬ Fits spaced.value) : AsksFor value 1

theorem topOf_spaced (spaced : Spaced) :
    topOf (some spaced.text) =
      match spaced.fault? with
      | some fault => .error fault
      | none => .ok (if Fits spaced.value then spaced.value else defaultTop) := by
  rw [topOf, (isIntegerText_iff _).2 ⟨spaced, rfl⟩, if_pos rfl, spaced.read_text]
  cases spaced.fault? <;> rfl

theorem topOf_other {value : Option String} (h : ∀ spaced : Spaced, value ≠ some spaced.text) :
    topOf value = .ok defaultTop := by
  cases value with
  | none => rfl
  | some text =>
    have other : isIntegerText text ≠ true := by
      intro hi
      obtain ⟨spaced, rfl⟩ := (isIntegerText_iff text).1 hi
      exact h spaced rfl
    rw [topOf, if_neg other]
    rfl

/-- A text that the conversion takes asks for no number but the one it is converted to. -/
theorem not_fits_of_not_fits {spaced : Spaced} (h : spaced.fault? = none)
    (unfit : ¬ Fits spaced.value) (other : Spaced) (same : some spaced.text = some other.text)
    (hother : other.fault? = none) : ¬ Fits other.value := by
  -- Both are the number that the one text is converted to.
  have read := spaced.read_text
  have readOther := other.read_text
  rw [h, Option.some.inj same] at read
  rw [hother] at readOther
  rwa [← Except.ok.inj (read.symm.trans readOther)]

/-- The number asked for is given, and fits 32 bits, exactly if the text is no integer that the
conversion refuses; such an integer fails with the fault of the conversion. -/
theorem topOf_answers_iff (value : Option String) :
    ((∃ n, topOf value = .ok n ∧ Fits n ∧ AsksFor value n) ↔
      ∀ spaced : Spaced, value = some spaced.text → spaced.fault? = none) ∧
    ∀ (spaced : Spaced) (fault : IntegerFault), value = some spaced.text →
      spaced.fault? = some fault → topOf value = .error fault := by
  refine ⟨⟨?_, fun h => ?_⟩, ?_⟩
  · rintro ⟨n, hn, -, -⟩ spaced rfl
    cases hf : spaced.fault? with
    | none => rfl
    | some fault =>
      rw [topOf_spaced, hf] at hn
      cases hn
  · by_cases hs : ∃ spaced : Spaced, value = some spaced.text
    · obtain ⟨spaced, rfl⟩ := hs
      have faultless := h spaced rfl
      rw [topOf_spaced, faultless]
      by_cases fits : Fits spaced.value
      · exact ⟨spaced.value, congrArg _ (if_pos fits), fits, .number spaced fits⟩
      · refine ⟨1, congrArg _ (if_neg fits), by decide, .default fun other ho => ?_⟩
        exact not_fits_of_not_fits faultless fits other ho (h other ho)
    · refine ⟨1, topOf_other fun spaced hv => hs ⟨spaced, hv⟩, by decide, .default ?_⟩
      exact fun spaced hv => absurd ⟨spaced, hv⟩ hs
  · rintro spaced fault rfl hf
    rw [topOf_spaced, hf]

/-- A separator is a blank of the recogniser alone. -/
def behindSeparator : Spaced where
  lead := ['\x1c']
  sign := .none
  digits := ['7']
  trail := []
  lead_blank := List.forall_mem_singleton.2 (by decide)
  digits_ne_nil := List.cons_ne_nil _ _
  digits_decimal := List.forall_mem_singleton.2 (by decide)
  trail_blank := List.forall_mem_nil _

theorem topOf_answers_iff_behindSeparator :
    (∀ spaced : Spaced, some "\t+7\n" = some spaced.text → spaced.fault? = none) ∧
    topOf (some "\x1c7") = .error (.malformed "\x1c7") := by
  constructor
  · apply (topOf_answers_iff (some "\t+7\n")).1.1
    refine ⟨7, by decide +kernel, by decide, ?_⟩
    exact .number ⟨['\t'], .plus, ['7'], ['\n'], List.forall_mem_singleton.2 (by decide),
      List.cons_ne_nil _ _, List.forall_mem_singleton.2 (by decide),
      List.forall_mem_singleton.2 (by decide)⟩ (by decide)
  · exact (topOf_answers_iff (some "\x1c7")).2 behindSeparator _ (by decide +kernel)
      (by decide +kernel)

/-- One zero more than `count`. -/
def zeros (count : Nat) : Spaced where
  lead := []
  sign := .none
  digits := List.replicate (count + 1) '0'
  trail := []
  lead_blank := List.forall_mem_nil _
  digits_ne_nil := List.cons_ne_nil _ _
  digits_decimal := List.forall_mem_replicate.2 (.inr (by decide))
  trail_blank := List.forall_mem_nil _

theorem value_zeros (count : Nat) : (zeros count).value = 0 := by
  have none (n : Nat) : Numeral.ofDigits 10 (List.replicate n 0) = 0 := by
    induction n with
    | zero => rfl
    | succ n ih => exact ih
  rw [Spaced.value, zeros, List.filterMap_replicate_of_some (b := 0) (by decide), none]
  rfl

/-- Seven behind a separator is an integer, and so is any run of zeros; the conversion takes neither
the separator nor more zeros than the limit. -/
theorem topOf_not_total :
    (AsksFor (some "\x1c7") 7 ∧ ∀ n, topOf (some "\x1c7") ≠ .ok n) ∧
    (AsksFor (some (zeros Numeral.digitLimit).text) 0 ∧
      ∀ n, topOf (some (zeros Numeral.digitLimit).text) ≠ .ok n) := by
  refine ⟨⟨AsksFor.number behindSeparator (by decide), ?_⟩, ?_, ?_⟩
  · intro n h
    rw [show "\x1c7" = behindSeparator.text by decide +kernel, topOf_spaced] at h
    cases h
  · have asked := AsksFor.number (zeros Numeral.digitLimit) (by rw [value_zeros]; decide)
    rwa [value_zeros] at asked
  · intro n h
    have fault : (zeros Numeral.digitLimit).fault? =
        some (.tooManyDigits (Numeral.digitLimit + 1)) := by
      rw [Spaced.fault?, zeros, List.length_replicate]
      rfl
    rw [topOf_spaced, fault] at h
    cases h

end PageScript.Compile
