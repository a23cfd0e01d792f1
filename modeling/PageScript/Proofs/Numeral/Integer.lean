import Mathlib.Data.List.TakeWhile
import PageScript.Numeral.Integer
import PageScript.Proofs.Text.Blank
import PageScript.Proofs.Text.Cut

/-!
# Integers that are written with blanks around them

A run of decimal digits with a sign in front and blanks around it is taken apart in one way only,
since no digit is a blank, a sign or an underscore. Whether it is converted is another matter: the
four ASCII separators are blanks but no padding, and only so many digits are converted. `read_text`
says for every such text which of the two comes in the way first, and its value if none does.
-/

namespace PageScript.Text

theorem isDecimal_of_isBlank {c : Char} (h : isBlank c = true) : isDecimal c = false := by
  have none : (blankCodes.all fun n => !isDecimal (Char.ofNat n)) = true := by decide +kernel
  have this := List.all_eq_true.1 none _ (mem_blankCodes h)
  rwa [Char.ofNat_toNat, Bool.not_eq_true'] at this

theorem isBlank_of_isDecimal {c : Char} (h : isDecimal c = true) : isBlank c = false := by
  cases hb : isBlank c with
  | false => rfl
  | true => exact h.symm.trans (isDecimal_of_isBlank hb)

end PageScript.Text

namespace PageScript.Numeral

/-! ## Signs -/

/-- The sign that stands in front of a number, or none. -/
inductive Sign where
  | none
  | plus
  | minus
deriving DecidableEq, Repr

def Sign.chars : Sign → List Char
  | .none => []
  | .plus => ['+']
  | .minus => ['-']

def Sign.negative : Sign → Bool
  | .minus => true
  | _ => false

theorem takeSign_chars (sign : Sign) {text : List Char} (hp : text.head? ≠ some '+')
    (hm : text.head? ≠ some '-') : takeSign (sign.chars ++ text) = (sign.negative, text) := by
  cases sign with
  | plus => rfl
  | minus => rfl
  | none =>
    show takeSign text = (false, text)
    unfold takeSign
    split
    · exact absurd rfl hm
    · exact absurd rfl hp
    · rfl

theorem exists_sign (text : List Char) :
    ∃ sign : Sign, text = sign.chars ++ (takeSign text).2 ∧ (takeSign text).1 = sign.negative := by
  unfold takeSign
  split
  · exact ⟨.minus, rfl, rfl⟩
  · exact ⟨.plus, rfl, rfl⟩
  · exact ⟨.none, rfl, rfl⟩

/-! ## Integers between blanks -/

/-- Decimal digits of any numbering system, with a sign in front and blanks around them. -/
structure Spaced where
  lead : List Char
  sign : Sign
  digits : List Char
  trail : List Char
  lead_blank : ∀ c ∈ lead, Text.isBlank c = true
  digits_ne_nil : digits ≠ []
  digits_decimal : ∀ c ∈ digits, Text.isDecimal c = true
  trail_blank : ∀ c ∈ trail, Text.isBlank c = true

namespace Spaced

def text (spaced : Spaced) : String :=
  String.ofList (spaced.lead ++ (spaced.sign.chars ++ (spaced.digits ++ spaced.trail)))

/-- The integer that the digits and the sign stand for. -/
def value (spaced : Spaced) : Int :=
  signed spaced.sign.negative (ofDigits 10 (spaced.digits.filterMap Text.decimalValue?))

/-- Why the integer is not converted, if it is not. -/
def fault? (spaced : Spaced) : Option IntegerFault :=
  if spaced.lead.all isPadding then
    if spaced.digits.length ≤ digitLimit then
      if spaced.trail.all isPadding then none else some (.malformed spaced.text)
    else some (.tooManyDigits spaced.digits.length)
  else some (.malformed spaced.text)

variable (spaced : Spaced)

theorem exists_digits : ∃ c rest, spaced.digits = c :: rest ∧ Text.isDecimal c = true := by
  cases hd : spaced.digits with
  | nil => exact absurd hd spaced.digits_ne_nil
  | cons c rest => exact ⟨c, rest, rfl, spaced.digits_decimal c (hd ▸ List.mem_cons_self)⟩

theorem takeSign_text :
    takeSign (spaced.sign.chars ++ (spaced.digits ++ spaced.trail)) =
      (spaced.sign.negative, spaced.digits ++ spaced.trail) := by
  obtain ⟨c, rest, hd, hc⟩ := spaced.exists_digits
  have ne {d : Char} (h : Text.isDecimal d = false) :
      (spaced.digits ++ spaced.trail).head? ≠ some d := by
    rw [hd, List.cons_append, List.head?_cons]
    rintro ⟨⟩
    cases h.symm.trans hc
  exact takeSign_chars _ (ne (by decide)) (ne (by decide))

/-- The blanks in front of an integer stop at its sign or its first digit. -/
theorem head_not_blank : ∀ c ∈ (spaced.sign.chars ++ (spaced.digits ++ spaced.trail)).head?,
    Text.isBlank c = false := by
  intro c hc
  obtain ⟨d, rest, hd, hdecimal⟩ := spaced.exists_digits
  cases hs : spaced.sign with
  | none =>
    rw [hs, hd] at hc
    cases hc
    exact Text.isBlank_of_isDecimal hdecimal
  | plus =>
    rw [hs] at hc
    cases hc
    rfl
  | minus =>
    rw [hs] at hc
    cases hc
    rfl

theorem trail_head {p : Char → Bool} (h : ∀ c, Text.isBlank c = true → p c = false) :
    ∀ c ∈ spaced.trail.head?, p c = false :=
  fun c hc => h c (spaced.trail_blank c (List.mem_of_mem_head? hc))

theorem isDigitOrMark_of_isBlank {c : Char} (h : Text.isBlank c = true) :
    isDigitOrMark c = false := by
  have underscore : Text.isBlank '_' = false := rfl
  rw [isDigitOrMark, Text.isDecimal_of_isBlank h, Bool.false_or, beq_eq_false_iff_ne]
  rintro rfl
  cases underscore.symm.trans h

/-- Digits alone hold no underscore that could be out of place. -/
theorem marksDivide_digits : marksDivide false spaced.digits = true := by
  have digits (behind : Bool) (run : List Char) (h : ∀ c ∈ run, Text.isDecimal c = true) :
      marksDivide behind run = (behind || !run.isEmpty) := by
    induction run generalizing behind with
    | nil => simp [marksDivide]
    | cons c run ih =>
      rw [List.forall_mem_cons] at h
      have hc : c ≠ '_' := by
        rintro rfl
        cases (show Text.isDecimal '_' = false by decide).symm.trans h.1
      rw [marksDivide, if_neg hc, ih true h.2]
      simp
  rw [digits false _ spaced.digits_decimal]
  simpa using spaced.digits_ne_nil

theorem length_decimals :
    (spaced.digits.filterMap Text.decimalValue?).length = spaced.digits.length := by
  have all (run : List Char) (h : ∀ c ∈ run, Text.isDecimal c = true) :
      (run.filterMap Text.decimalValue?).length = run.length := by
    induction run with
    | nil => rfl
    | cons c run ih =>
      rw [List.forall_mem_cons] at h
      obtain ⟨d, hd⟩ := Option.isSome_iff_exists.1 h.1
      rw [List.filterMap_cons, hd, List.length_cons, ih h.2, List.length_cons]
  exact all _ spaced.digits_decimal

/-- The conversion gets to the digits if all blanks in front of them are padding. -/
theorem read_of_padding (h : spaced.lead.all isPadding = true) :
    read spaced.text =
      ofDecimals (spaced.digits.filterMap Text.decimalValue?) >>= fun n =>
        if spaced.trail.all isPadding then .ok (signed spaced.sign.negative n)
        else .error (.malformed spaced.text) := by
  have start : spaced.text.toList.dropWhile isPadding =
      spaced.sign.chars ++ (spaced.digits ++ spaced.trail) := by
    rw [text, String.toList_ofList]
    refine Text.dropWhile_append_stop (List.all_eq_true.1 h) fun c hc => ?_
    rw [isPadding, spaced.head_not_blank c hc, Bool.false_and]
  have inside : ∀ c ∈ spaced.digits, isDigitOrMark c = true := by
    intro c hc
    rw [isDigitOrMark, spaced.digits_decimal c hc, Bool.true_or]
  have stop := spaced.trail_head @isDigitOrMark_of_isBlank
  rw [read, start, takeSign_text]
  simp only [Text.takeWhile_append_stop inside stop, Text.dropWhile_append_stop inside stop,
    marksDivide_digits, Bool.not_true, Bool.false_eq_true, if_false]

/-- A separator in front of the digits is taken for one of them. -/
theorem read_of_separator (h : spaced.lead.all isPadding = false) :
    read spaced.text = .error (.malformed spaced.text) := by
  obtain ⟨c, hc, hp⟩ := List.all_eq_false.1 h
  rw [Bool.not_eq_true] at hp
  -- The run of padding ends inside the blanks, and no digit follows there.
  have stopped : ∃ d rest, spaced.lead.dropWhile isPadding = d :: rest ∧ Text.isBlank d = true := by
    cases hd : spaced.lead.dropWhile isPadding with
    | nil => cases hp.symm.trans (List.dropWhile_eq_nil_iff.1 hd c hc)
    | cons d rest =>
      have hs : d :: rest <:+ spaced.lead := hd ▸ List.dropWhile_suffix _
      exact ⟨d, rest, rfl, spaced.lead_blank d (hs.subset List.mem_cons_self)⟩
  obtain ⟨d, rest, hd, hblank⟩ := stopped
  have start : spaced.text.toList.dropWhile isPadding =
      d :: (rest ++ (spaced.sign.chars ++ (spaced.digits ++ spaced.trail))) := by
    rw [text, String.toList_ofList, List.dropWhile_append, hd]
    rfl
  have ne {e : Char} (he : Text.isBlank e = false) (tail : List Char) :
      (d :: tail).head? ≠ some e := by
    rintro ⟨⟩
    cases he.symm.trans hblank
  have unsigned (tail : List Char) : takeSign (d :: tail) = (false, d :: tail) :=
    takeSign_chars .none (ne rfl tail) (ne rfl tail)
  have run (tail : List Char) : (d :: tail).takeWhile isDigitOrMark = [] :=
    List.takeWhile_cons_of_neg (by simp [isDigitOrMark_of_isBlank hblank])
  rw [read, start, unsigned]
  simp only [run, marksDivide, Bool.not_false, if_true]

theorem read_text :
    read spaced.text =
      match spaced.fault? with
      | some fault => .error fault
      | none => .ok spaced.value := by
  unfold fault?
  cases hl : spaced.lead.all isPadding with
  | false => exact spaced.read_of_separator hl
  | true =>
    rw [spaced.read_of_padding hl, if_pos rfl, ofDecimals, length_decimals]
    by_cases hd : spaced.digits.length ≤ digitLimit
    · rw [if_pos hd, if_pos hd]
      cases ht : spaced.trail.all isPadding <;> rfl
    · rw [if_neg hd, if_neg hd]
      rfl

end Spaced

end PageScript.Numeral
