import Mathlib.Data.List.Forall2
import Mathlib.Data.Nat.Digits.Defs
import PageScript.Numeral.Literal
import PageScript.Proofs.Numeral.Integer

/-!
# The spellings of an integer

An integer is written as a literal in decimal or hexadecimal digits, with any sign, any letter case
and any number of zeros in front. Its own text is the one among them that has no plus sign and no
zero that could be left out. `take?_spells` says that every spelling is taken for the integer, and
`isDecimalText_toString` that what is written back is the text of the integer.
-/

namespace PageScript.Numeral

/-- The character is the digit `d` of a base, in either letter case. -/
def IsDigit (base d : Nat) (c : Char) : Prop :=
  d < base ∧ (c = Nat.digitChar d ∨ c = (Nat.digitChar d).toUpper)

/-- The text spells the integer. Decimal digits are limited in number. -/
inductive Spells : List Char → Int → Prop where
  | decimal (sign : Sign) {digits : List Nat} {chars : List Char}
      (h : List.Forall₂ (IsDigit 10) digits chars) (hne : digits ≠ [])
      (hl : digits.length ≤ digitLimit) :
      Spells (sign.chars ++ chars) (signed sign.negative (Nat.ofDigits 10 digits.reverse))
  | hexadecimal (sign : Sign) {mark : Char} {digits : List Nat} {chars : List Char}
      (hm : mark = 'x' ∨ mark = 'X') (h : List.Forall₂ (IsDigit 16) digits chars)
      (hne : digits ≠ []) :
      Spells (sign.chars ++ '0' :: mark :: chars)
        (signed sign.negative (Nat.ofDigits 16 digits.reverse))

/-- The text is that of the integer: its decimal digits without a zero in front, unless it is zero,
behind a minus sign if it is negative. -/
def IsDecimalText (n : Int) (text : String) : Prop :=
  ∃ digits chars, List.Forall₂ (IsDigit 10) digits chars ∧ digits ≠ [] ∧
    (digits.head? = some 0 → digits = [0]) ∧ Nat.ofDigits 10 digits.reverse = n.natAbs ∧
    text.toList = if n < 0 then '-' :: chars else chars

/-! ## Reading a spelling -/

theorem ofDigits_eq (base : Nat) (digits : List Nat) :
    ofDigits base digits = Nat.ofDigits base digits.reverse := by
  rw [Nat.ofDigits_eq_foldr, List.foldr_reverse, ofDigits]
  refine congrArg (List.foldl · 0 digits) ?_
  funext n d
  simp [Nat.mul_comm, Nat.add_comm]

theorem IsDigit.decimalValue? {d : Nat} {c : Char} (h : IsDigit 10 d c) :
    Text.decimalValue? c = some d := by
  have all : ∀ d < 10, Text.decimalValue? (Nat.digitChar d) = some d ∧
      Text.decimalValue? (Nat.digitChar d).toUpper = some d := by decide +kernel
  rcases h.2 with rfl | rfl
  · exact (all d h.1).1
  · exact (all d h.1).2

theorem IsDigit.hexValue? {d : Nat} {c : Char} (h : IsDigit 16 d c) : hexValue? c = some d := by
  have all : ∀ d < 16, Numeral.hexValue? (Nat.digitChar d) = some d ∧
      Numeral.hexValue? (Nat.digitChar d).toUpper = some d := by decide +kernel
  rcases h.2 with rfl | rfl
  · exact (all d h.1).1
  · exact (all d h.1).2

theorem takeDigits_spelled {value? : Char → Option Nat} {digits : List Nat} {chars : List Char}
    (h : List.Forall₂ (fun d c => value? c = some d) digits chars) :
    takeDigits value? chars = (digits, []) := by
  induction h with
  | nil => rfl
  | cons head _ ih =>
    rw [takeDigits, head]
    simp only [ih]

theorem exists_isDigit {base : Nat} {digits : List Nat} {chars : List Char}
    (h : List.Forall₂ (IsDigit base) digits chars) : ∀ c ∈ chars, ∃ d, IsDigit base d c := by
  induction h with
  | nil => exact List.forall_mem_nil _
  | cons head _ ih => exact List.forall_mem_cons.2 ⟨⟨_, head⟩, ih⟩

theorem take?_decimal {sign : Sign} {digits : List Nat} {chars : List Char}
    (h : List.Forall₂ (IsDigit 10) digits chars) (hne : digits ≠ []) :
    Literal.take? (sign.chars ++ chars) = some (.whole sign.negative digits, []) := by
  have taken : takeDecimals chars = (digits, []) :=
    takeDigits_spelled (h.imp fun _ _ => IsDigit.decimalValue?)
  have ne {c : Char} (hc : Text.decimalValue? c = none) : c ∉ chars := by
    intro hm
    obtain ⟨d, hd⟩ := exists_isDigit h c hm
    cases hc.symm.trans hd.decimalValue?
  have behindSign : takeSign (sign.chars ++ chars) = (sign.negative, chars) := by
    apply takeSign_chars
    · exact fun hp => ne (by decide +kernel) (List.mem_of_head? hp)
    · exact fun hm => ne (by decide +kernel) (List.mem_of_head? hm)
  have unmarked : ∀ x rest, chars = '0' :: x :: rest → (x = 'x' || x = 'X') = false := by
    rintro x rest rfl
    have hx : x ∈ '0' :: x :: rest := List.mem_cons_of_mem _ List.mem_cons_self
    simp only [Bool.or_eq_false_iff, decide_eq_false_iff_not]
    constructor
    · rintro rfl
      exact ne (by decide +kernel) hx
    · rintro rfl
      exact ne (by decide +kernel) hx
  have some : digits.isEmpty = false := List.isEmpty_eq_false_iff.2 hne
  rw [Literal.take?_decimal behindSign unmarked, takeDecimal?]
  simp only [taken, some, takeFraction, takeExponent, Bool.false_and]
  rfl

/-- A spelling is taken for the integer, from end to end. -/
theorem take?_spells {text : List Char} {n : Int} (h : Spells text n) :
    ∃ literal, Literal.take? text = some (literal, []) ∧ literal.value = .ok (.integer n) := by
  cases h with
  | @decimal sign digits chars h hne hl =>
    refine ⟨_, take?_decimal h hne, ?_⟩
    have few : ofDecimals digits = .ok (ofDigits 10 digits) := if_pos hl
    rw [Literal.value, few, ← ofDigits_eq]
    rfl
  | @hexadecimal sign mark digits chars hm h hne =>
    have taken := takeDigits_spelled (h.imp fun _ _ => IsDigit.hexValue?)
    have behindSign := takeSign_chars sign (show ('0' :: mark :: chars).head? ≠ some '+' by simp)
      (show ('0' :: mark :: chars).head? ≠ some '-' by simp)
    have marked : (mark = 'x' || mark = 'X') = true := by
      rwa [Bool.or_eq_true, decide_eq_true_iff, decide_eq_true_iff]
    refine ⟨.hexadecimal sign.negative digits, ?_, ?_⟩
    · rw [Literal.take?_marked behindSign marked, taken, if_neg hne]
    · rw [Literal.value, ofDigits_eq]

/-! ## The text of an integer -/

/-- The decimal digits of a number, as they are printed. -/
theorem exists_digits_toDigits (m : Nat) :
    ∃ digits, List.Forall₂ (IsDigit 10) digits (Nat.toDigits 10 m) ∧ digits ≠ [] ∧
      (digits.head? = some 0 → digits = [0]) ∧ Nat.ofDigits 10 digits.reverse = m := by
  induction m using Nat.strongRecOn with
  | _ m ih =>
    by_cases hm : m < 10
    · refine ⟨[m], ?_, List.cons_ne_nil _ _, ?_, by simp⟩
      · rw [Nat.toDigits_of_lt_base hm]
        exact .cons ⟨hm, .inl rfl⟩ .nil
      · rintro ⟨⟩
        rfl
    · obtain ⟨digits, h, hne, hzero, hv⟩ := ih (m / 10) (by omega)
      refine ⟨digits ++ [m % 10], ?_, by simp, ?_, ?_⟩
      · rw [Nat.toDigits_of_base_le (by decide) (by omega)]
        exact List.rel_append h (.cons ⟨Nat.mod_lt m (by decide), .inl rfl⟩ .nil)
      · intro hd
        rw [List.head?_append_of_ne_nil _ hne] at hd
        rw [hzero hd] at hv
        simp at hv
        omega
      · rw [List.reverse_append, List.reverse_singleton, List.singleton_append, Nat.ofDigits_cons,
          hv]
        exact Nat.mod_add_div m 10

theorem isDecimalText_toString (n : Int) : IsDecimalText n (toString n) := by
  obtain ⟨digits, h, hne, hzero, hv⟩ := exists_digits_toDigits n.natAbs
  refine ⟨digits, _, h, hne, hzero, hv, ?_⟩
  cases n with
  | ofNat m =>
    rw [if_neg (by simp)]
    show (Nat.repr m).toList = _
    rw [Nat.repr, String.toList_ofList]
    rfl
  | negSucc m =>
    rw [if_pos (Int.negSucc_lt_zero m)]
    show ("-" ++ Nat.repr (m + 1)).toList = _
    rw [String.toList_append, Nat.repr]
    exact congrArg ('-' :: ·) String.toList_ofList

/-! ## A text of digits -/

theorem filterMap_decimalValue? {digits : List Nat} {chars : List Char}
    (h : List.Forall₂ (IsDigit 10) digits chars) : chars.filterMap Text.decimalValue? = digits := by
  induction h with
  | nil => rfl
  | cons head _ ih => rw [List.filterMap_cons, head.decimalValue?, ih]

theorem read_digits {digits : List Nat} {chars : List Char}
    (h : List.Forall₂ (IsDigit 10) digits chars) (hne : digits ≠ [])
    (hl : digits.length ≤ digitLimit) :
    read (String.ofList chars) = .ok (Nat.ofDigits 10 digits.reverse : Nat) := by
  have decimal : ∀ c ∈ chars, Text.isDecimal c = true := by
    intro c hc
    obtain ⟨d, hd⟩ := exists_isDigit h c hc
    rw [Text.isDecimal, hd.decimalValue?]
    rfl
  have some : chars ≠ [] := by
    rintro rfl
    exact hne (List.forall₂_nil_right_iff.1 h)
  have read := Spaced.read_text
    { lead := [], sign := .none, digits := chars, trail := [], lead_blank := List.forall_mem_nil _,
      digits_ne_nil := some, digits_decimal := decimal, trail_blank := List.forall_mem_nil _ }
  have few : chars.length ≤ digitLimit := h.length_eq ▸ hl
  simpa [Spaced.text, Spaced.fault?, Spaced.value, Sign.chars, Sign.negative, signed, few,
    filterMap_decimalValue? h, ofDigits_eq] using read

/-- The text of a number has no more digits than any other text of it. -/
theorem length_toDigits_le {digits : List Nat} (h : ∀ d ∈ digits, d < 10) (hne : digits ≠ []) :
    (Nat.toDigits 10 (Nat.ofDigits 10 digits)).length ≤ digits.length :=
  Nat.toDigits_length 10 _ _ (List.length_pos_iff.2 hne)
    (Nat.ofDigits_lt_base_pow_length (by decide) h)

end PageScript.Numeral
