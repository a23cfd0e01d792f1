import PageScript.Json.Reader
import PageScript.Text.Blank

/-!
# Where numbers, words and strings of a JSON text end

Digits, fractions and exponents are taken from a text by scanners, each of which stops at the first
character that it has no use for (`Takes`). So a number ends where something follows that cannot go on
with it (`Stops`), and there it ends in any other text too: `readScalar_again` says this of numbers and
words, `stringBody_again` of strings, which end at their closing quote whatever follows.
-/

namespace PageScript.Json

open Numeral (takeDigits takeFraction takeExponent takeSign)

/-! ## Scanners -/

/-- No character of a kind stands at the start of the text. -/
def Ends (more : Char → Bool) (rest : List Char) : Prop := ∀ c t, rest = c :: t → more c = false

@[simp] theorem ends_nil (more : Char → Bool) : Ends more [] := by
  intro c t h
  cases h

@[simp] theorem ends_cons {more : Char → Bool} {c : Char} {t : List Char} :
    Ends more (c :: t) ↔ more c = false := by
  constructor
  · intro h
    exact h c t rfl
  · intro h d u he
    cases he
    exact h

theorem Ends.mono {more fewer : Char → Bool} {rest : List Char} (h : Ends more rest)
    (hm : ∀ c, fewer c = true → more c = true) : Ends fewer rest := by
  intro c t he
  have hc := h c t he
  exact Bool.eq_false_iff.2 fun hf => Bool.eq_false_iff.1 hc (hm c hf)

def isDigit (c : Char) : Bool := (digit? c).isSome

/-- The mark of an exponent. -/
def isExponentMark (c : Char) : Bool := c = 'e' || c = 'E'

/-- A character of a number. -/
def isNumeral (c : Char) : Bool :=
  isDigit c || c == '.' || isExponentMark c || c == '+' || c == '-'

/-- A scanner takes `w` from the start of `text`, and it takes the same from `w` in front of any text
that does not start with a character of the kind `more`. If `w` is not empty, it starts with a character
of the kind `first`. -/
structure Takes {β : Type} (scan : List Char → β × List Char) (more first : Char → Bool)
    (text w : List Char) : Prop where
  eq : text = w ++ (scan text).2
  again : ∀ rest, Ends more rest → scan (w ++ rest) = ((scan text).1, rest)
  first : ∀ c t, w = c :: t → first c = true
  numeral : ∀ c ∈ w, isNumeral c = true

theorem Takes.nothing {β : Type} {scan : List Char → β × List Char} {more first : Char → Bool}
    {text : List Char} {b : β} (h : scan text = (b, text))
    (ha : ∀ rest, Ends more rest → scan rest = (b, rest)) : Takes scan more first text [] where
  eq := by rw [h]; rfl
  again rest hr := by rw [h, List.nil_append, ha rest hr]
  first c t he := by cases he
  numeral c hc := by cases hc

theorem isNumeral_of_isDigit {c : Char} (h : isDigit c = true) : isNumeral c = true := by
  rw [isNumeral, h]
  rfl

theorem takeDigits_ends {rest : List Char} (h : Ends isDigit rest) :
    takeDigits digit? rest = ([], rest) := by
  cases rest with
  | nil => rfl
  | cons c t =>
    have hd : digit? c = none := by simpa [isDigit] using ends_cons.1 h
    rw [takeDigits, hd]

theorem takes_digits (text : List Char) : ∃ w, Takes (takeDigits digit?) isDigit isDigit text w := by
  induction text with
  | nil => exact ⟨[], .nothing rfl fun _ => takeDigits_ends⟩
  | cons c text ih =>
    cases hd : digit? c with
    | none => exact ⟨[], .nothing (by rw [takeDigits, hd]) fun _ => takeDigits_ends⟩
    | some d =>
      obtain ⟨w, ht, hl, -, hw⟩ := ih
      have hc : isDigit c = true := by rw [isDigit, hd]; rfl
      refine ⟨c :: w, ?_, fun rest hr => ?_, fun e t he => ?_, ?_⟩
      · simp only [takeDigits, hd, List.cons_append, ← ht]
      · simp only [List.cons_append, takeDigits, hd, hl rest hr]
      · cases he
        exact hc
      · exact List.forall_mem_cons.2 ⟨isNumeral_of_isDigit hc, hw⟩

theorem takeFraction_point (t : List Char) :
    takeFraction digit? false ('.' :: t) =
      if (takeDigits digit? t).1 = [] then (none, '.' :: t)
      else (some (takeDigits digit? t).1, (takeDigits digit? t).2) := by
  rw [takeFraction]
  obtain ⟨digits, after⟩ := takeDigits digit? t
  cases digits <;> rfl

theorem takeFraction_plain {rest : List Char} (h : Ends (· == '.') rest) :
    takeFraction digit? false rest = (none, rest) := by
  unfold takeFraction
  split
  · cases ends_cons.1 h
  · rfl

theorem takes_fraction (text : List Char) :
    ∃ w, Takes (takeFraction digit? false) (fun c => isDigit c || c == '.') (· == '.') text w := by
  have nothing (h : takeFraction digit? false text = (none, text)) :
      ∃ w, Takes (takeFraction digit? false) (fun c => isDigit c || c == '.') (· == '.') text w :=
    ⟨[], .nothing h fun rest hr => takeFraction_plain (hr.mono fun c hc => by simp [hc])⟩
  by_cases hp : Ends (· == '.') text
  · exact nothing (takeFraction_plain hp)
  · obtain ⟨t, rfl⟩ : ∃ t, text = '.' :: t := by
      cases text with
      | nil => exact absurd (ends_nil _) hp
      | cons c t => exact ⟨t, by simpa using hp⟩
    by_cases hd : (takeDigits digit? t).1 = []
    · exact nothing (by rw [takeFraction_point, if_pos hd])
    · obtain ⟨w, ht, hl, -, hw⟩ := takes_digits t
      refine ⟨'.' :: w, ?_, fun rest hr => ?_, fun c u he => ?_, ?_⟩
      · rw [takeFraction_point, if_neg hd, List.cons_append, ← ht]
      · have ha := hl rest (hr.mono fun c hc => by simp [hc])
        rw [List.cons_append, takeFraction_point, takeFraction_point, ha, if_neg hd, if_neg hd]
      · cases he
        rfl
      · exact List.forall_mem_cons.2 ⟨rfl, hw⟩

theorem takeExponent_mark {c : Char} (h : isExponentMark c = true) (t : List Char) :
    takeExponent digit? (c :: t) =
      if (takeDigits digit? (takeSign t).2).1 = [] then (none, c :: t)
      else (some (Numeral.signed (takeSign t).1
          (Numeral.ofDigits 10 (takeDigits digit? (takeSign t).2).1)),
        (takeDigits digit? (takeSign t).2).2) := by
  rw [isExponentMark] at h
  rw [takeExponent, if_pos h]
  dsimp only
  obtain ⟨digits, after⟩ := takeDigits digit? (takeSign t).2
  cases digits <;> rfl

theorem takeExponent_plain {rest : List Char} (h : Ends isExponentMark rest) :
    takeExponent digit? rest = (none, rest) := by
  cases rest with
  | nil => rfl
  | cons c t =>
    have hc : (c = 'e' || c = 'E') = false := ends_cons.1 h
    rw [takeExponent, hc, if_neg Bool.false_ne_true]

/-- The sign in front of digits stays with them. -/
theorem takeSign_again {text w : List Char}
    (hw : Takes (takeDigits digit?) isDigit isDigit (takeSign text).2 w) (hne : w ≠ []) :
    ∃ sign, text = sign ++ (takeSign text).2 ∧ (∀ c ∈ sign, isNumeral c = true) ∧
      ∀ rest, takeSign (sign ++ (w ++ rest)) = ((takeSign text).1, w ++ rest) := by
  unfold takeSign at hw ⊢
  split
  · exact ⟨['-'], rfl, List.forall_mem_singleton.2 rfl, fun rest => rfl⟩
  · exact ⟨['+'], rfl, List.forall_mem_singleton.2 rfl, fun rest => rfl⟩
  · refine ⟨[], rfl, by simp, fun rest => ?_⟩
    obtain ⟨d, u, rfl⟩ := List.exists_cons_of_ne_nil hne
    have hd : isDigit d = true := hw.first d u rfl
    dsimp only [List.nil_append, List.cons_append]
    split
    · rename_i he
      cases he
      cases hd
    · rename_i he
      cases he
      cases hd
    · rfl

theorem takes_exponent (text : List Char) :
    ∃ w, Takes (takeExponent digit?) (fun c => isDigit c || isExponentMark c) isExponentMark
      text w := by
  have nothing (h : takeExponent digit? text = (none, text)) :
      ∃ w, Takes (takeExponent digit?) (fun c => isDigit c || isExponentMark c) isExponentMark
        text w :=
    ⟨[], .nothing h fun rest hr => takeExponent_plain (hr.mono fun c hc => by simp [hc])⟩
  cases text with
  | nil => exact nothing rfl
  | cons c t =>
    cases hc : isExponentMark c with
    | false => exact nothing (takeExponent_plain (ends_cons.2 hc))
    | true =>
      by_cases hd : (takeDigits digit? (takeSign t).2).1 = []
      · exact nothing (by rw [takeExponent_mark hc, if_pos hd])
      · obtain ⟨w, hw⟩ := takes_digits (takeSign t).2
        have hne : w ≠ [] := by
          rintro rfl
          have := hw.again [] (ends_nil _)
          exact hd (congrArg Prod.fst this).symm
        obtain ⟨sign, hs, hn, ha⟩ := takeSign_again hw hne
        refine ⟨c :: (sign ++ w), ?_, fun rest hr => ?_, fun d u he => ?_, ?_⟩
        · rw [takeExponent_mark hc, if_neg hd, List.cons_append, List.append_assoc, ← hw.eq, ← hs]
        · have hl := hw.again rest (hr.mono fun c hc => by simp [hc])
          rw [List.cons_append, List.append_assoc, takeExponent_mark hc, takeExponent_mark hc, ha, hl,
            if_neg hd, if_neg hd]
        · cases he
          exact hc
        · have hm : isNumeral c = true := by simp [isNumeral, hc]
          exact List.forall_mem_cons.2 ⟨hm, List.forall_mem_append.2 ⟨hn, hw.numeral⟩⟩

/-! ## Numbers and words -/

/-- A character that a number could go on with. -/
def continues (c : Char) : Bool := isDigit c || c == '.' || isExponentMark c

/-- The text does not go on with a number that stands in front of it. -/
def Stops (rest : List Char) : Prop := Ends continues rest

theorem Takes.ends {β : Type} {scan : List Char → β × List Char} {more first kind : Char → Bool}
    {text w rest : List Char} (h : Takes scan more first text w)
    (hf : ∀ c, first c = true → kind c = false) (hr : Ends kind rest) : Ends kind (w ++ rest) := by
  cases w with
  | nil => exact hr
  | cons c t => exact ends_cons.2 (hf c (h.first c t rfl))

/-- The digits before the point start with a digit and end before the first other character. -/
theorem wholeDigits?_again {text rest : List Char} {digits : List Nat}
    (h : wholeDigits? text = some (digits, rest)) :
    ∃ d u, text = d :: u ++ rest ∧ isDigit d = true ∧ (∀ c ∈ u, isNumeral c = true) ∧
      ∀ rest', Ends isDigit rest' → wholeDigits? (d :: u ++ rest') = some (digits, rest') := by
  unfold wholeDigits? at h
  split at h
  · cases h
  · rename_i c t
    cases hc : digit? c with
    | none =>
      rw [hc] at h
      cases h
    | some n =>
      rw [hc] at h
      have hd : isDigit c = true := by rw [isDigit, hc]; rfl
      cases n with
      | zero =>
        cases h
        refine ⟨c, [], rfl, hd, by simp, fun rest' _ => ?_⟩
        rw [List.cons_append, wholeDigits?, hc]
        rfl
      | succ n =>
        cases h
        obtain ⟨w, hw⟩ := takes_digits t
        refine ⟨c, w, by rw [List.cons_append, ← hw.eq], hd, hw.numeral, fun rest' hr => ?_⟩
        rw [List.cons_append, wholeDigits?, hc]
        simp only [hw.again rest' hr]

theorem plain_of_isExponentMark {c : Char} (h : isExponentMark c = true) :
    (isDigit c || c == '.') = false := by
  simp only [isExponentMark, Bool.or_eq_true, decide_eq_true_eq] at h
  rcases h with rfl | rfl <;> rfl

theorem takeUnsigned?_again {negative : Bool} {text rest : List Char} {literal : Numeral.Literal}
    (h : takeUnsigned? negative text = some (literal, rest)) :
    ∃ d u, text = d :: u ++ rest ∧ isDigit d = true ∧ (∀ c ∈ u, isNumeral c = true) ∧
      ∀ rest', Stops rest' → takeUnsigned? negative (d :: u ++ rest') = some (literal, rest') := by
  unfold takeUnsigned? at h
  split at h
  · cases h
  · rename_i before tail hb
    obtain ⟨d, u, rfl, hd, hu, hwhole⟩ := wholeDigits?_again hb
    obtain ⟨f, hf⟩ := takes_fraction tail
    obtain ⟨e, he⟩ := takes_exponent (takeFraction digit? false tail).2
    simp only [Option.some.injEq, Prod.mk.injEq] at h
    obtain ⟨rfl, rfl⟩ := h
    refine ⟨d, u ++ (f ++ e), ?_, hd, ?_, fun rest' hr => ?_⟩
    · simp only [List.cons_append, List.append_assoc]
      rw [← he.eq, ← hf.eq]
    · exact List.forall_mem_append.2 ⟨hu, List.forall_mem_append.2 ⟨hf.numeral, he.numeral⟩⟩
    · -- Behind each part stands the start of the next one, or what follows the number.
      have h3 := he.again rest' (hr.mono fun c hc => by grind [continues])
      have r2 : Ends (fun c => isDigit c || c == '.') (e ++ rest') :=
        he.ends (fun c => plain_of_isExponentMark) (hr.mono (by grind [continues]))
      have h2 := hf.again (e ++ rest') r2
      have r1 : Ends isDigit (f ++ (e ++ rest')) :=
        hf.ends (fun c hc => by rw [eq_of_beq hc]; rfl) (r2.mono (by grind))
      have h1 := hwhole (f ++ (e ++ rest')) r1
      rw [List.cons_append, List.append_assoc, List.append_assoc, ← List.cons_append, takeUnsigned?, h1]
      simp only [h2, h3]

/-- A number that is taken from the start of a text; it starts with a digit or with a minus sign and a
digit. -/
theorem takeNumber?_again {text rest : List Char} {literal : Numeral.Literal}
    (h : takeNumber? text = some (literal, rest)) :
    ∃ w, text = w ++ rest ∧
      (∃ d u, (w = d :: u ∨ w = '-' :: d :: u) ∧ isDigit d = true) ∧
      (∀ c ∈ w, isNumeral c = true) ∧
      ∀ rest', Stops rest' → takeNumber? (w ++ rest') = some (literal, rest') := by
  unfold takeNumber? at h
  split at h
  · rename_i t
    obtain ⟨d, u, rfl, hd, hu, ha⟩ := takeUnsigned?_again h
    refine ⟨'-' :: d :: u, rfl, ⟨d, u, .inr rfl, hd⟩, ?_, fun rest' hr => ?_⟩
    · exact List.forall_mem_cons.2 ⟨rfl, List.forall_mem_cons.2 ⟨isNumeral_of_isDigit hd, hu⟩⟩
    · exact ha rest' hr
  · obtain ⟨d, u, rfl, hd, hu, ha⟩ := takeUnsigned?_again h
    refine ⟨d :: u, rfl, ⟨d, u, .inl rfl, hd⟩, ?_, fun rest' hr => ?_⟩
    · exact List.forall_mem_cons.2 ⟨isNumeral_of_isDigit hd, hu⟩
    · have hm : d ≠ '-' := by
        rintro rfl
        cases hd
      rw [List.cons_append, takeNumber?, ← List.cons_append, ha rest' hr]
      exact fun t ht => hm (List.cons.inj ht).1

/-! ## Scalars -/

/-- The reader finds `value` at the start of `text`, in front of `rest`. -/
def Finds {α : Type} (reader : Reader α) (text : List Char) (value : α) (rest : List Char) : Prop :=
  ∃ found, reader text = .ok found ∧ found.value = value ∧ found.rest = rest

/-- A character that opens a string, an array or an object. -/
def opens (c : Char) : Bool := c == '"' || c == '[' || c == '\x7b'

/-- The character that opens a value of this kind. -/
def opener? : Json → Option Char
  | .string _ => some '"'
  | .array _ => some '['
  | .object _ => some '\x7b'
  | _ => none

theorem isBlank_of_isNumeral {c : Char} (h : isNumeral c = true) : Text.isBlank c = false := by
  simp only [isNumeral, isExponentMark, Bool.or_eq_true, beq_iff_eq, decide_eq_true_eq] at h
  rcases h with (((h | rfl) | rfl | rfl) | rfl) | rfl
  · have hd : '0' ≤ c ∧ c ≤ '9' := by
      rw [isDigit, digit?] at h
      split at h
      · assumption
      · cases h
    have h1 : 0x30 ≤ c.toNat := hd.1
    have h2 : c.toNat ≤ 0x39 := hd.2
    simp only [Text.isBlank]
    simp
    omega
  all_goals rfl

theorem find?_word {word : String} {value : Json} (h : (word, value) ∈ wordValues)
    (rest : List Char) :
    wordValues.find? (fun p => p.1.toList.isPrefixOf (word.toList ++ rest)) = some (word, value) := by
  simp only [wordValues, List.mem_cons, Prod.mk.injEq, List.not_mem_nil, or_false] at h
  rcases h with ⟨rfl, rfl⟩ | ⟨rfl, rfl⟩ | ⟨rfl, rfl⟩ | ⟨rfl, rfl⟩ | ⟨rfl, rfl⟩ | ⟨rfl, rfl⟩ <;> rfl

/-- A word is letters, perhaps behind a minus sign, and its value is none that is opened. -/
theorem word_plain {word : String} {value : Json} (h : (word, value) ∈ wordValues) :
    (∃ c u, word.toList = c :: u ∧ opens c = false) ∧ (∀ c ∈ word.toList, Text.isBlank c = false) ∧
      opener? value = none := by
  simp only [wordValues, List.mem_cons, Prod.mk.injEq, List.not_mem_nil, or_false] at h
  have plain : word.toList.all (!Text.isBlank ·) = true := by
    rcases h with ⟨rfl, rfl⟩ | ⟨rfl, rfl⟩ | ⟨rfl, rfl⟩ | ⟨rfl, rfl⟩ | ⟨rfl, rfl⟩ | ⟨rfl, rfl⟩ <;> rfl
  have blank (c : Char) (hc : c ∈ word.toList) : Text.isBlank c = false := by
    simpa using List.all_eq_true.1 plain c hc
  rcases h with ⟨rfl, rfl⟩ | ⟨rfl, rfl⟩ | ⟨rfl, rfl⟩ | ⟨rfl, rfl⟩ | ⟨rfl, rfl⟩ | ⟨rfl, rfl⟩ <;>
    exact ⟨⟨_, _, rfl, rfl⟩, blank, rfl⟩

theorem readScalar_word {word : String} {value : Json} (h : (word, value) ∈ wordValues)
    (rest : List Char) : Finds readScalar (word.toList ++ rest) value rest := by
  have hd : (word.toList ++ rest).drop word.length = rest := by
    rw [← String.length_toList, List.drop_left]
  have hl : (word.toList ++ rest).length = word.length + rest.length := by
    rw [List.length_append, String.length_toList]
  have hw : 0 < word.length := by
    obtain ⟨⟨c, u, hc, -⟩, -⟩ := word_plain h
    rw [← String.length_toList, hc]
    exact Nat.succ_pos _
  rw [Finds, readScalar, find?_word h]
  dsimp only
  rw [dif_pos (by rw [hd, hl]; omega)]
  exact ⟨_, rfl, rfl, hd⟩

/-- No word starts as a number does. -/
theorem find?_numeral {d : Char} (hd : isDigit d = true) (u : List Char) :
    (wordValues.find? fun p => p.1.toList.isPrefixOf (d :: u)) = none ∧
      (wordValues.find? fun p => p.1.toList.isPrefixOf ('-' :: d :: u)) = none := by
  have ne {c : Char} (hc : isDigit c = false) : (c == d) = false := by
    rw [beq_eq_false_iff_ne]
    rintro rfl
    rw [hd] at hc
    cases hc
  have hn : ('n' == d) = false := ne rfl
  have ht : ('t' == d) = false := ne rfl
  have hf : ('f' == d) = false := ne rfl
  have hN : ('N' == d) = false := ne rfl
  have hI : ('I' == d) = false := ne rfl
  have hm : ('-' == d) = false := ne rfl
  constructor
  · simp [wordValues, List.isPrefixOf, hn, ht, hf, hN, hI, hm]
  · simp [wordValues, List.isPrefixOf, hI]

theorem readScalar_number {w rest : List Char} {literal : Numeral.Literal} {n : Numeral.Number}
    (hw : ∃ d u, (w = d :: u ∨ w = '-' :: d :: u) ∧ isDigit d = true)
    (h : takeNumber? (w ++ rest) = some (literal, rest)) (hn : literal.value = .ok n) :
    Finds readScalar (w ++ rest) (.number n) rest := by
  have hf : (wordValues.find? fun p => p.1.toList.isPrefixOf (w ++ rest)) = none := by
    obtain ⟨d, u, rfl | rfl, hd⟩ := hw
    · exact (find?_numeral hd (u ++ rest)).1
    · exact (find?_numeral hd (u ++ rest)).2
  rw [Finds, readScalar, hf]
  dsimp only
  split
  · rename_i l r hl
    cases h.symm.trans hl
    simp only [hn]
    exact ⟨_, rfl, rfl, rfl⟩
  · rename_i hl
    cases h.symm.trans hl

/-- A scalar that is found in a text is found again in front of any other text, unless that goes on
with a number. -/
theorem readScalar_again {text rest : List Char} {value : Json} (h : Finds readScalar text value rest) :
    ∃ w, text = w ++ rest ∧ (∃ c u, w = c :: u ∧ opens c = false) ∧
      (∀ c ∈ w, Text.isBlank c = false) ∧ opener? value = none ∧
      ∀ rest', Stops rest' → Finds readScalar (w ++ rest') value rest' := by
  obtain ⟨found, h, rfl, rfl⟩ := h
  unfold readScalar at h
  split at h
  · rename_i word value hf
    have hm := List.mem_of_find?_eq_some hf
    obtain ⟨hfirst, hblank, hnone⟩ := word_plain hm
    split at h
    · cases h
      refine ⟨word.toList, ?_, hfirst, hblank, hnone, fun rest' _ => readScalar_word hm rest'⟩
      have hp : word.toList.isPrefixOf text = true := by simpa using List.find?_some hf
      have he := List.prefix_iff_eq_append.1 (List.isPrefixOf_iff_prefix.1 hp)
      rw [String.length_toList] at he
      exact he.symm
    · cases h
  · split at h
    · rename_i literal rest hl
      obtain ⟨w, rfl, hfirst, hnumeral, ha⟩ := takeNumber?_again hl
      split at h
      · rename_i n hn
        cases h
        refine ⟨w, rfl, ?_, fun c hc => isBlank_of_isNumeral (hnumeral c hc), rfl,
          fun rest' hr => readScalar_number hfirst (ha rest' hr) hn⟩
        obtain ⟨d, u, rfl | rfl, hd⟩ := hfirst
        · refine ⟨d, u, rfl, ?_⟩
          simp only [opens, Bool.or_eq_false_iff, beq_eq_false_iff_ne]
          refine ⟨⟨?_, ?_⟩, ?_⟩ <;> (rintro rfl; cases hd)
        · exact ⟨'-', d :: u, rfl, rfl⟩
      · cases h
    · cases h

/-! ## Strings -/

/-- A string ends at its closing quote, whatever follows. -/
theorem stringBody_again {opened text rest : List Char} {units : List Text.CodePoint}
    (h : stringBody opened text = .ok (units, rest)) :
    ∃ u, text = u ++ '"' :: rest ∧
      ∀ opened' rest', stringBody opened' (u ++ '"' :: rest') = .ok (units, rest') := by
  fun_induction stringBody opened text generalizing units with
  | case1 => cases h
  | case2 =>
    cases h
    exact ⟨[], rfl, fun _ _ => by rw [List.nil_append, stringBody]⟩
  | case3 a b c d e t n hn ih =>
    obtain ⟨p, hp, he⟩ := ok_of_map h
    cases he
    obtain ⟨u, hu, ha⟩ := ih hp
    refine ⟨'\\' :: 'u' :: a :: b :: c :: d :: u, ?_, fun opened' rest' => ?_⟩
    · simp only [List.cons_append, ← hu]
    · simp only [List.cons_append]
      rw [stringBody_unit hn (by simp), ha]
      rfl
  | case4 => cases h
  | case5 => cases h
  | case6 c t _ _ n hn ih =>
    obtain ⟨p, hp, he⟩ := ok_of_map h
    cases he
    obtain ⟨u, hu, ha⟩ := ih hp
    refine ⟨'\\' :: c :: u, ?_, fun opened' rest' => ?_⟩
    · simp only [List.cons_append, ← hu]
    · rw [List.cons_append, List.cons_append, stringBody_short hn, ha]
      rfl
  | case7 => cases h
  | case8 => cases h
  | case9 => cases h
  | case10 c t hq _ _ hcons hnil hc ih =>
    have hb : c ≠ '\\' := by
      intro hb
      cases t with
      | nil => exact hnil hb rfl
      | cons d t => exact hcons d t hb rfl
    obtain ⟨p, hp, he⟩ := ok_of_map h
    cases he
    obtain ⟨u, hu, ha⟩ := ih hp
    refine ⟨c :: u, ?_, fun opened' rest' => ?_⟩
    · simp only [List.cons_append, ← hu]
    · rw [List.cons_append, stringBody_plain hq hb hc, ha]
      rfl

end PageScript.Json
