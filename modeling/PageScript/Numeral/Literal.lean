import PageScript.Numeral.Integer
import PageScript.Numeral.RealText

/-!
# Number literals of a script

A literal is a signed hexadecimal integer, a signed decimal integer or a signed decimal with a point
or an exponent. Decimal digits may be of any numbering system. Integers keep their exact value,
everything else is rounded to a double.
-/

namespace PageScript.Numeral

/-- The value of a number literal. -/
inductive Number where
  | integer (n : Int)
  | real (x : Float)

/-- A literal taken apart. -/
inductive Literal where
  /-- `0x` and hexadecimal digits, given by their values. -/
  | hexadecimal (negative : Bool) (digits : List Nat)
  /-- Decimal digits with neither point nor exponent. -/
  | whole (negative : Bool) (digits : List Nat)
  /-- Digits before and after the point, and the power of ten. -/
  | decimal (negative : Bool) (before after : List Nat) (exponent : Int)

/-- The value of a hexadecimal digit. -/
def hexValue? (c : Char) : Option Nat :=
  let n := c.toNat
  if 0x30 ≤ n && n ≤ 0x39 then some (n - 0x30)
  else if 0x41 ≤ n && n ≤ 0x46 then some (n - 0x37)
  else if 0x61 ≤ n && n ≤ 0x66 then some (n - 0x57)
  else none

/-- The values of the digits at the start of a text, and what follows them. -/
def takeDigits (value? : Char → Option Nat) : List Char → List Nat × List Char
  | [] => ([], [])
  | c :: rest =>
    match value? c with
    | some d =>
      let (digits, after) := takeDigits value? rest
      (d :: digits, after)
    | none => ([], c :: rest)

/-- The decimal digits at the start of a text, and what follows them. -/
def takeDecimals : List Char → List Nat × List Char := takeDigits Text.decimalValue?

/-- An exponent at the start of a text; without digits there is none. -/
def takeExponent (value? : Char → Option Nat) (text : List Char) : Option Int × List Char :=
  match text with
  | c :: rest =>
    if c = 'e' || c = 'E' then
      let (negative, body) := takeSign rest
      match takeDigits value? body with
      | ([], _) => (none, text)
      | (digits, after) => (some (signed negative (ofDigits 10 digits)), after)
    else (none, text)
  | [] => (none, [])

/-- The point and the digits after it; a point alone counts only if `bare` allows it. -/
def takeFraction (value? : Char → Option Nat) (bare : Bool) :
    List Char → Option (List Nat) × List Char
  | '.' :: rest =>
    match takeDigits value? rest with
    | ([], _) => if bare then (some [], rest) else (none, '.' :: rest)
    | (digits, after) => (some digits, after)
  | text => (none, text)

/-- The decimal literal with these digits; it is whole if it has neither point nor exponent. -/
def Literal.ofParts (negative : Bool) (before : List Nat) :
    Option (List Nat) → Option Int → Literal
  | none, none => .whole negative before
  | after, exponent => .decimal negative before (after.getD []) (exponent.getD 0)

/-- A decimal literal behind its sign. -/
def takeDecimal? (negative : Bool) (text : List Char) : Option (Literal × List Char) :=
  let (before, rest) := takeDecimals text
  let (after, rest) := takeFraction Text.decimalValue? (!before.isEmpty) rest
  let (exponent, rest) := takeExponent Text.decimalValue? rest
  if before.isEmpty && after.isNone then none
  else some (.ofParts negative before after exponent, rest)

/-- The longest literal at the start of a text, and what follows it. -/
def Literal.take? (text : List Char) : Option (Literal × List Char) :=
  let (negative, body) := takeSign text
  match body with
  | '0' :: x :: rest =>
    if x = 'x' || x = 'X' then
      match takeDigits hexValue? rest with
      | ([], _) => takeDecimal? negative body
      | (digits, after) => some (.hexadecimal negative digits, after)
    else takeDecimal? negative body
  | _ => takeDecimal? negative body

theorem Literal.take?_marked {text rest : List Char} {negative : Bool} {x : Char}
    (h : takeSign text = (negative, '0' :: x :: rest)) (hx : (x = 'x' || x = 'X') = true) :
    Literal.take? text =
      if (takeDigits hexValue? rest).1 = [] then takeDecimal? negative ('0' :: x :: rest)
      else some (.hexadecimal negative (takeDigits hexValue? rest).1,
        (takeDigits hexValue? rest).2) := by
  rw [Literal.take?, h]
  refine (if_pos hx).trans ?_
  obtain ⟨digits, after⟩ := takeDigits hexValue? rest
  cases digits <;> rfl

theorem Literal.take?_decimal {text body : List Char} {negative : Bool}
    (h : takeSign text = (negative, body))
    (hb : ∀ x rest, body = '0' :: x :: rest → (x = 'x' || x = 'X') = false) :
    Literal.take? text = takeDecimal? negative body := by
  rw [Literal.take?, h]
  dsimp only
  split
  · rw [hb _ _ rfl, if_neg Bool.false_ne_true]
  · rfl

theorem takeSign_suffix (text : List Char) : (takeSign text).2 <:+ text := by
  unfold takeSign
  split
  · exact List.suffix_cons _ _
  · exact List.suffix_cons _ _
  · exact List.suffix_rfl

theorem takeDigits_suffix (value? : Char → Option Nat) (text : List Char) :
    (takeDigits value? text).2 <:+ text := by
  induction text with
  | nil => exact List.suffix_rfl
  | cons c rest ih =>
    unfold takeDigits
    split
    · exact ih.trans (List.suffix_cons c rest)
    · exact List.suffix_rfl

/-- A text loses a character for each digit that is taken. -/
theorem takeDigits_length (value? : Char → Option Nat) (text : List Char) :
    (takeDigits value? text).1.length + (takeDigits value? text).2.length = text.length := by
  induction text with
  | nil => rfl
  | cons c rest ih =>
    unfold takeDigits
    split
    · simp only [List.length_cons]
      omega
    · simp

theorem takeExponent_suffix (value? : Char → Option Nat) (text : List Char) :
    (takeExponent value? text).2 <:+ text := by
  unfold takeExponent
  split
  · rename_i c rest
    split
    · have h := (takeDigits_suffix value? (takeSign rest).2).trans
        ((takeSign_suffix rest).trans (List.suffix_cons c rest))
      dsimp only
      split
      · exact List.suffix_rfl
      · rename_i digits after _ hd
        have he : after = (takeDigits value? (takeSign rest).2).2 := by rw [hd]
        rw [he]
        exact h
    · exact List.suffix_rfl
  · exact List.suffix_rfl

/-- A fraction that is there has taken a character. -/
theorem takeFraction_suffix (value? : Char → Option Nat) (bare : Bool) (text : List Char) :
    (takeFraction value? bare text).2 <:+ text ∧
      ((takeFraction value? bare text).1.isSome →
        (takeFraction value? bare text).2.length < text.length) := by
  unfold takeFraction
  split
  · rename_i rest
    split
    · split
      · exact ⟨List.suffix_cons _ _, fun _ => by simp⟩
      · exact ⟨List.suffix_rfl, fun h => by simp at h⟩
    · rename_i digits after _ hd
      have hs : after <:+ rest := by
        have := takeDigits_suffix value? rest
        rwa [hd] at this
      have := hs.length_le
      exact ⟨hs.trans (List.suffix_cons _ _), fun _ => by simp only [List.length_cons]; omega⟩
  · exact ⟨List.suffix_rfl, fun h => by simp at h⟩

theorem takeDecimal?_suffix {negative : Bool} {text rest : List Char} {literal : Literal}
    (h : takeDecimal? negative text = some (literal, rest)) :
    rest <:+ text ∧ rest.length < text.length := by
  simp only [takeDecimal?] at h
  have hd : (takeDecimals text).2 <:+ text := takeDigits_suffix Text.decimalValue? text
  have hl : (takeDecimals text).1.length + (takeDecimals text).2.length = text.length :=
    takeDigits_length Text.decimalValue? text
  obtain ⟨hf, hp⟩ := takeFraction_suffix Text.decimalValue?
    (!(takeDecimals text).1.isEmpty) (takeDecimals text).2
  split at h
  · cases h
  rename_i hc
  simp only [Option.some.injEq, Prod.mk.injEq] at h
  have he : rest <:+ _ := h.2 ▸ takeExponent_suffix _ _
  refine ⟨(he.trans hf).trans hd, ?_⟩
  have h1 := he.length_le
  have h2 := hf.length_le
  by_cases hb : (takeDecimals text).1.isEmpty
  · simp only [hb, Bool.true_and, Option.isNone_iff_eq_none] at hc hp h1 h2
    have := hp (Option.isSome_iff_ne_none.2 hc)
    omega
  · have : 0 < (takeDecimals text).1.length :=
      List.length_pos_iff.2 fun hn => hb (by rw [hn]; rfl)
    omega

/-- A literal takes at least one character. -/
theorem Literal.take?_suffix {text rest : List Char} {literal : Literal}
    (h : Literal.take? text = some (literal, rest)) : rest <:+ text ∧ rest.length < text.length := by
  have hs := takeSign_suffix text
  have hl := hs.length_le
  simp only [Literal.take?] at h
  generalize takeSign text = p at *
  obtain ⟨negative, body⟩ := p
  dsimp only at hs hl h
  have step : takeDecimal? negative body = some (literal, rest) →
      rest <:+ text ∧ rest.length < text.length := fun hd =>
    ⟨(takeDecimal?_suffix hd).1.trans hs,
      Nat.lt_of_lt_of_le (takeDecimal?_suffix hd).2 hl⟩
  split at h
  · rename_i x tail
    split at h
    · split at h
      · exact step h
      · rename_i digits after _ hd
        have ht := takeDigits_suffix hexValue? tail
        rw [hd] at ht
        simp only [Option.some.injEq, Prod.mk.injEq] at h
        obtain ⟨-, rfl⟩ := h
        have := ht.length_le
        simp only [List.length_cons] at hl this
        exact ⟨(ht.trans ⟨['0', x], rfl⟩).trans hs, by omega⟩
    · exact step h
  · exact step h

/-- The value of a literal. -/
def Literal.value : Literal → Except IntegerFault Number
  | .hexadecimal negative digits => .ok (.integer (signed negative (ofDigits 16 digits)))
  | .whole negative digits => return .integer (signed negative (← ofDecimals digits))
  | .decimal negative before after exponent =>
    let digits := before ++ after
    let significant := digits.dropWhile (· == 0)
    let x := ofDecimal (ofDigits 10 significant) significant.length (exponent - after.length)
    .ok (.real (if negative then -x else x))

/-- Reads a text that is one literal from end to end; nothing if it is not. -/
def Literal.ofText? (text : List Char) : Option Literal :=
  match Literal.take? text with
  | some (literal, []) => some literal
  | _ => none

/-- The text a number has as a value: integral doubles below 10 ^ 15 are written as integers. -/
def Number.write : Number → Except IntegerFault String
  | .integer n => Numeral.write n
  | .real x =>
    let magnitude := x.abs
    if magnitude.floor == magnitude && magnitude < 1e15 then
      let n := magnitude.toUInt64.toNat
      .ok (if x < 0 then toString (-(n : Int)) else toString n)
    else .ok (writeReal x)

/-- A text that names a double: a decimal literal, `inf` or `nan`, with an optional minus sign. -/
def realOfText? (text : String) : Option Float :=
  match takeSign text.toList with
  | (negative, ['i', 'n', 'f']) =>
    let x := Float.ofBits infinityBits.toUInt64
    some (if negative then -x else x)
  | (_, ['n', 'a', 'n']) => some (Float.ofBits notNumberBits.toUInt64)
  | _ =>
    match Literal.ofText? text.toList with
    | some literal =>
      match literal.value with
      | .ok (.real x) => some x
      | .ok (.integer n) => ofInteger? n
      | .error _ => none
    | none => none

end PageScript.Numeral
