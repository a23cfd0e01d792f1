import PageScript.Found
import PageScript.Json.Value

/-!
# Reading JSON

Arrays and objects are lists between brackets whose parts are separated by commas. One loop reads
both: it takes the reader of a part as a parameter, and a value hands it a reader of shorter texts.
Beside the standard, the words `NaN`, `Infinity` and `-Infinity` are numbers.
-/

namespace PageScript.Json

/-- The blanks of JSON. -/
def isSpace (c : Char) : Bool := c == ' ' || c == '\t' || c == '\n' || c == '\r'

/-- The text without the blanks at its start. -/
def skipSpace (text : List Char) : List Char := text.dropWhile isSpace

theorem skipSpace_suffix (text : List Char) : skipSpace text <:+ text := List.dropWhile_suffix _

/-- The character that a backslash and `c` stand for. -/
def shortEscape? : Char → Option Nat
  | '"' => some 0x22
  | '\\' => some 0x5C
  | '/' => some 0x2F
  | 'b' => some 0x08
  | 'f' => some 0x0C
  | 'n' => some 0x0A
  | 'r' => some 0x0D
  | 't' => some 0x09
  | _ => none

/-- The number that four hexadecimal digits write. -/
def codeUnit? (a b c d : Char) : Option Nat := do
  return Numeral.ofDigits 16
    [← Numeral.hexValue? a, ← Numeral.hexValue? b, ← Numeral.hexValue? c, ← Numeral.hexValue? d]

/-- The code units and the rest of a string behind its opening quote at `opened`. -/
def stringBody (opened : List Char) : List Char → Except Fault (List Text.CodePoint × List Char)
  | [] => .error (.problem .openString opened)
  | '"' :: rest => .ok ([], rest)
  | '\\' :: 'u' :: a :: b :: c :: d :: e :: rest =>
    match codeUnit? a b c d with
    | some n =>
      (stringBody opened (e :: rest)).map fun (units, after) => (.ofNat n :: units, after)
    | none => .error (.problem .badCodeEscape ('u' :: a :: b :: c :: d :: e :: rest))
  | '\\' :: 'u' :: rest => .error (.problem .badCodeEscape ('u' :: rest))
  | '\\' :: c :: rest =>
    match shortEscape? c with
    | some n => (stringBody opened rest).map fun (units, after) => (.ofNat n :: units, after)
    | none => .error (.problem .badEscape ('\\' :: c :: rest))
  | ['\\'] => .error (.problem .openString opened)
  | c :: rest =>
    if c.toNat < 0x20 then .error (.problem .controlCharacter (c :: rest))
    else (stringBody opened rest).map fun (units, after) => (.ofChar c :: units, after)

theorem stringBody_suffix {opened text rest : List Char} {units : List Text.CodePoint}
    (h : stringBody opened text = .ok (units, rest)) : rest <:+ text := by
  fun_induction stringBody opened text generalizing units with
  | case1 => cases h
  | case2 => cases h; exact List.suffix_cons _ _
  | case3 a b c d e t n _ ih =>
    obtain ⟨p, hp, he⟩ := ok_of_map h
    cases he
    exact (ih hp).trans ⟨['\\', 'u', a, b, c, d], rfl⟩
  | case4 => cases h
  | case5 => cases h
  | case6 c t _ _ n _ ih =>
    obtain ⟨p, hp, he⟩ := ok_of_map h
    cases he
    exact (ih hp).trans ⟨['\\', c], rfl⟩
  | case7 => cases h
  | case8 => cases h
  | case9 => cases h
  | case10 c t _ _ _ _ _ _ ih =>
    obtain ⟨p, hp, he⟩ := ok_of_map h
    cases he
    exact (ih hp).trans (List.suffix_cons c t)

/-- An escape of four digits, with something behind it. -/
theorem stringBody_unit {a b c d : Char} {n : Nat} {text : List Char} (h : codeUnit? a b c d = some n)
    (hne : text ≠ []) (opened : List Char) :
    stringBody opened ('\\' :: 'u' :: a :: b :: c :: d :: text) =
      (stringBody opened text).map fun (units, after) => (.ofNat n :: units, after) := by
  obtain ⟨e, rest, rfl⟩ := List.exists_cons_of_ne_nil hne
  rw [stringBody, h]

theorem stringBody_short {c : Char} {n : Nat} (h : shortEscape? c = some n)
    (opened text : List Char) :
    stringBody opened ('\\' :: c :: text) =
      (stringBody opened text).map fun (units, after) => (.ofNat n :: units, after) := by
  have hu : c ≠ 'u' := by
    rintro rfl
    cases h
  rw [stringBody, h]
  · exact fun _ _ _ _ _ _ hc => absurd hc hu
  · exact hu

theorem stringBody_plain {c : Char} (hq : c ≠ '"') (hb : c ≠ '\\') (hc : ¬ c.toNat < 0x20)
    (opened text : List Char) :
    stringBody opened (c :: text) =
      (stringBody opened text).map fun (units, after) => (.ofChar c :: units, after) := by
  rw [stringBody, if_neg hc] <;> simp_all

/-- The string whose opening quote stands in front of `t`. -/
def readString (t : List Char) : Except Fault (Found (List Text.CodePoint) ('"' :: t)) := do
  let ⟨(units, rest), h⟩ ← checked (stringBody ('"' :: t) t)
  return .behind (Text.joinPairs units) rest (stringBody_suffix h)

/-- The value of an ASCII digit. -/
def digit? (c : Char) : Option Nat :=
  if '0' ≤ c ∧ c ≤ '9' then some (c.toNat - 0x30) else none

/-- The digits of a number before its point: a zero, or digits that start with another one. -/
def wholeDigits? : List Char → Option (List Nat × List Char)
  | [] => none
  | c :: rest =>
    match digit? c with
    | none => none
    | some 0 => some ([0], rest)
    | some d => some (d :: (Numeral.takeDigits digit? rest).1, (Numeral.takeDigits digit? rest).2)

/-- The number behind a minus sign that is there or not, and what follows it. -/
def takeUnsigned? (negative : Bool) (text : List Char) : Option (Numeral.Literal × List Char) :=
  match wholeDigits? text with
  | none => none
  | some (before, rest) =>
    let (after, rest) := Numeral.takeFraction digit? false rest
    let (exponent, rest) := Numeral.takeExponent digit? rest
    some (.ofParts negative before after exponent, rest)

/-- The number at the start of a text, and what follows it. -/
def takeNumber? : List Char → Option (Numeral.Literal × List Char)
  | '-' :: text => takeUnsigned? true text
  | text => takeUnsigned? false text

theorem wholeDigits?_suffix {text rest : List Char} {digits : List Nat}
    (h : wholeDigits? text = some (digits, rest)) : rest <:+ text ∧ rest.length < text.length := by
  unfold wholeDigits? at h
  split at h
  · cases h
  · rename_i c t
    have hs : rest <:+ t := by
      split at h
      · cases h
      · cases h; exact List.suffix_rfl
      · cases h; exact Numeral.takeDigits_suffix digit? t
    have := hs.length_le
    exact ⟨hs.trans (List.suffix_cons c t), by simp only [List.length_cons]; omega⟩

theorem takeUnsigned?_suffix {negative : Bool} {text rest : List Char} {literal : Numeral.Literal}
    (h : takeUnsigned? negative text = some (literal, rest)) :
    rest <:+ text ∧ rest.length < text.length := by
  unfold takeUnsigned? at h
  split at h
  · cases h
  · rename_i before tail hw
    obtain ⟨hs, hl⟩ := wholeDigits?_suffix hw
    simp only [Option.some.injEq, Prod.mk.injEq] at h
    have he : rest <:+ tail := h.2 ▸ (Numeral.takeExponent_suffix digit? _).trans
      (Numeral.takeFraction_suffix digit? false tail).1
    have := he.length_le
    exact ⟨he.trans hs, by omega⟩

theorem takeNumber?_suffix {text rest : List Char} {literal : Numeral.Literal}
    (h : takeNumber? text = some (literal, rest)) : rest <:+ text ∧ rest.length < text.length := by
  unfold takeNumber? at h
  split at h
  · rename_i t
    obtain ⟨hs, hl⟩ := takeUnsigned?_suffix h
    exact ⟨hs.trans (List.suffix_cons '-' t), by simp only [List.length_cons]; omega⟩
  · exact takeUnsigned?_suffix h

/-- The words that are values. -/
def wordValues : List (String × Json) :=
  [("null", .null), ("true", .bool true), ("false", .bool false),
    ("NaN", .number (.real (Float.ofBits Numeral.notNumberBits.toUInt64))),
    ("Infinity", .number (.real (Float.ofBits Numeral.infinityBits.toUInt64))),
    ("-Infinity", .number (.real (-Float.ofBits Numeral.infinityBits.toUInt64)))]

/-- A word or a number at the start of a text. -/
def readScalar (text : List Char) : Except Fault (Found Json text) :=
  match wordValues.find? fun (word, _) => word.toList.isPrefixOf text with
  | some (word, value) =>
    if h : (text.drop word.length).length < text.length then
      .ok ⟨value, text.drop word.length, List.drop_suffix _ _, h⟩
    else .error (.problem .noValue text)
  | none =>
    match h : takeNumber? text with
    | some (literal, rest) =>
      match literal.value with
      | .ok n => .ok ⟨.number n, rest, (takeNumber?_suffix h).1, (takeNumber?_suffix h).2⟩
      | .error fault => .error (.numeral fault)
    | none => .error (.problem .noValue text)

/-- Reads one thing at the start of a text. -/
abbrev Reader (α : Type) := (text : List Char) → Except Fault (Found α text)

variable {α : Type}

/-- The parts of a list that is not empty, up to the character that closes it. -/
def readListFrom (closer : Char) (inner : Reader α) (text : List Char) :
    Except Fault (Found (List α) text) := do
  let first ← inner text
  match hs : skipSpace first.rest with
  | c :: rest =>
    have hr : rest <:+ first.rest := (List.suffix_cons c rest).trans (hs ▸ skipSpace_suffix _)
    if c = closer then return first.upTo [first.value] rest hr
    else if c = ',' then
      let others ← readListFrom closer inner (skipSpace rest)
      return first.upTo (first.value :: others.value) others.rest
        (others.suffix.trans ((skipSpace_suffix rest).trans hr))
    else throw (.problem .noComma (c :: rest))
  | [] => throw (.problem .noComma [])
termination_by text.length
decreasing_by
  have h1 := first.shorter
  have h2 := ((skipSpace_suffix rest).trans hr).length_le
  omega

/-- The parts of a list behind the character that opens it. -/
def readList {opener : Char} (closer : Char) (inner : Reader α) (t : List Char) :
    Except Fault (Found (List α) (opener :: t)) :=
  if (skipSpace t).head? = some closer then
    .ok (.behind [] (skipSpace t).tail ((List.tail_suffix _).trans (skipSpace_suffix t)))
  else do
    let found ← readListFrom closer inner (skipSpace t)
    return found.within ((skipSpace_suffix t).trans (List.suffix_cons opener t))

/-- A name, a colon and what follows it. -/
def readMember (inner : Reader α) (text : List Char) :
    Except Fault (Found (List Text.CodePoint × α) text) :=
  match text with
  | '"' :: t => do
    let name ← readString t
    match hs : skipSpace name.rest with
    | ':' :: rest =>
      let value ← inner (skipSpace rest)
      return name.upTo (name.value, value.value) value.rest
        (value.suffix.trans ((skipSpace_suffix rest).trans
          ((List.suffix_cons ':' rest).trans (hs ▸ skipSpace_suffix _))))
    | rest => throw (.problem .noColon rest)
  | text => .error (.problem .noName text)

/-- The value at the start of a text. -/
def readValue (text : List Char) : Except Fault (Found Json text) :=
  let inner : Reader Json := fun t =>
    if t.length < text.length then readValue t else .error (.problem .noValue t)
  match text with
  | '"' :: t => (readString t).map (Found.map .string)
  | '[' :: t => (readList ']' inner t).map (Found.map .array)
  | '\x7b' :: t => (readList '\x7d' (readMember inner) t).map (Found.map .object)
  | text => readScalar text
termination_by text.length

/-- The value of a whole JSON text. -/
def read (text : List Char) : Except Fault Json := do
  if text.head? = some '\ufeff' then throw (.problem .byteOrderMark text)
  let found ← readValue (skipSpace text)
  match skipSpace found.rest with
  | [] => return found.value
  | rest => throw (.problem .extraText rest)

/-- The last member with this name. -/
def lastMember? (name : String) (members : List (List Text.CodePoint × α)) : Option α :=
  (members.reverse.find? fun (n, _) => n == Text.codePoints name).map (·.2)

end PageScript.Json
