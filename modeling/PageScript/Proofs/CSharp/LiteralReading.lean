import PageScript.CSharp.Literal
import PageScript.Numeral.Literal

/-!
# Reading string literals

What a regular string literal denotes, by the rules of the language it is written in: the characters
between the quotes stand for themselves, a backslash starts an escape, and no line end may stand
inside. A literal denotes code points, since an escape can name half of a surrogate pair.

`literalBody?_append` says that the literal of any code points reads back as those code points, and
that reading stops right behind its closing quote, whatever follows.
-/

namespace PageScript.CSharp

open Text (CodePoint)

/-- The code point of an escape of one letter. -/
def simpleEscape? : Char → Option Nat
  | '\'' => some 0x27
  | '"' => some 0x22
  | '\\' => some 0x5C
  | '0' => some 0x00
  | 'a' => some 0x07
  | 'b' => some 0x08
  | 'f' => some 0x0C
  | 'n' => some 0x0A
  | 'r' => some 0x0D
  | 't' => some 0x09
  | 'v' => some 0x0B
  | _ => none

/-- The code point with this number. -/
def point? (n : Nat) : Option CodePoint := if h : n < 0x110000 then some ⟨n, h⟩ else none

/-- The code point that hexadecimal digits name. -/
def hexPoint? (digits : List Char) : Option CodePoint := do
  point? (Numeral.ofDigits 16 (← digits.mapM Numeral.hexValue?))

/-- An escape of `count` hexadecimal digits at the start of a text, and the text behind it. -/
def hexEscape? (count : Nat) (text : List Char) : Option (CodePoint × List Char) :=
  if text.length < count then none else (hexPoint? (text.take count)).map (·, text.drop count)

/-- The escape behind a backslash, and the text behind it. -/
def escape? : List Char → Option (CodePoint × List Char)
  | 'u' :: rest => hexEscape? 4 rest
  | 'U' :: rest => hexEscape? 8 rest
  | 'x' :: rest =>
    let digits := (rest.take 4).takeWhile fun c => (Numeral.hexValue? c).isSome
    if digits.isEmpty then none else hexEscape? digits.length rest
  | c :: rest => do return (← point? (← simpleEscape? c), rest)
  | [] => none

theorem hexEscape?_length {count : Nat} {text rest : List Char} {point : CodePoint}
    (h : hexEscape? count text = some (point, rest)) : rest.length ≤ text.length := by
  unfold hexEscape? at h
  split at h
  · cases h
  · obtain ⟨_, _, he⟩ := Option.map_eq_some_iff.1 h
    cases he
    simp only [List.length_drop]
    omega

theorem escape?_length {text rest : List Char} {point : CodePoint}
    (h : escape? text = some (point, rest)) : rest.length < text.length := by
  unfold escape? at h
  split at h
  · exact Nat.lt_succ_of_le (hexEscape?_length h)
  · exact Nat.lt_succ_of_le (hexEscape?_length h)
  · dsimp only at h
    split at h
    · cases h
    · exact Nat.lt_succ_of_le (hexEscape?_length h)
  · simp only [bind, Option.bind_eq_some_iff] at h
    obtain ⟨_, _, _, _, he⟩ := h
    cases he
    exact Nat.lt_succ_self _
  · cases h

/-- The characters at which a line of a program ends. -/
def isLineEnd (c : Char) : Bool :=
  c == '\n' || c == '\r' || c == '\u0085' || c == '\u2028' || c == '\u2029'

/-- What a literal denotes behind its opening quote, and the text behind its closing quote. -/
def literalBody? (text : List Char) : Option (List CodePoint × List Char) :=
  match text with
  | [] => none
  | '"' :: rest => some ([], rest)
  | '\\' :: rest =>
    match _h : escape? rest with
    | some (point, after) => (literalBody? after).map fun (points, behind) => (point :: points, behind)
    | none => none
  | c :: rest =>
    if isLineEnd c then none
    else (literalBody? rest).map fun (points, behind) => (.ofChar c :: points, behind)
termination_by text.length
decreasing_by
  · have := escape?_length _h
    simp only [List.length_cons]
    omega
  · simp

/-- The text that a literal at the start of `text` denotes, and what follows the literal. -/
def literal? : List Char → Option (String × List Char)
  | '"' :: text => do
    let (points, rest) ← literalBody? text
    return (← Text.ofCodePoints? (Text.joinPairs points), rest)
  | _ => none

/-! ## Hexadecimal escapes -/

theorem hexValue?_digitChar : ∀ d < 16, Numeral.hexValue? (Nat.digitChar d) = some d := by
  decide

/-- Four digits, leading zeros included, for every number of at most four. -/
theorem hexDigits_four {n : Nat} (h : n < 0x10000) :
    Text.hexDigits 4 n = [Nat.digitChar (n / 16 / 16 / 16), Nat.digitChar (n / 16 / 16 % 16),
      Nat.digitChar (n / 16 % 16), Nat.digitChar (n % 16)] := by
  have step {m : Nat} (hm : 16 ≤ m) := Nat.toDigits_of_base_le (b := 16) (by decide) hm
  have last {m : Nat} (hm : m < 16) := Nat.toDigits_of_lt_base (b := 16) hm
  have zero {m : Nat} (hm : m = 0) : Nat.digitChar m = '0' := by rw [hm]; rfl
  unfold Text.hexDigits
  by_cases h1 : n < 16
  · rw [last h1, zero (m := n / 16 / 16 / 16) (by omega), zero (m := n / 16 / 16 % 16) (by omega),
      zero (m := n / 16 % 16) (by omega), Nat.mod_eq_of_lt h1]
    rfl
  by_cases h2 : n / 16 < 16
  · rw [step (by omega), last h2, zero (m := n / 16 / 16 / 16) (by omega),
      zero (m := n / 16 / 16 % 16) (by omega), Nat.mod_eq_of_lt h2]
    rfl
  by_cases h3 : n / 16 / 16 < 16
  · rw [step (by omega), step (by omega), last h3, zero (m := n / 16 / 16 / 16) (by omega),
      Nat.mod_eq_of_lt h3]
    rfl
  · rw [step (by omega), step (by omega), step (by omega), last (by omega)]
    rfl

theorem hexPoint?_hexDigits {point : CodePoint} (h : point.val < 0x10000) :
    hexPoint? (Text.hexDigits 4 point.val) = some point := by
  have hv : Numeral.ofDigits 16 [point.val / 16 / 16 / 16, point.val / 16 / 16 % 16,
      point.val / 16 % 16, point.val % 16] = point.val := by
    simp only [Numeral.ofDigits, List.foldl]
    omega
  have hd : (Text.hexDigits 4 point.val).mapM Numeral.hexValue? = some
      [point.val / 16 / 16 / 16, point.val / 16 / 16 % 16, point.val / 16 % 16, point.val % 16] := by
    have h1 := hexValue?_digitChar (point.val / 16 / 16 / 16) (by omega)
    have h2 := hexValue?_digitChar (point.val / 16 / 16 % 16) (by omega)
    have h3 := hexValue?_digitChar (point.val / 16 % 16) (by omega)
    have h4 := hexValue?_digitChar (point.val % 16) (by omega)
    rw [hexDigits_four h]
    simp [h1, h2, h3, h4]
  simp only [hexPoint?, hd, Option.bind_eq_bind, Option.bind_some, hv, point?, dif_pos point.isLt]

/-- The escape that names a code point by four digits, whatever follows it. -/
theorem escape?_numeric {point : CodePoint} (h : point.val < 0x10000) (rest : List Char) :
    escape? ('u' :: (Text.hexDigits 4 point.val ++ rest)) = some (point, rest) := by
  have hp := hexPoint?_hexDigits h
  have hl : (Text.hexDigits 4 point.val).length = 4 := by rw [hexDigits_four h]; rfl
  have ht : (Text.hexDigits 4 point.val ++ rest).take 4 = Text.hexDigits 4 point.val :=
    List.take_left' hl
  have hd : (Text.hexDigits 4 point.val ++ rest).drop 4 = rest := List.drop_left' hl
  rw [escape?, hexEscape?, if_neg (by simp [hl]), ht, hd, hp]
  rfl

/-! ## Reading back -/

theorem ofChar_of_toChar? {point : CodePoint} {c : Char} (h : point.toChar? = some c) :
    point = .ofChar c := by
  unfold CodePoint.toChar? at h
  by_cases hv : Nat.isValidChar point.val
  · rw [dif_pos hv] at h
    cases h
    rfl
  · rw [dif_neg hv] at h
    cases h

theorem toChar?_ofChar (c : Char) : (CodePoint.ofChar c).toChar? = some c := by
  have hv : Nat.isValidChar (CodePoint.ofChar c).val := c.valid
  unfold CodePoint.toChar?
  rw [dif_pos hv]
  exact congrArg some (Char.ext rfl)

/-- Only surrogates have no character. -/
theorem lt_of_toChar?_eq_none {point : CodePoint} (h : point.toChar? = none) :
    point.val < 0x10000 := by
  unfold CodePoint.toChar? at h
  by_cases hv : Nat.isValidChar point.val
  · rw [dif_pos hv] at h
    cases h
  · simp only [Nat.isValidChar] at hv
    omega

theorem isLineEnd_eq_false {c : Char} (h : isControl (CodePoint.ofChar c).val = false) :
    isLineEnd c = false := by
  cases he : isLineEnd c with
  | false => rfl
  | true =>
    simp only [isLineEnd, Bool.or_eq_true, beq_iff_eq] at he
    rcases he with (((rfl | rfl) | rfl) | rfl) | rfl <;> cases h

theorem point?_val (point : CodePoint) : point? point.val = some point := dif_pos point.isLt

theorem escape?_simple {letter : Char} {point : CodePoint}
    (h : simpleEscape? letter = some point.val) (rest : List Char) :
    escape? (letter :: rest) = some (point, rest) := by
  -- The letters of the numeric escapes have no simple one.
  have hu : letter ≠ 'u' := by rintro rfl; cases h
  have hU : letter ≠ 'U' := by rintro rfl; cases h
  have hx : letter ≠ 'x' := by rintro rfl; cases h
  unfold escape?
  split
  · rename_i he
    exact absurd (List.cons.inj he).1 hu
  · rename_i he
    exact absurd (List.cons.inj he).1 hU
  · rename_i he
    exact absurd (List.cons.inj he).1 hx
  · rename_i he
    cases he
    simp only [h, point?_val, Option.bind_eq_bind, Option.bind_some, Option.pure_def]
  · rename_i he
    cases he

theorem simpleEscape?_of_escapeLetter? {n : Nat} {letter : Char}
    (h : escapeLetter? n = some letter) : simpleEscape? letter = some n := by
  have table : (List.range 0x5D).all fun n =>
      (escapeLetter? n).all fun letter => simpleEscape? letter == some n := by decide +kernel
  by_cases hn : n < 0x5D
  · have hr := List.all_eq_true.1 table n (List.mem_range.2 hn)
    rw [h] at hr
    exact eq_of_beq hr
  · -- The backslash is the last character of the table.
    unfold escapeLetter? at h
    iterate 10 rw [if_neg (by omega)] at h
    cases h

theorem literalBody?_escape {text rest : List Char} {point : CodePoint}
    (h : escape? text = some (point, rest)) :
    literalBody? ('\\' :: text) =
      (literalBody? rest).map fun (points, behind) => (point :: points, behind) := by
  rw [literalBody?]
  split <;> simp_all

theorem literalBody?_plain {c : Char} (hq : c ≠ '"') (hb : c ≠ '\\') (he : isLineEnd c = false)
    (text : List Char) :
    literalBody? (c :: text) =
      (literalBody? text).map fun (points, behind) => (.ofChar c :: points, behind) := by
  rw [literalBody?] <;> simp_all

/-- What a code point is written as reads back as this code point, in front of any text. -/
theorem literalBody?_literalPoint (point : CodePoint) (text : List Char) :
    literalBody? (literalPoint point ++ text) =
      (literalBody? text).map fun (points, behind) => (point :: points, behind) := by
  have numeric (h : point.val < 0x10000) :
      literalBody? ('\\' :: 'u' :: Text.hexDigits 4 point.val ++ text) =
        (literalBody? text).map fun (points, behind) => (point :: points, behind) :=
    literalBody?_escape (escape?_numeric h text)
  unfold literalPoint
  split
  · rename_i letter h
    exact literalBody?_escape (escape?_simple (simpleEscape?_of_escapeLetter? h) text)
  · rename_i hl
    split
    · rename_i hc
      apply numeric
      simp only [isControl, Bool.or_eq_true, decide_eq_true_eq, Bool.and_eq_true, beq_iff_eq] at hc
      omega
    · rename_i hc
      split
      · rename_i c h
        obtain rfl := ofChar_of_toChar? h
        exact literalBody?_plain (fun e => by subst e; cases hl)
          (fun e => by subst e; cases hl) (isLineEnd_eq_false (by simpa using hc)) text
      · rename_i h
        exact numeric (lt_of_toChar?_eq_none h)

/-- The literal of any code points reads back as them, and reading stops behind the literal. -/
theorem literalBody?_append (points : List CodePoint) (rest : List Char) :
    literalBody? (points.flatMap literalPoint ++ '"' :: rest) = some (points, rest) := by
  induction points with
  | nil => rw [List.flatMap_nil, List.nil_append, literalBody?]
  | cons point points ih =>
    rw [List.flatMap_cons, List.append_assoc, literalBody?_literalPoint, ih]
    rfl

theorem isHigh_ofChar (c : Char) : (CodePoint.ofChar c).isHigh = false := by
  have hv := c.valid
  simp only [UInt32.isValidChar, Nat.isValidChar] at hv
  have hn : (CodePoint.ofChar c).val = c.val.toNat := rfl
  cases h : (CodePoint.ofChar c).isHigh with
  | false => rfl
  | true =>
    simp only [CodePoint.isHigh, Bool.and_eq_true, decide_eq_true_eq] at h
    omega

/-- Characters form no surrogate pairs. -/
theorem joinPairs_map_ofChar (text : List Char) :
    Text.joinPairs (text.map CodePoint.ofChar) = text.map CodePoint.ofChar := by
  induction text with
  | nil => rfl
  | cons c text ih =>
    cases text with
    | nil => rfl
    | cons d text =>
      rw [List.map_cons, List.map_cons, Text.joinPairs, isHigh_ofChar, Bool.false_and,
        if_neg Bool.false_ne_true, ← List.map_cons, ih]

theorem ofCodePoints?_codePoints (text : String) :
    Text.ofCodePoints? (Text.codePoints text) = some text := by
  have chars (l : List Char) : (l.map CodePoint.ofChar).mapM CodePoint.toChar? = some l := by
    induction l with
    | nil => rfl
    | cons c l ih => simp [toChar?_ofChar, ih]
  simp [Text.ofCodePoints?, Text.codePoints, chars]

/-- The literal of a text denotes the text, in front of whatever follows it. -/
theorem literal?_append (text : String) (rest : List Char) :
    literal? ((literal text).toList ++ rest) = some (text, rest) := by
  have hp := literalBody?_append (Text.codePoints text) rest
  have hj : Text.joinPairs (Text.codePoints text) = Text.codePoints text :=
    joinPairs_map_ofChar text.toList
  simp only [literal, literalOfPoints, String.toList_ofList, List.cons_append, List.append_assoc,
    List.nil_append, literal?, hp, hj, ofCodePoints?_codePoints, Option.bind_eq_bind,
    Option.bind_some, Option.pure_def]

end PageScript.CSharp
