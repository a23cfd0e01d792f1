/-!
# UTF-8

Bytes are decoded character by character. Bytes that start no character are bad: the longest start of
a character they hold counts as one bad sequence, with the reason why it does not go on. A strict
reader reports the first bad sequence, a lenient one replaces each by U+FFFD.
-/

namespace PageScript.Text

/-- The bytes of a text. -/
def utf8 (text : String) : List UInt8 := text.toList.flatMap String.utf8EncodeChar

/-- Why bytes are no character. -/
inductive Utf8Problem where
  | badStart
  | badContinuation
  | cutShort
deriving DecidableEq, Repr

def Utf8Problem.message : Utf8Problem → String
  | .badStart => "invalid start byte"
  | .badContinuation => "invalid continuation byte"
  | .cutShort => "unexpected end of data"

/-- The first character of some bytes, or the bytes at their start that are bad. -/
inductive Utf8Step where
  | char (c : Char) (rest : List UInt8)
  | bad (what : Utf8Problem) (first : UInt8) (more rest : List UInt8)

/-- The values of the second byte that may follow a first one. -/
def secondRange (first : UInt8) : UInt8 × UInt8 :=
  if first == 0xE0 then (0xA0, 0xBF)
  else if first == 0xED then (0x80, 0x9F)
  else if first == 0xF0 then (0x90, 0xBF)
  else if first == 0xF4 then (0x80, 0x8F)
  else (0x80, 0xBF)

/-- How many bytes follow a first one, for those that start a character of several bytes. -/
def followers? (first : UInt8) : Option Nat :=
  if 0xC2 ≤ first && first ≤ 0xDF then some 1
  else if 0xE0 ≤ first && first ≤ 0xEF then some 2
  else if 0xF0 ≤ first && first ≤ 0xF4 then some 3
  else none

/-- The bits that a first byte contributes. -/
def leadBits (first : UInt8) : Nat :=
  if first < 0xE0 then first.toNat % 0x20
  else if first < 0xF0 then first.toNat % 0x10
  else first.toNat % 0x08

/-- Reads the bytes behind `first`: `count` more of them, the next within `range`. The value so far
is `bits`, and `taken` holds the bytes already read behind the first one, the last in front. -/
def decodeMore (first : UInt8) (taken : List UInt8) (bits : Nat) (range : UInt8 × UInt8) :
    Nat → List UInt8 → Utf8Step
  | 0, rest => .char (Char.ofNat bits) rest
  | _ + 1, [] => .bad .cutShort first taken.reverse []
  | count + 1, b :: rest =>
    if range.1 ≤ b && b ≤ range.2 then
      decodeMore first (b :: taken) (bits * 0x40 + b.toNat % 0x40) (0x80, 0xBF) count rest
    else .bad .badContinuation first taken.reverse (b :: rest)

/-- Decodes the first character behind `first`. -/
def decodeFrom (first : UInt8) (rest : List UInt8) : Utf8Step :=
  if first < 0x80 then .char (Char.ofNat first.toNat) rest
  else
    match followers? first with
    | none => .bad .badStart first [] rest
    | some count => decodeMore first [] (leadBits first) (secondRange first) count rest

/-- The bytes left behind a step. -/
def Utf8Step.rest : Utf8Step → List UInt8
  | .char _ rest => rest
  | .bad _ _ _ rest => rest

theorem decodeMore_suffix (first : UInt8) (taken : List UInt8) (bits : Nat) (range : UInt8 × UInt8)
    (count : Nat) (bytes : List UInt8) :
    (decodeMore first taken bits range count bytes).rest <:+ bytes := by
  induction count generalizing taken bits range bytes with
  | zero => simp only [decodeMore, Utf8Step.rest]; exact List.suffix_rfl
  | succ count ih =>
    cases bytes with
    | nil => exact List.suffix_rfl
    | cons b rest =>
      simp only [decodeMore]
      split
      · exact (ih _ _ _ rest).trans (List.suffix_cons b rest)
      · exact List.suffix_rfl

theorem decodeFrom_suffix (first : UInt8) (bytes : List UInt8) :
    (decodeFrom first bytes).rest <:+ bytes := by
  unfold decodeFrom
  split
  · exact List.suffix_rfl
  · split
    · exact List.suffix_rfl
    · exact decodeMore_suffix ..

/-- Decodes with U+FFFD for each bad sequence. -/
def decodeLenient (bytes : List UInt8) : List Char :=
  match bytes with
  | [] => []
  | b :: t =>
    match _h : decodeFrom b t with
    | .char c rest => c :: decodeLenient rest
    | .bad _ _ _ rest => '\ufffd' :: decodeLenient rest
termination_by bytes.length
decreasing_by
  all_goals
    have := (decodeFrom_suffix b t).length_le
    rw [_h] at this
    simp only [Utf8Step.rest, List.length_cons] at this ⊢
    omega

/-- The first bad sequence of some bytes. -/
structure Utf8Fault where
  what : Utf8Problem
  /-- The bad bytes. -/
  first : UInt8
  more : List UInt8
  /-- How many bytes come after them. -/
  remaining : Nat

/-- Decodes bytes without a bad sequence. -/
def decodeStrict (bytes : List UInt8) : Except Utf8Fault (List Char) :=
  match bytes with
  | [] => .ok []
  | b :: t =>
    match _h : decodeFrom b t with
    | .char c rest => (decodeStrict rest).map (c :: ·)
    | .bad what first more rest => .error { what, first, more, remaining := rest.length }
termination_by bytes.length
decreasing_by
  have := (decodeFrom_suffix b t).length_le
  rw [_h] at this
  simp only [Utf8Step.rest, List.length_cons] at this ⊢
  omega

/-- The byte order mark. -/
def byteOrderMark : List UInt8 := [0xEF, 0xBB, 0xBF]

end PageScript.Text
