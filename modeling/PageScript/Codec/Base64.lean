/-!
# Base64

Three bytes are written as four digits of six bits, and the last digits are filled up with equals
signs. Decoding is strict: nothing but digits and the padding at the end is accepted, only that the
bits behind the last byte are not looked at, and that padding may follow digits that need none.
-/

namespace PageScript.Codec.Base64

/-- Why a text is not base64. -/
inductive Fault where
  | notAscii
  | leadingPadding
  | excessData
  | foreignCharacter
  | interruptedPadding
  /-- One digit more than whole groups, `count` in all. -/
  | lonelyDigit (count : Nat)
  | missingPadding
deriving DecidableEq, Repr

def Fault.message : Fault → String
  | .notAscii => "string argument should contain only ASCII characters"
  | .leadingPadding => "Leading padding not allowed"
  | .excessData => "Excess data after padding"
  | .foreignCharacter => "Only base64 data is allowed"
  | .interruptedPadding => "Discontinuous padding not allowed"
  | .lonelyDigit count =>
    s!"Invalid base64-encoded string: number of data characters ({count}) cannot be 1 more " ++
      "than a multiple of 4"
  | .missingPadding => "Incorrect padding"

/-- The digit of six bits. -/
def digit (n : Nat) : Char :=
  if n < 26 then Char.ofNat (0x41 + n)
  else if n < 52 then Char.ofNat (0x61 + (n - 26))
  else if n < 62 then Char.ofNat (0x30 + (n - 52))
  else if n = 62 then '+'
  else '/'

/-- The six bits of a digit. -/
def value? (c : Char) : Option Nat :=
  let n := c.toNat
  if 0x41 ≤ n && n ≤ 0x5A then some (n - 0x41)
  else if 0x61 ≤ n && n ≤ 0x7A then some (n - 0x61 + 26)
  else if 0x30 ≤ n && n ≤ 0x39 then some (n - 0x30 + 52)
  else if c == '+' then some 62
  else if c == '/' then some 63
  else none

/-- The digits of some bytes with their padding. -/
def encodeChars : List UInt8 → List Char
  | a :: b :: c :: rest =>
    let n := a.toNat * 0x10000 + b.toNat * 0x100 + c.toNat
    digit (n / 0x40000) :: digit (n / 0x1000 % 0x40) :: digit (n / 0x40 % 0x40) ::
      digit (n % 0x40) :: encodeChars rest
  | [a, b] =>
    let n := a.toNat * 0x100 + b.toNat
    [digit (n / 0x400), digit (n / 0x10 % 0x40), digit (n % 0x10 * 4), '=']
  | [a] => [digit (a.toNat / 4), digit (a.toNat % 4 * 0x10), '=', '=']
  | [] => []

def encode (bytes : List UInt8) : String := String.ofList (encodeChars bytes)

/-- The bytes of digits given by their values; bits that make no byte are dropped. -/
def bytesOf : List Nat → List UInt8
  | a :: b :: c :: d :: rest =>
    let n := a * 0x40000 + b * 0x1000 + c * 0x40 + d
    .ofNat (n / 0x10000) :: .ofNat (n / 0x100 % 0x100) :: .ofNat (n % 0x100) :: bytesOf rest
  | [a, b, c] =>
    let n := a * 0x400 + b * 0x10 + c / 4
    [.ofNat (n / 0x100), .ofNat (n % 0x100)]
  | [a, b] => [.ofNat (a * 4 + b / 0x10)]
  | _ => []

/-- The digits at the end of a text, of which there are `count`: whole groups only. -/
def finish (count : Nat) : Except Fault (List Nat) :=
  if count % 4 = 0 then .ok []
  else if count % 4 = 1 then .error (.lonelyDigit count)
  else .error .missingPadding

/-- Reads digits behind `count` digits and `pads` equals signs that fill up a group; `padded` tells
whether an equals sign has been seen at all. -/
def digitsFrom (count pads : Nat) (padded : Bool) : List Char → Except Fault (List Nat)
  | [] => finish count
  | c :: rest =>
    if c = '=' then
      if count % 4 ≥ 2 then
        if count % 4 + (pads + 1) ≥ 4 then
          if rest.isEmpty then .ok [] else .error .excessData
        else digitsFrom count (pads + 1) true rest
      else digitsFrom count pads true rest
    else
      match value? c with
      | none => .error .foreignCharacter
      | some n =>
        if padded then .error .interruptedPadding
        else (digitsFrom (count + 1) 0 padded rest).map (n :: ·)

/-- The bytes that a text encodes. -/
def decode (text : String) : Except Fault (List UInt8) :=
  let chars := text.toList
  if chars.any (0x80 ≤ ·.toNat) then .error .notAscii
  else if chars.head? = some '=' then .error .leadingPadding
  else (digitsFrom 0 0 false chars).map bytesOf

end PageScript.Codec.Base64
