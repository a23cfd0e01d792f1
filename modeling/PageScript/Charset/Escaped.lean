import PageScript.Charset.Wide

/-!
# Escaped text

Bytes are the characters with their numbers, and a backslash opens an escape that gives a character by
a letter or by its number.
-/

namespace PageScript.Charset

def hexValue? (b : UInt8) : Option Nat :=
  if 0x30 ≤ b && b ≤ 0x39 then some (b.toNat - 0x30)
  else if 0x61 ≤ b && b ≤ 0x66 then some (b.toNat - 0x57)
  else if 0x41 ≤ b && b ≤ 0x46 then some (b.toNat - 0x37)
  else none

def octalValue? (b : UInt8) : Option Nat :=
  if 0x30 ≤ b && b ≤ 0x37 then some (b.toNat - 0x30) else none

/-- The number that digits write in a base. -/
def numberOf (base : Nat) (digits : List Nat) : Nat := digits.foldl (fun n d => n * base + d) 0

/-- The values of the digits at the start of some bytes, `count` of them at most. -/
def digitsAt (value? : UInt8 → Option Nat) (count : Nat) (bytes : List UInt8) : List Nat :=
  (((bytes.take count).map value?).takeWhile Option.isSome).filterMap id

/-- The character with a number; surrogates stand for nothing. -/
def charAt (number more : Nat) : Step Unit :=
  if number.isValidChar then .chars [Char.ofNat number] more () else .bad more ()

/-- An escape whose number has `count` digits, behind the backslash and the letter. -/
def hexEscape (count : Nat) (rest : List UInt8) : Step Unit :=
  let digits := digitsAt hexValue? count rest
  if digits.length < count then .bad (1 + digits.length) ()
  else charAt (numberOf 16 digits) (1 + count)

/-- The escapes of one letter. -/
def letterEscapes : List (UInt8 × List Char) := [
  (0x0A, []), (0x5C, ['\\']), (0x27, ['\'']), (0x22, ['"']), (0x62, ['\x08']), (0x66, ['\x0c']),
  (0x74, ['\t']), (0x6E, ['\n']), (0x72, ['\r']), (0x76, ['\x0b']), (0x61, ['\x07'])]

/-- An escape by the name of a character; no names are known. -/
def nameEscape (rest : List UInt8) : Step Unit :=
  match rest with
  | 0x7B :: inner =>
    let name := inner.takeWhile (· != 0x7D)
    if name.length == inner.length then .cut (0x4E :: rest) ()
    else if name.isEmpty then .bad 2 ()
    else .bad (name.length + 3) ()
  | _ => .bad 1 ()

def escapedStep (b : UInt8) (rest : List UInt8) : Step Unit :=
  if b != 0x5C then .chars [Char.ofNat b.toNat] 0 ()
  else
    match rest with
    | [] => .bad 0 ()
    | c :: after =>
      match letterEscapes.lookup c with
      | some text => .chars text 1 ()
      | none =>
        if c == 0x78 then hexEscape 2 after
        else if c == 0x75 then hexEscape 4 after
        else if c == 0x55 then hexEscape 8 after
        else if c == 0x4E then nameEscape after
        else
          match digitsAt octalValue? 3 rest with
          | [] => .chars ['\\', Char.ofNat c.toNat] 1 ()
          | digits => charAt (numberOf 8 digits) digits.length

/-- Text with all the escapes. -/
def escaped (bytes : List UInt8) : Decoded := decodeEach escapedStep bytes

def rawEscapedStep (b : UInt8) (rest : List UInt8) : Step Unit :=
  match b, rest with
  | 0x5C, 0x75 :: after => hexEscape 4 after
  | 0x5C, 0x55 :: after => hexEscape 8 after
  | 0x5C, c :: _ => .chars ['\\', Char.ofNat c.toNat] 1 ()
  | _, _ => .chars [Char.ofNat b.toNat] 0 ()

/-- Text with escapes by number only. -/
def rawEscaped (bytes : List UInt8) : Decoded := decodeEach rawEscapedStep bytes

end PageScript.Charset
