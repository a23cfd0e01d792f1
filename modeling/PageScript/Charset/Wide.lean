import PageScript.Charset.Decoding
import PageScript.Text.Utf8

/-!
# Unicode in units

UTF-8 with and without a byte order mark, and the forms whose units have two or four bytes. Where no
order of the bytes is agreed on, a mark at the start has to tell it.
-/

namespace PageScript.Charset

/-- Which byte of a unit comes first. -/
inductive ByteOrder where
  | lowFirst
  | highFirst
deriving DecidableEq, Repr

/-- A unit of bytes in the given order. -/
def ByteOrder.unit : ByteOrder → List UInt8 → Nat
  | .lowFirst, bytes => bytes.foldr (fun b n => n * 0x100 + b.toNat) 0
  | .highFirst, bytes => bytes.foldl (fun n b => n * 0x100 + b.toNat) 0

def isHighSurrogate (unit : Nat) : Bool := 0xD800 ≤ unit && unit < 0xDC00

def isLowSurrogate (unit : Nat) : Bool := 0xDC00 ≤ unit && unit < 0xE000

/-- The character of two surrogates. -/
def joinSurrogates (high low : Nat) : Char :=
  Char.ofNat (0x10000 + (high - 0xD800) * 0x400 + (low - 0xDC00))

def utf16Step (order : ByteOrder) (a : UInt8) : List UInt8 → Step Unit
  | [] => .cut [] ()
  | b :: rest =>
    let unit := order.unit [a, b]
    if isHighSurrogate unit then
      match rest with
      | c :: d :: _ =>
        let second := order.unit [c, d]
        if isLowSurrogate second then .chars [joinSurrogates unit second] 3 () else .bad 1 ()
      | _ => .cut (b :: rest) ()
    else if isLowSurrogate unit then .bad 1 ()
    else .chars [Char.ofNat unit] 1 ()

def utf32Step (order : ByteOrder) (a : UInt8) : List UInt8 → Step Unit
  | b :: c :: d :: _ =>
    let unit := order.unit [a, b, c, d]
    if unit.isValidChar then .chars [Char.ofNat unit] 3 () else .bad 3 ()
  | rest => .cut rest ()

def utf16 (order : ByteOrder) (bytes : List UInt8) : Decoded := decodeEach (utf16Step order) bytes

def utf32 (order : ByteOrder) (bytes : List UInt8) : Decoded := decodeEach (utf32Step order) bytes

/-- The order that a mark of two bytes tells, and the bytes behind it. -/
def marked16? : List UInt8 → Option (ByteOrder × List UInt8)
  | 0xFF :: 0xFE :: rest => some (.lowFirst, rest)
  | 0xFE :: 0xFF :: rest => some (.highFirst, rest)
  | _ => none

/-- The order that a mark of four bytes tells, and the bytes behind it. -/
def marked32? : List UInt8 → Option (ByteOrder × List UInt8)
  | 0xFF :: 0xFE :: 0 :: 0 :: rest => some (.lowFirst, rest)
  | 0 :: 0 :: 0xFE :: 0xFF :: rest => some (.highFirst, rest)
  | _ => none

/-- UTF-8. -/
def utf8 (bytes : List UInt8) : Decoded :=
  decodeEach (fun b rest =>
    match Text.decodeFrom b rest with
    | .char c _ => .chars [c] (c.utf8Size - 1) ()
    | .bad _ _ more _ => .bad more.length ()) bytes

/-- UTF-8 behind an optional mark; a part of the mark alone is no text. -/
def utf8Marked (bytes : List UInt8) : Decoded :=
  if bytes.length < 3 && bytes.isPrefixOf Text.byteOrderMark then []
  else if Text.byteOrderMark.isPrefixOf bytes then utf8 (bytes.drop 3)
  else utf8 bytes

/-- Bytes below 0x80 are characters, the others are bad. -/
def ascii (bytes : List UInt8) : Decoded :=
  bytes.map fun b => if b < 0x80 then some (Char.ofNat b.toNat) else none

/-- Each byte is the character with its number. -/
def latin1 (bytes : List UInt8) : Decoded := bytes.map fun b => some (Char.ofNat b.toNat)

/-- A table of characters for all bytes, or for the upper half of them, the lower one being ASCII. -/
def ofByteTable (characters : String) (bytes : List UInt8) : Decoded :=
  let table := characters.toList.toArray
  let first := 0x100 - table.size
  bytes.map fun b =>
    if b.toNat < first then some (Char.ofNat b.toNat)
    else (table[b.toNat - first]?).filter (· != '�')

end PageScript.Charset
