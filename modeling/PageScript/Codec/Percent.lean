import PageScript.Text.Utf8

/-!
# Percent escapes

Characters that may not stand for themselves are written byte by byte as a percent sign and two
hexadecimal digits.
-/

namespace PageScript.Codec.Percent

/-- An upper-case hexadecimal digit. -/
def hexDigit (n : Nat) : Char := if n < 10 then Char.ofNat (0x30 + n) else Char.ofNat (0x37 + n)

/-- The escape of a byte. -/
def escapeByte (b : UInt8) : List Char := ['%', hexDigit (b.toNat / 16), hexDigit (b.toNat % 16)]

/-- The escapes of the bytes of a character. -/
def escapeChar (c : Char) : List Char := (String.utf8EncodeChar c).flatMap escapeByte

/-- The characters that never need an escape. -/
def isUnreserved (c : Char) : Bool :=
  c.isAlphanum || c == '-' || c == '.' || c == '_' || c == '~'

/-- `text` with every character escaped that is not `safe`. -/
def escape (safe : Char → Bool) (text : List Char) : List Char :=
  text.flatMap fun c => if safe c then [c] else escapeChar c

/-- A character of an escape behind its percent sign. -/
def isHex (c : Char) : Bool :=
  c.isDigit || ('a' ≤ c && c ≤ 'f') || ('A' ≤ c && c ≤ 'F')

/-- `text` with every character escaped that is not `safe`, escapes that are there left alone. -/
def escapeAgain (safe : Char → Bool) : List Char → List Char
  | [] => []
  | '%' :: a :: b :: rest =>
    if isHex a && isHex b then '%' :: a :: b :: escapeAgain safe rest
    else (if safe '%' then ['%'] else escapeChar '%') ++ escapeAgain safe (a :: b :: rest)
  | c :: rest => (if safe c then [c] else escapeChar c) ++ escapeAgain safe rest

/-- The value of a hexadecimal digit in either case. -/
def hexValue (c : Char) : Nat :=
  if c.isDigit then c.toNat - 0x30 else if c.isLower then c.toNat - 0x57 else c.toNat - 0x37

/-- The bytes that a text stands for: those of its escapes, and those of its other characters. -/
def bytesOf : List Char → List UInt8
  | [] => []
  | '%' :: a :: b :: rest =>
    if isHex a && isHex b then (hexValue a * 16 + hexValue b).toUInt8 :: bytesOf rest
    else 0x25 :: bytesOf (a :: b :: rest)
  | c :: rest => String.utf8EncodeChar c ++ bytesOf rest

end PageScript.Codec.Percent
