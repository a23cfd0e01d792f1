import PageScript.Text.Letter

/-!
# Digits and other numeric characters

Decimal digits come in blocks of ten consecutive characters, one block for each numbering system,
so a digit's value is its distance from the block's zero. Digits in the wider sense add
superscripts and circled digits; numeric characters add fractions, Roman numerals and the like.
-/

namespace PageScript.Text

/-- The zero of every block of decimal digits, ascending. -/
def decimalZeros : Array Nat := #[
  0x30, 0x660, 0x6F0, 0x7C0, 0x966, 0x9E6, 0xA66, 0xAE6, 0xB66, 0xBE6, 0xC66, 0xCE6, 0xD66, 0xDE6,
  0xE50, 0xED0, 0xF20, 0x1040, 0x1090, 0x17E0, 0x1810, 0x1946, 0x19D0, 0x1A80, 0x1A90, 0x1B50,
  0x1BB0, 0x1C40, 0x1C50, 0xA620, 0xA8D0, 0xA900, 0xA9D0, 0xA9F0, 0xAA50, 0xABF0, 0xFF10, 0x104A0,
  0x10D30, 0x11066, 0x110F0, 0x11136, 0x111D0, 0x112F0, 0x11450, 0x114D0, 0x11650, 0x116C0,
  0x11730, 0x118E0, 0x11950, 0x11C50, 0x11D50, 0x11DA0, 0x16A60, 0x16AC0, 0x16B50, 0x1D7CE,
  0x1D7D8, 0x1D7E2, 0x1D7EC, 0x1D7F6, 0x1E140, 0x1E2F0, 0x1E950, 0x1FBF0]

/-- Change points of the set of digits that are not decimal digits. -/
def plainDigitBounds : Array Nat := #[
  0xB2, 0xB4, 0xB9, 0xBA, 0x1369, 0x1372, 0x19DA, 0x19DB, 0x2070, 0x2071, 0x2074, 0x207A, 0x2080,
  0x208A, 0x2460, 0x2469, 0x2474, 0x247D, 0x2488, 0x2491, 0x24EA, 0x24EB, 0x24F5, 0x24FE, 0x24FF,
  0x2500, 0x2776, 0x277F, 0x2780, 0x2789, 0x278A, 0x2793, 0x10A40, 0x10A44, 0x10E60, 0x10E69,
  0x11052, 0x1105B, 0x1F100, 0x1F10B]

/-- Change points of the set of numeric characters that are neither digits nor letters. -/
def otherNumericBounds : Array Nat := #[
  0xBC, 0xBF, 0x9F4, 0x9FA, 0xB72, 0xB78, 0xBF0, 0xBF3, 0xC78, 0xC7F, 0xD58, 0xD5F, 0xD70, 0xD79,
  0xF2A, 0xF34, 0x1372, 0x137D, 0x16EE, 0x16F1, 0x17F0, 0x17FA, 0x2150, 0x2183, 0x2185, 0x218A,
  0x2469, 0x2474, 0x247D, 0x2488, 0x2491, 0x249C, 0x24EB, 0x24F5, 0x24FE, 0x24FF, 0x277F, 0x2780,
  0x2789, 0x278A, 0x2793, 0x2794, 0x2CFD, 0x2CFE, 0x3007, 0x3008, 0x3021, 0x302A, 0x3038, 0x303B,
  0x3192, 0x3196, 0x3220, 0x322A, 0x3248, 0x3250, 0x3251, 0x3260, 0x3280, 0x328A, 0x32B1, 0x32C0,
  0xA6E6, 0xA6F0, 0xA830, 0xA836, 0x10107, 0x10134, 0x10140, 0x10179, 0x1018A, 0x1018C, 0x102E1,
  0x102FC, 0x10320, 0x10324, 0x10341, 0x10342, 0x1034A, 0x1034B, 0x103D1, 0x103D6, 0x10858,
  0x10860, 0x10879, 0x10880, 0x108A7, 0x108B0, 0x108FB, 0x10900, 0x10916, 0x1091C, 0x109BC,
  0x109BE, 0x109C0, 0x109D0, 0x109D2, 0x10A00, 0x10A44, 0x10A49, 0x10A7D, 0x10A7F, 0x10A9D,
  0x10AA0, 0x10AEB, 0x10AF0, 0x10B58, 0x10B60, 0x10B78, 0x10B80, 0x10BA9, 0x10BB0, 0x10CFA,
  0x10D00, 0x10E69, 0x10E7F, 0x10F1D, 0x10F27, 0x10F51, 0x10F55, 0x10FC5, 0x10FCC, 0x1105B,
  0x11066, 0x111E1, 0x111F5, 0x1173A, 0x1173C, 0x118EA, 0x118F3, 0x11C5A, 0x11C6D, 0x11FC0,
  0x11FD5, 0x12400, 0x1246F, 0x16B5B, 0x16B62, 0x16E80, 0x16E97, 0x1D2E0, 0x1D2F4, 0x1D360,
  0x1D379, 0x1E8C7, 0x1E8D0, 0x1EC71, 0x1ECAC, 0x1ECAD, 0x1ECB0, 0x1ECB1, 0x1ECB5, 0x1ED01,
  0x1ED2E, 0x1ED2F, 0x1ED3E, 0x1F10B, 0x1F10D]

/-- The value of a decimal digit of any numbering system. -/
def decimalValue? (c : Char) : Option Nat :=
  let n := c.toNat
  if n < 0x80 then
    if c.isDigit then some (n - 0x30) else none
  else
    let base := decimalZeros.getD (bisect (decimalZeros.getD · 0) n 0 decimalZeros.size - 1) 0
    if base ≤ n ∧ n < base + 10 then some (n - base) else none

/-- A decimal digit of any numbering system. -/
def isDecimal (c : Char) : Bool := (decimalValue? c).isSome

/-- A digit in the wider sense: decimal, superscript, subscript, circled, and so on. -/
def isDigitLike (c : Char) : Bool :=
  if c.toNat < 0x80 then c.isDigit else isDecimal c || inRanges plainDigitBounds c.toNat

/-- A character with a numeric value that is no letter. -/
def isNumeric (c : Char) : Bool :=
  if c.toNat < 0x80 then c.isDigit
  else isDigitLike c || inRanges otherNumericBounds c.toNat

/-- A letter or a character with a numeric value. -/
def isAlphanumeric (c : Char) : Bool := isLetter c || isNumeric c

end PageScript.Text
