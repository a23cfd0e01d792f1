/-!
# Code points

A code point is a number up to 0x10FFFF. The characters are the code points that are no surrogates;
escapes in JSON texts can name surrogates as well, and two of them that form a pair stand for one
character.
-/

namespace PageScript.Text

/-- A Unicode code point, surrogates included. -/
abbrev CodePoint := Fin 0x110000

/-- The code point with this number, which is to be below 0x110000. -/
def CodePoint.ofNat (n : Nat) : CodePoint := Fin.ofNat _ n

/-- The code point of a character. -/
def CodePoint.ofChar (c : Char) : CodePoint :=
  ⟨c.toNat, by
    have := c.valid
    simp only [UInt32.isValidChar, Nat.isValidChar] at this
    simp only [Char.toNat]
    omega⟩

/-- The code points of a text. -/
def codePoints (text : String) : List CodePoint := text.toList.map CodePoint.ofChar

/-- The character with this code point; nothing for a surrogate. -/
def CodePoint.toChar? (n : CodePoint) : Option Char :=
  if h : Nat.isValidChar n.val then some (Char.ofNatAux n.val h) else none

/-- The text with these code points; nothing if there is a surrogate among them. -/
def ofCodePoints? (points : List CodePoint) : Option String :=
  (points.mapM CodePoint.toChar?).map String.ofList

/-- The first half of a surrogate pair. -/
def CodePoint.isHigh (n : CodePoint) : Bool := 0xD800 ≤ n.val && n.val ≤ 0xDBFF

/-- The second half of a surrogate pair. -/
def CodePoint.isLow (n : CodePoint) : Bool := 0xDC00 ≤ n.val && n.val ≤ 0xDFFF

/-- The code point that a surrogate pair stands for. -/
def CodePoint.ofPair (high low : CodePoint) : CodePoint :=
  ⟨0x10000 + (high.val - 0xD800) % 0x400 * 0x400 + (low.val - 0xDC00) % 0x400, by omega⟩

/-- The UTF-16 code units of a code point: a surrogate pair if it does not fit into one unit. -/
def CodePoint.units (n : CodePoint) : List CodePoint :=
  if n.val < 0x10000 then [n]
  else [.ofNat (0xD800 + (n.val - 0x10000) / 0x400), .ofNat (0xDC00 + (n.val - 0x10000) % 0x400)]

/-- Joins the surrogate pairs, from left to right. -/
def joinPairs : List CodePoint → List CodePoint
  | high :: low :: rest =>
    if high.isHigh && low.isLow then .ofPair high low :: joinPairs rest
    else high :: joinPairs (low :: rest)
  | points => points

end PageScript.Text
