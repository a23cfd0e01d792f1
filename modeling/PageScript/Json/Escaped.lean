import PageScript.Text.CodePoint
import PageScript.Text.Quoted

/-!
# Escaped JSON strings

The text inside a JSON string in printable ASCII only: backslashes and the usual control characters
have short escapes, and quotes, the other control characters, what markup could take for its own, and
everything beyond ASCII are written by their UTF-16 code units.
-/

namespace PageScript.Json

/-- The letter of the short escape that a code point has. -/
def shortLetter? (n : Nat) : Option Char :=
  if n = 0x5C then some '\\'
  else if n = 0x08 then some 'b'
  else if n = 0x0C then some 'f'
  else if n = 0x0A then some 'n'
  else if n = 0x0D then some 'r'
  else if n = 0x09 then some 't'
  else none

/-- A printable ASCII character that stands for itself. -/
def isPlain (n : Nat) : Bool :=
  0x20 ≤ n && n < 0x7F && !(n == 0x22 || n == 0x26 || n == 0x3C || n == 0x3E || n == 0x27 ||
    n == 0x2B || n == 0x60)

/-- The escape of a UTF-16 code unit. -/
def unitEscape (n : Nat) : List Char :=
  '\\' :: 'u' :: (Text.hexDigits 4 n).map Char.toUpper

/-- One code point of a JSON string. -/
def escapedPoint (point : Text.CodePoint) : List Char :=
  match shortLetter? point.val with
  | some letter => ['\\', letter]
  | none =>
    if isPlain point.val then [Char.ofNat point.val]
    else point.units.flatMap fun unit => unitEscape unit.val

/-- The text inside a JSON string. -/
def escaped (points : List Text.CodePoint) : String :=
  String.ofList (points.flatMap escapedPoint)

end PageScript.Json
