import PageScript.Text.CodePoint
import PageScript.Text.Quoted

/-!
# String literals of C#

A text is written between double quotes. Quotes, backslashes, line ends and the other control
characters are escaped, and so are surrogates, which a source file cannot hold; every other character
stands for itself.
-/

namespace PageScript.CSharp

/-- The letter of the escape that a character has. -/
def escapeLetter? (n : Nat) : Option Char :=
  if n = 0x22 then some '"'
  else if n = 0x5C then some '\\'
  else if n = 0x00 then some '0'
  else if n = 0x07 then some 'a'
  else if n = 0x08 then some 'b'
  else if n = 0x0C then some 'f'
  else if n = 0x0A then some 'n'
  else if n = 0x0D then some 'r'
  else if n = 0x09 then some 't'
  else if n = 0x0B then some 'v'
  else none

/-- A line end or a control character. -/
def isControl (n : Nat) : Bool :=
  n < 0x20 || (0x7F ≤ n && n < 0xA0) || n == 0x2028 || n == 0x2029

/-- One code point of a literal. -/
def literalPoint (point : Text.CodePoint) : List Char :=
  match escapeLetter? point.val with
  | some letter => ['\\', letter]
  | none =>
    if isControl point.val then '\\' :: 'u' :: Text.hexDigits 4 point.val
    else
      match point.toChar? with
      | some c => [c]
      | none => '\\' :: 'u' :: Text.hexDigits 4 point.val

/-- The literal of a list of code points. -/
def literalOfPoints (points : List Text.CodePoint) : String :=
  String.ofList ('"' :: points.flatMap literalPoint ++ ['"'])

/-- The literal of a text. -/
def literal (text : String) : String := literalOfPoints (Text.codePoints text)

end PageScript.CSharp
