import PageScript.Numeral.Literal
import PageScript.Text.CodePoint
import PageScript.Text.Position

/-!
# JSON values and what can be wrong with a JSON text

Strings of a JSON text are lists of code points, since an escape may name a surrogate. Members of an
object are kept in order, repeated names included. A fault names its place by the text from there on.
-/

namespace PageScript

/-- A JSON value. -/
inductive Json where
  | null
  | bool (b : Bool)
  | number (n : Numeral.Number)
  | string (s : List Text.CodePoint)
  | array (items : List Json)
  | object (members : List (List Text.CodePoint × Json))

namespace Json

/-- The value is this text. -/
def isText (text : String) : Json → Bool
  | .string s => s == Text.codePoints text
  | _ => false

/-- Why a text is not JSON. -/
inductive Problem where
  | byteOrderMark
  | noValue
  | noName
  | noColon
  | noComma
  | extraText
  | openString
  | controlCharacter
  | badEscape
  | badCodeEscape
deriving DecidableEq, Repr

def Problem.message : Problem → String
  | .byteOrderMark => "Unexpected UTF-8 BOM (decode using utf-8-sig)"
  | .noValue => "Expecting value"
  | .noName => "Expecting property name enclosed in double quotes"
  | .noColon => "Expecting ':' delimiter"
  | .noComma => "Expecting ',' delimiter"
  | .extraText => "Extra data"
  | .openString => "Unterminated string starting at"
  | .controlCharacter => "Invalid control character at"
  | .badEscape => "Invalid \\escape"
  | .badCodeEscape => "Invalid \\uXXXX escape"

/-- Reading a JSON text failed. -/
inductive Fault where
  /-- `what` is wrong where `site` is left of the text. -/
  | problem (what : Problem) (site : List Char)
  /-- An integer has too many digits. -/
  | numeral (fault : Numeral.IntegerFault)

/-- The wording of a fault in `text`, with its line, column and offset. -/
def Fault.message (text : List Char) : Fault → String
  | .problem what site =>
    let offset := text.length - site.length
    let place := Text.position text offset
    s!"{what.message}: line {place.line} column {place.column} (char {offset})"
  | .numeral fault => fault.message

end Json

end PageScript
