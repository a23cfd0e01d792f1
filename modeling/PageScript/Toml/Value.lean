import PageScript.Numeral.Integer
import PageScript.Text.Position
import PageScript.Text.Quoted

/-!
# Values of a settings file

What a TOML document holds. Tables keep their keys in order of first mention; a key occurs once.
-/

namespace PageScript.Toml

/-- What a date or time is made of. -/
inductive TimeKind where
  | date
  | dateTime
  | timeOfDay
deriving DecidableEq, Repr

/-- A TOML value. Dates and times are told apart from other values and not looked into. -/
inductive Value where
  | string (text : String)
  | integer (n : Int)
  | float (x : Float)
  | boolean (b : Bool)
  | time (kind : TimeKind)
  | array (items : List Value)
  | table (entries : List (String × Value))

/-- The entries of a table. -/
abbrev Table := List (String × Value)

/-- The names of the tables on the way to a value, and its own name. -/
abbrev Key := List String

/-- Why a text is no document. -/
inductive Problem where
  | badStatement
  | extraText
  | noClosing (closer : String)
  | controlInText (c : Char)
  | controlInString (c : Char)
  | strayBackslash
  | badDigits
  | noScalar
  | openString
  | noName
  | noEquals
  | noValue
  | badDate
  | openArray
  | openTable
  | openHeader
  | openArrayHeader
  | declaredTwice (key : Key)
  | redefined (key : Key)
  | complete (key : Key)
  | duplicate (name : String)
  | overwritten

/-- A key as it is shown in messages. -/
def keyText (key : Key) : String :=
  "(" ++ ", ".intercalate (key.map Text.quoted) ++ (if key.length = 1 then ",)" else ")")

def Problem.message : Problem → String
  | .badStatement => "Invalid statement"
  | .extraText => "Expected newline or end of document after a statement"
  | .noClosing closer => "Expected " ++ Text.quoted closer
  | .controlInText c => "Found invalid character " ++ Text.quoted c.toString
  | .controlInString c => "Illegal character " ++ Text.quoted c.toString
  | .strayBackslash => "Unescaped '\\' in a string"
  | .badDigits => "Invalid hex value"
  | .noScalar => "Escaped character is not a Unicode scalar value"
  | .openString => "Unterminated string"
  | .noName => "Invalid initial character for a key part"
  | .noEquals => "Expected '=' after a key in a key/value pair"
  | .noValue => "Invalid value"
  | .badDate => "Invalid date or datetime"
  | .openArray => "Unclosed array"
  | .openTable => "Unclosed inline table"
  | .openHeader => "Expected ']' at the end of a table declaration"
  | .openArrayHeader => "Expected ']]' at the end of an array declaration"
  | .declaredTwice key => "Cannot declare " ++ keyText key ++ " twice"
  | .redefined key => "Cannot redefine namespace " ++ keyText key
  | .complete key => "Cannot mutate immutable namespace " ++ keyText key
  | .duplicate name => "Duplicate inline table key " ++ Text.quoted name
  | .overwritten => "Cannot overwrite a value"

/-- The wording of a problem where `site` is left of `text`. -/
def Problem.messageAt (text site : List Char) (what : Problem) : String :=
  let place := Text.position text (text.length - site.length)
  what.message ++
    if site.isEmpty then " (at end of document)"
    else s!" (at line {place.line}, column {place.column})"

/-- Why a document cannot be read. -/
inductive Fault where
  /-- `what` is wrong where `site` is left of the text. -/
  | problem (what : Problem) (site : List Char)
  /-- An integer has too many digits. -/
  | numeral (fault : Numeral.IntegerFault)

/-- What is read at the start of a text, and what follows it. -/
abbrev Parsed (α : Type) := Except Fault (α × List Char)

/-- Arrays and inline tables are complete where they are written. -/
def Value.isComplete : Value → Bool
  | .array _ | .table _ => true
  | _ => false

end PageScript.Toml
