import PageScript.Numeral.Integer

/-!
# What can be wrong with a script

The causes for which reading a statement fails, and their wording. A fault names the place that is
reported and the place reading had reached, both as the text left from there on; a number literal
that cannot be converted is a fault of its own kind, since no later statement makes up for it.
-/

namespace PageScript.Script

/-- Why a statement could not be read. -/
inductive Problem where
  /-- A block comment is not closed. -/
  | openComment
  /-- A string has no `terminator`. -/
  | openString (terminator : String)
  /-- A bracketed group lacks its `closer`. -/
  | openGroup (closer : Char)
  /-- A closing bracket inside a group does not match. -/
  | strayCloser (found : Char)
  /-- A character cannot stand where it is found. -/
  | unexpected (found : Char)
  /-- The script ends where an expression should stand. -/
  | unexpectedEnd
  /-- Nothing follows an assignment operator. -/
  | missingValue (operator : String)
  /-- Nothing follows a pipe. -/
  | emptyPipe
  /-- Nothing follows the colon of a parameter. -/
  | missingArgument (parameter : String)
  /-- Nothing follows a comma. -/
  | missingItem
  /-- An at sign that starts nothing. -/
  | strayAt
  /-- A braced variable name is not closed. -/
  | openVariable
  /-- A hashtable literal is not closed. -/
  | openHashtable
  /-- A hashtable key without an equals sign. -/
  | missingEquals
  /-- Nothing follows the equals sign of a hashtable entry. -/
  | missingEntry
  /-- An equals sign without a key. -/
  | missingKey
deriving DecidableEq, Repr

/-- The wording of a problem. -/
def Problem.message : Problem → String
  | .openComment => "Missing end of comment '#>'."
  | .openString terminator => s!"The string is missing the terminator: {terminator}."
  | .openGroup closer => s!"Missing closing '{closer}'."
  | .strayCloser found => s!"Unexpected token '{found}'."
  | .unexpected found => s!"Unexpected token '{found}' in expression or statement."
  | .unexpectedEnd => "Unexpected end of script in expression or statement."
  | .missingValue operator =>
    s!"You must provide a value expression following the '{operator}' operator."
  | .emptyPipe => "An empty pipe element is not allowed."
  | .missingArgument parameter => s!"Missing an argument for parameter '{parameter}'."
  | .missingItem => "Missing expression after ','."
  | .strayAt => "Unrecognized token in source text."
  | .openVariable => "Missing closing '\x7d' in variable name."
  | .openHashtable => "Missing closing '\x7d' in statement block or type definition."
  | .missingEquals => "Missing '=' operator after key in hash literal."
  | .missingEntry => "Missing statement after '=' in hash literal."
  | .missingKey => "Missing key before '=' in hash literal."

/-- Reading stopped. -/
inductive Fault where
  /-- `what` is wrong at `site`, and `rest` is the text not read yet. -/
  | problem (what : Problem) (site rest : List Char)
  /-- A number literal could not be converted. -/
  | numeral (fault : Numeral.IntegerFault)

/-- The first character of `text` cannot stand there. -/
def Fault.unexpected (text : List Char) : Fault :=
  match text with
  | c :: _ => .problem (.unexpected c) text text
  | [] => .problem .unexpectedEnd [] []

end PageScript.Script
