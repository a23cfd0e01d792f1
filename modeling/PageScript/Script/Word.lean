import PageScript.Script.Raw
import PageScript.Script.Tree
import PageScript.Text.Folding
import PageScript.Text.Letter

/-!
# Words, names and keywords

A bare word runs to a blank, a bracket, a comma or a separator; a backtick takes the next character
into the word. A word that is a number literal from end to end stands for the number, and one with a
dollar sign for the text it expands to.
-/

namespace PageScript.Script

/-- A character a name can start with. -/
def isNameStart (c : Char) : Bool := Text.isLetter c || c == '_'

/-- A character of a name. -/
def isNameChar (c : Char) : Bool := Text.isAlphanumeric c || c == '_' || c == '?'

/-- The text starts with a character of a name. -/
def startsName : List Char → Bool
  | c :: _ => isNameChar c
  | [] => false

/-- The name at the start of a text. -/
def takeName (text : List Char) : String := String.ofList (text.takeWhile isNameChar)

/-- The text behind the name at its start. -/
def dropName (text : List Char) : List Char := text.dropWhile isNameChar

theorem dropName_suffix (text : List Char) : dropName text <:+ text := List.dropWhile_suffix _

/-- The text behind the bare word at its start. -/
def wordRest : List Char → List Char
  | [] => []
  | '`' :: '\n' :: rest => '`' :: '\n' :: rest
  | ['`'] => []
  | '`' :: _ :: rest => wordRest rest
  | c :: rest => if endsWord c then c :: rest else wordRest rest

theorem wordRest_suffix (text : List Char) : wordRest text <:+ text := by
  fun_induction wordRest text with
  | case1 => exact List.suffix_rfl
  | case2 => exact List.suffix_rfl
  | case3 => exact List.nil_suffix
  | case4 c rest _ ih => exact ih.trans ⟨['`', c], rfl⟩
  | case5 => exact List.suffix_rfl
  | case6 c rest _ _ _ _ ih => exact ih.trans (List.suffix_cons c rest)

theorem wordRest_plain {c : Char} (hc : c ≠ '`') (rest : List Char) :
    wordRest (c :: rest) = if endsWord c then c :: rest else wordRest rest := by
  rw [wordRest]
  · exact fun _ h => absurd h hc
  · exact fun h => absurd h hc
  · exact fun _ _ h => absurd h hc

/-- The bare word at the start of a text; there must be one. -/
def word (text : List Char) : Except Fault (Found String text) :=
  if h : (wordRest text).length < text.length then
    .ok
      { value := String.ofList (text.take (text.length - (wordRest text).length))
        rest := wordRest text
        suffix := wordRest_suffix text
        shorter := h }
  else .error (.unexpected text)

/-- What a bare word means. -/
def wordExpr (extent : Extent) (word : String) : Except Numeral.IntegerFault Expr :=
  match Numeral.Literal.ofText? word.toList with
  | some literal => return .number extent (← literal.value)
  | none =>
    if word.toList.contains '$' then .ok (.expandable extent word)
    else .ok (.string extent word .bare)

/-- Carries a number that cannot be converted over to a fault of the script. -/
def liftNumeral {α : Type} : Except Numeral.IntegerFault α → Except Fault α
  | .ok a => .ok a
  | .error fault => .error (.numeral fault)

/-- The words that open a statement of their own. -/
def keywords : List String :=
  ["begin", "break", "catch", "class", "continue", "data", "do", "dynamicparam", "else", "elseif",
    "end", "enum", "exit", "filter", "finally", "for", "foreach", "function", "if", "param",
    "process", "return", "switch", "throw", "trap", "try", "until", "using", "while", "workflow"]

/-- The words that continue the keyword statement before them. -/
def clauseKeywords : List String := ["else", "elseif", "catch", "finally", "until"]

/-- The word of letters, digits, underscores and hyphens at the start of a text, folded. -/
def foldedWord (text : List Char) : String :=
  Text.fold (String.ofList (text.takeWhile fun c => Text.isAlphanumeric c || c == '_' || c == '-'))

/-- The text starts with a keyword. -/
def startsKeyword (text : List Char) : Bool :=
  match text with
  | c :: _ => isNameStart c && keywords.contains (foldedWord text)
  | [] => false

/-- The text goes on with a clause of the keyword statement before it. -/
def startsClause (text : List Char) : Bool :=
  text.head? == some '\x7b' || clauseKeywords.contains (foldedWord text)

/-- A character that can start the name of a command. -/
def startsCommand (c : Char) : Bool :=
  !("'\"$@([\x7b-+!,;|)\x7d\n".toList.contains c) && !Text.isDigitLike c

end PageScript.Script
