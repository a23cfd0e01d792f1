import PageScript.Json.Value
import PageScript.Text.Cut
import PageScript.Toml.Value

/-!
# Strings, keys and comments

Strings are basic, with escapes, or literal, and each on one line or over several. A key is a row of
names with points between them, each bare or a string on one line.
-/

namespace PageScript.Toml

/-- A control character; a tab is none, and over several `lines` a line feed is none. -/
def isControl (lines : Bool) (c : Char) : Bool :=
  (c.toNat < 0x20 && c != '\t' && !(lines && c == '\n')) || c.toNat == 0x7F

def isBlank (c : Char) : Bool := c == ' ' || c == '\t'

def isFiller (c : Char) : Bool := isBlank c || c == '\n'

def skipBlanks (text : List Char) : List Char := text.dropWhile isBlank

/-- Goes on behind `body`, with which `text` starts, unless it has a control character. -/
def passOver (lines : Bool) (body text rest : List Char) : Parsed (List Char) :=
  match body.find? (isControl lines) with
  | some c => .error (.problem (.controlInText c) (text.dropWhile (!isControl lines ·)))
  | none => .ok (body, rest)

/-- The text without a comment at its start; the line feed stays. -/
def skipComment (text : List Char) : Except Fault (List Char) :=
  match text with
  | '#' :: rest =>
    (passOver false (rest.takeWhile (· != '\n')) rest (rest.dropWhile (· != '\n'))).map Prod.snd
  | text => .ok text

/-- The text without blanks, line feeds and comments at its start. -/
def skipFiller (text : List Char) : Except Fault (List Char) := do
  let rest ← skipComment (text.dropWhile isFiller)
  if rest.length < text.length then skipFiller rest else return rest
termination_by text.length

/-- The character of an escape with `width` hexadecimal digits. -/
def codeEscape (width : Nat) (text : List Char) : Parsed (List Char) :=
  match if text.length < width then none else (text.take width).mapM Numeral.hexValue? with
  | none => .error (.problem .badDigits text)
  | some digits =>
    let n := Numeral.ofDigits 16 digits
    if h : n.isValidChar then .ok ([Char.ofNatAux n h], text.drop width)
    else .error (.problem .noScalar (text.drop width))

/-- The character that a backslash and a letter stand for. -/
def letterEscape? : Char → Option Char
  | 'b' => some '\x08'
  | 't' => some '\t'
  | 'n' => some '\n'
  | 'f' => some '\x0c'
  | 'r' => some '\r'
  | '"' => some '"'
  | '\\' => some '\\'
  | _ => none

/-- What a backslash and the text behind it stand for. In a string over several lines a backslash at
the end of a line takes away all blanks and line feeds that follow. -/
def escape (lines : Bool) (text : List Char) : Parsed (List Char) :=
  match text with
  | [] => .error (.problem .strayBackslash [])
  | c :: rest =>
    if lines && isFiller c then
      match skipBlanks text with
      | [] => .ok ([], [])
      | '\n' :: rest => .ok ([], rest.dropWhile isFiller)
      | site => .error (.problem .strayBackslash site)
    else
      match c with
      | 'u' => codeEscape 4 rest
      | 'U' => codeEscape 8 rest
      | c =>
        match letterEscape? c with
        | some meant => .ok ([meant], rest)
        | none => .error (.problem .strayBackslash rest)

/-- A basic string behind its opening quotes, up to its closing quotes. -/
def basicBody (lines : Bool) (text : List Char) : Parsed (List Char) :=
  match text with
  | [] => .error (.problem .openString [])
  | '"' :: rest =>
    if !lines then .ok ([], rest)
    else if ['"', '"'].isPrefixOf rest then .ok ([], rest.drop 2)
    else (basicBody lines rest).map fun (body, after) => ('"' :: body, after)
  | '\\' :: rest =>
    match escape lines rest with
    | .ok (meant, behind) =>
      if behind.length ≤ rest.length then
        (basicBody lines behind).map fun (body, after) => (meant ++ body, after)
      else .error (.problem .strayBackslash behind)
    | .error fault => .error fault
  | c :: rest =>
    if isControl lines c then .error (.problem (.controlInString c) text)
    else (basicBody lines rest).map fun (body, after) => (c :: body, after)
termination_by text.length

/-- A literal string behind its opening quotes. -/
def literalBody (lines : Bool) (text : List Char) : Parsed (List Char) :=
  let closer := List.replicate (if lines then 3 else 1) '\''
  match Text.cut? closer text with
  | some (body, rest) => passOver lines body text rest
  | none => .error (.problem (.noClosing (String.ofList closer)) [])

/-- Up to two quotes in front of the closing quotes belong to the string. -/
def withExtraQuotes (quote : Char) (body rest : List Char) : List Char × List Char :=
  let extra := (rest.take 2).takeWhile (· == quote)
  (body ++ extra, rest.drop extra.length)

/-- The text without a line feed at its start. -/
def skipLineFeed (text : List Char) : List Char :=
  if text.head? = some '\n' then text.tail else text

/-- The string at the start of a text. -/
def readText (text : List Char) : Parsed String :=
  let found : Parsed (List Char) :=
    match text with
    | '"' :: '"' :: '"' :: rest =>
      (basicBody true (skipLineFeed rest)).map fun (body, rest) => withExtraQuotes '"' body rest
    | '\'' :: '\'' :: '\'' :: rest =>
      (literalBody true (skipLineFeed rest)).map fun (body, rest) =>
        withExtraQuotes '\'' body rest
    | '"' :: rest => basicBody false rest
    | '\'' :: rest => literalBody false rest
    | _ => .error (.problem .noValue text)
  found.map fun (body, rest) => (String.ofList body, rest)

/-- A character of a bare name. -/
def isBare (c : Char) : Bool := c.isAlphanum || c == '-' || c == '_'

/-- One name of a key. -/
def readName (text : List Char) : Parsed String :=
  match text with
  | '"' :: rest => (basicBody false rest).map fun (body, rest) => (String.ofList body, rest)
  | '\'' :: rest => (literalBody false rest).map fun (body, rest) => (String.ofList body, rest)
  | text =>
    if (text.takeWhile isBare).isEmpty then .error (.problem .noName text)
    else .ok (String.ofList (text.takeWhile isBare), text.dropWhile isBare)

/-- The key at the start of a text and what follows it and the blanks behind it. -/
def readKey (text : List Char) : Except Fault (Key × List Char) := do
  let (name, rest) ← readName text
  match skipBlanks rest with
  | '.' :: rest =>
    if (skipBlanks rest).length < text.length then
      let (names, rest) ← readKey (skipBlanks rest)
      return (name :: names, rest)
    else throw (.problem .noName rest)
  | rest => return ([name], rest)
termination_by text.length

end PageScript.Toml
