import PageScript.Proofs.CSharp.LiteralReading

/-!
# Reading a method body

The lines of a generated method, read back as a tree of statements. This is a reader of its own for
the forms that such a body uses, and knows nothing of how the lines were made: names, string and
character literals, interpolated strings, calls with plain and labelled arguments, declarations,
assignments, `return`, and blocks in braces with `if` and `else` in front. An expression of any other
form is kept as it is written, for the meaning that the rest of the program gives it.
-/

namespace PageScript.CSharp.Source

/-- A piece of an interpolated string. -/
inductive Part where
  | char (c : Char)
  /-- A variable between braces. -/
  | hole (name : String)
deriving DecidableEq

/-- An expression without a call. -/
inductive Atom where
  | text (value : String)
  | char (c : Char)
  | interpolated (parts : List Part)
  /-- A variable, or names joined by dots. -/
  | path (name : String)
deriving DecidableEq

/-- An argument of a call, with its label if it has one. -/
structure Argument where
  label : Option String
  value : Atom
deriving DecidableEq

/-- An expression. -/
inductive Term where
  | atom (value : Atom)
  | call (awaited : Bool) (method : String) (arguments : List Argument)
  /-- An expression of another form, as it is written. -/
  | outer (code : String)
deriving DecidableEq

/-- The condition of a block. -/
inductive Test where
  | call (method : String) (arguments : List Argument)
  /-- A number, reached by a path, is equal to another one. -/
  | equals (name : String) (value : Nat)
deriving DecidableEq

/-- A statement in one line. -/
inductive Action where
  | newList (name : String)
  | declare (name : String) (value : Term)
  | assign (name : String) (value : Term)
  | add (list : String) (value : Term)
  | ret (value : Term)
deriving DecidableEq

/-- A statement with the blocks in it. -/
inductive Node where
  | action (action : Action)
  | scope (body : List Node)
  | when (test : Test) (yes : List Node)
  | whenElse (test : Test) (yes no : List Node)

/-! ## Expressions -/

/-- The text behind `word`, which must start `text`. -/
def behind? (word : String) (text : List Char) : Option (List Char) :=
  if word.toList.isPrefixOf text then some (text.drop word.toList.length) else none

/-- The text before `word`, which must end `text`. -/
def before? (word : String) (text : List Char) : Option (List Char) :=
  if word.toList.isSuffixOf text then some (text.take (text.length - word.toList.length)) else none

/-- A character of a path. -/
def isPathChar (c : Char) : Bool := c.isAlphanum || c == '_' || c == '.'

/-- The path at the start of a text, and what follows it. -/
def path? (text : List Char) : Option (String × List Char) :=
  if (text.takeWhile isPathChar).isEmpty then none
  else some (String.ofList (text.takeWhile isPathChar), text.dropWhile isPathChar)

/-- The parts of an interpolated string behind its opening quote; `hole` holds the characters of the
hole that is open, the last one first. A doubled brace stands for one brace. -/
def parts? : (hole : Option (List Char)) → List Char → Option (List Part × List Char)
  | none, '"' :: rest => some ([], rest)
  | none, '\x7b' :: '\x7b' :: rest => (parts? none rest).map fun (ps, r) => (.char '\x7b' :: ps, r)
  | none, '\x7d' :: '\x7d' :: rest => (parts? none rest).map fun (ps, r) => (.char '\x7d' :: ps, r)
  | none, '\x7b' :: rest => parts? (some []) rest
  | none, c :: rest =>
    if c = '\\' || c = '\x7d' || isLineEnd c then none
    else (parts? none rest).map fun (ps, r) => (.char c :: ps, r)
  | some name, '\x7d' :: rest =>
    (parts? none rest).map fun (ps, r) => (.hole (String.ofList name.reverse) :: ps, r)
  | some name, c :: rest => if isPathChar c then parts? (some (c :: name)) rest else none
  | _, [] => none

/-- The expression without a call at the start of a text, and what follows it. -/
def atom? : List Char → Option (Atom × List Char)
  | '"' :: text => (literal? ('"' :: text)).map fun (value, rest) => (.text value, rest)
  | '$' :: '"' :: text => (parts? none text).map fun (parts, rest) => (.interpolated parts, rest)
  | '\'' :: c :: '\'' :: rest => if c = '\\' || isLineEnd c then none else some (.char c, rest)
  | text => (path? text).map fun (name, rest) => (.path name, rest)

/-- The argument at the start of a text, and what follows it. -/
def argument? (text : List Char) : Option (Argument × List Char) :=
  match path? text with
  | some (label, ':' :: ' ' :: rest) =>
    (atom? rest).map fun (value, rest) => (⟨some label, value⟩, rest)
  | _ => (atom? text).map fun (value, rest) => (⟨none, value⟩, rest)

/-- The arguments of a call, from behind its opening bracket to the end of the text. -/
def arguments? (text : List Char) : Option (List Argument) :=
  match argument? text with
  | some (argument, [')']) => some [argument]
  | some (argument, ',' :: ' ' :: rest) =>
    -- An argument is never longer than the text it is read from, so this always holds.
    if rest.length < text.length then (arguments? rest).map (argument :: ·) else none
  | _ => none
termination_by text.length

/-- The method and the arguments of a call, from the path of the method to the end of the text. -/
def call? (text : List Char) : Option (String × List Argument) :=
  match path? text with
  | some (method, '(' :: ')' :: []) => some (method, [])
  | some (method, '(' :: rest) => (arguments? rest).map (method, ·)
  | _ => none

/-- The expression that a text is. -/
def term (code : List Char) : Term :=
  match atom? code with
  | some (value, []) => .atom value
  | _ =>
    match behind? "await " code with
    | some rest =>
      match call? rest with
      | some (method, arguments) => .call true method arguments
      | none => .outer (String.ofList code)
    | none =>
      match call? code with
      | some (method, arguments) => .call false method arguments
      | none => .outer (String.ofList code)

/-- The condition that a text is. -/
def test? (code : List Char) : Option Test :=
  match path? code with
  | some (name, ' ' :: '=' :: '=' :: ' ' :: digits) =>
    match Numeral.takeDecimals digits with
    | (values, []) => some (.equals name (Numeral.ofDigits 10 values))
    | _ => none
  | _ => (call? code).map fun (method, arguments) => .call method arguments

/-! ## Lines -/

/-- What a line holds, its indentation apart. -/
inductive Line where
  /-- Nothing but blanks or a comment. -/
  | blank
  | opening
  | closing
  | whenHead (test : Test)
  | elseHead
  | action (action : Action)
  | unknown

/-- A name, an equals sign and an expression. -/
def equation? (code : List Char) : Option (String × Term) :=
  match path? code with
  | some (name, rest) => (behind? " = " rest).map fun value => (name, term value)
  | none => none

/-- The statement that a line without its semicolon is. -/
def action? (code : List Char) : Option Action :=
  match behind? "return " code with
  | some value => some (.ret (term value))
  | none =>
    match behind? "var " code with
    | some rest =>
      match path? rest with
      | some (name, value) => if value = " = new List<string>()".toList then some (.newList name) else none
      | none => none
    | none =>
      match (behind? "string " code).or (behind? "string? " code) with
      | some rest => (equation? rest).map fun (name, value) => .declare name value
      | none =>
        match path? code with
        | some (method, '(' :: rest) => do
          let list ← before? ".Add" method.toList
          let value ← before? ")" rest
          return .add (String.ofList list) (term value)
        | _ => (equation? code).map fun (name, value) => .assign name value

/-- What the text of a line holds behind its indentation. -/
def lineOf (text : List Char) : Line :=
  if text.isEmpty || "//".toList.isPrefixOf text then .blank
  else if text = "\x7b".toList then .opening
  else if text = "\x7d".toList then .closing
  else if text = "else".toList then .elseHead
  else
    match behind? "if (" text with
    | some rest =>
      match (before? ")" rest).bind test? with
      | some test => .whenHead test
      | none => .unknown
    | none =>
      match (before? ";" text).bind action? with
      | some action => .action action
      | none => .unknown

/-- What a line holds. -/
def line (text : String) : Line := lineOf (text.toList.dropWhile (· == ' '))

/-! ## Blocks -/

/-- What stands in front of the block that is being read. -/
inductive Opener where
  | scope
  | yes (test : Test)
  | no (test : Test) (taken : List Node)

/-- The statement that is complete when the block closes. -/
def Opener.close : Opener → List Node → Node
  | .scope, body => .scope body
  | .yes test, body => .when test body
  | .no test taken, body => .whenElse test taken body

/-- The statements in lines. `opened` holds the blocks that are open, the innermost first, each with
the statements in front of it; `done` holds the statements of the innermost block. Both lists of
statements have the last one first. -/
def nodes? : List (Opener × List Node) → List Node → List Line → Option (List Node)
  | [], done, [] => some done.reverse
  | opened, done, .blank :: rest => nodes? opened done rest
  | opened, done, .action action :: rest => nodes? opened (.action action :: done) rest
  | opened, done, .opening :: rest => nodes? ((.scope, done) :: opened) [] rest
  | opened, done, .whenHead test :: .opening :: rest => nodes? ((.yes test, done) :: opened) [] rest
  | opened, .when test yes :: done, .elseHead :: .opening :: rest =>
    nodes? ((.no test yes, done) :: opened) [] rest
  | (opener, before) :: opened, done, .closing :: rest =>
    nodes? opened (opener.close done.reverse :: before) rest
  | _, _, _ => none

/-- The statements of a method body. -/
def body? (lines : List String) : Option (List Node) := nodes? [] [] (lines.map line)

end PageScript.CSharp.Source
