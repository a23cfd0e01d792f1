import PageScript.Script.Variable

/-!
# Expressions, arguments and commands

A primary expression is a string, a variable, a group or a hashtable literal. An argument of a
command is a primary or a bare word; an expression in the place of a value may also be a number or a
command, and whatever follows its primary turns the whole into text. Hashtable literals hold
expressions again: every reader takes the reader of hashtables as a parameter, and `hashtable` ties
the knot on shorter and shorter texts.
-/

namespace PageScript.Script

/-- The keys and values of a hashtable literal, in order. -/
abbrev Entries := List (Expr × Expr)

/-- Reads a hashtable literal at its at sign. -/
abbrev TableReader := (text : List Char) → Except Fault (Found Entries text)

/-- A group kept as text, whose opening bracket stands at `c`. -/
def groupExpr (kind : RawKind) (closer c : Char) (t : List Char) :
    Except Fault (Found Expr (c :: t)) := do
  let ⟨rest, h⟩ ← checked (groupRest closer (c :: t))
  return .behind (.raw (.between (c :: t) rest) kind) rest (groupRest_suffix h)

/-- A group kept as text together with the sign `c` in front of its opening bracket. -/
def signedGroupExpr (kind : RawKind) (c : Char) (t : List Char) :
    Except Fault (Found Expr (c :: '(' :: t)) := do
  let ⟨rest, h⟩ ← checked (groupRest ')' ('(' :: t))
  return .behind (.raw (.between (c :: '(' :: t) rest) kind) rest
    ((groupRest_suffix h).trans (List.suffix_cons _ _))

/-- A string between apostrophes. -/
def singleQuotedExpr (t : List Char) : Except Fault (Found Expr ('\'' :: t)) := do
  let ⟨(value, rest), h⟩ ← checked (singleQuotedBody ('\'' :: t) t)
  return .behind (.string (.between ('\'' :: t) rest) (String.ofList value) .single) rest
    (singleQuotedBody_suffix h).1

/-- A string between double quotes. -/
def doubleQuotedExpr (t : List Char) : Except Fault (Found Expr ('"' :: t)) := do
  let ⟨rest, h⟩ ← checked (doubleQuotedRest ('"' :: t))
  let body := t.take (t.length - rest.length - 1)
  return .behind (.expandable (.between ('"' :: t) rest) (String.ofList body)) rest
    (doubleQuotedRest_suffix h)

/-- A here-string, whose head has been recognised. -/
def hereStringExpr {text body : List Char} {quote : Char}
    (head : hereStringHead? text = some (quote, body)) : Except Fault (Found Expr text) := do
  let ⟨(value, rest), h⟩ ← checked (hereStringBody text quote body)
  let extent := Extent.between text rest
  let expr :=
    if quote = '\'' then .string extent (String.ofList value) .here
    else .expandable extent (String.ofList value)
  have suffix := hereStringBody_suffix h
  have shorter : rest.length < text.length := by
    have h1 := suffix.length_le
    have h2 := (hereStringHead?_suffix head).2
    omega
  return ⟨expr, rest, suffix.trans (hereStringHead?_suffix head).1, shorter⟩

/-- What an at sign starts, here-strings apart: a hashtable, an array or a splatted variable. -/
def atExpr (table : TableReader) (t : List Char) : Except Fault (Found Expr ('@' :: t)) :=
  match t with
  | '\x7b' :: inner => do
    let found ← table ('@' :: '\x7b' :: inner)
    return found.map fun entries =>
      .hashtable (.between ('@' :: '\x7b' :: inner) found.rest) entries
  | '(' :: inner => signedGroupExpr .array '@' inner
  | t =>
    if startsName t then
      .ok (.behind (.reference (.between ('@' :: t) (dropName t)) (takeName t) none true)
        (dropName t) (dropName_suffix t))
    else .error (.problem .strayAt ('@' :: t) ('@' :: t))

/-- What a dollar sign starts: a subexpression or a variable, with the members behind it. -/
def dollarExpr (t : List Char) : Except Fault (Found Expr ('$' :: t)) :=
  match t with
  | '(' :: inner => signedGroupExpr .subexpression '$' inner >>= withMembers
  | t => variableAt t >>= withMembers

/-- A string, a variable, a group or a hashtable literal; nothing if none starts here. -/
def primary? (table : TableReader) (text : List Char) : Except Fault (Option (Found Expr text)) :=
  match text with
  | '\'' :: t => some <$> singleQuotedExpr t
  | '"' :: t => some <$> doubleQuotedExpr t
  | '@' :: t =>
    match h : hereStringHead? ('@' :: t) with
    | some _ => some <$> hereStringExpr h
    | none => some <$> atExpr table t
  | '$' :: t => some <$> dollarExpr t
  | '(' :: t => some <$> groupExpr .paren ')' '(' t
  | '\x7b' :: t => some <$> groupExpr .scriptblock '\x7d' '\x7b' t
  | '[' :: t => some <$> groupExpr .type ']' '[' t
  | _ => .ok none

theorem primary?_hereString {t body : List Char} {quote : Char} (table : TableReader)
    (h : hereStringHead? ('@' :: t) = some (quote, body)) :
    primary? table ('@' :: t) = some <$> hereStringExpr h := by
  rw [primary?]
  split
  · rename_i found h'
    cases h.symm.trans h'
    rfl
  · rename_i h'
    cases h.symm.trans h'

theorem primary?_at {t : List Char} (table : TableReader) (h : hereStringHead? ('@' :: t) = none) :
    primary? table ('@' :: t) = some <$> atExpr table t := by
  rw [primary?]
  split
  · rename_i h'
    cases h.symm.trans h'
  · rfl

theorem primary?_none {c : Char} (hc : c ∉ ['\'', '"', '@', '$', '(', '\x7b', '[']) (table : TableReader)
    (t : List Char) : primary? table (c :: t) = .ok none := by
  simp only [List.mem_cons, List.not_mem_nil, or_false, not_or] at hc
  obtain ⟨h1, h2, h3, h4, h5, h6, h7⟩ := hc
  rw [primary?]
  · exact fun _ h => h1 (List.cons.inj h).1
  · exact fun _ h => h2 (List.cons.inj h).1
  · exact fun _ h => h3 (List.cons.inj h).1
  · exact fun _ h => h4 (List.cons.inj h).1
  · exact fun _ h => h5 (List.cons.inj h).1
  · exact fun _ h => h6 (List.cons.inj h).1
  · exact fun _ h => h7 (List.cons.inj h).1

/-- An argument of a command: a primary or a bare word. -/
def argument (table : TableReader) (text : List Char) : Except Fault (Found Expr text) := do
  match ← primary? table text with
  | some found => return found
  | none =>
    let found ← word text
    let expr ← liftNumeral (wordExpr (.between text found.rest) found.value)
    return found.map fun _ => expr

/-- The comma that goes on a list and the blanks behind it, if there is one. An item has to follow. -/
def listComma? (text : List Char) : Except Fault (Option (Found Unit text)) := do
  match ← checked (skipInline text) with
  | ⟨',' :: t, h⟩ =>
    let ⟨here, hb⟩ ← checked (skipBlanks t)
    if stopped endsElement here then throw (.problem .missingItem here here)
    return some ((Found.behind () here (skipBlanks_suffix hb) : Found Unit (',' :: t)).within
      (skipInline_suffix h))
  | _ => return none

/-- The text behind the commas and arguments that go on a list; the text itself if there are none.
It is to stand behind an argument. -/
def listRest (table : TableReader) (text : List Char) :
    Except Fault { rest : List Char // rest <:+ text } := do
  match ← listComma? text with
  | some comma =>
    let item ← argument table comma.rest
    let rest ← listRest table item.rest
    return ⟨rest.val, (rest.property.trans item.suffix).trans comma.suffix⟩
  | none => return ⟨text, List.suffix_rfl⟩
termination_by text.length
decreasing_by
  have h1 := item.shorter
  have h2 := comma.shorter
  omega

/-- A character that belongs to the name of a parameter. -/
def isParameterChar (c : Char) : Bool := !endsWord c && c != ':'

/-- The text starts, behind a hyphen, with the name of a parameter. -/
def startsParameter : List Char → Bool
  | c :: _ => isNameStart c || c == '?'
  | [] => false

/-- A parameter behind its hyphen. -/
def parameter (table : TableReader) (t : List Char) : Except Fault (Found Element ('-' :: t)) := do
  let name := String.ofList (t.takeWhile isParameterChar)
  let start := '-' :: t
  match hr : t.dropWhile isParameterChar with
  | ':' :: behind =>
    have hd : behind <:+ t := (List.suffix_cons ':' behind).trans (hr ▸ List.dropWhile_suffix _)
    let ⟨here, h⟩ ← checked (skipInline behind)
    if stopped endsElement here then throw (.problem (.missingArgument name) here here)
    let found ← argument table here
    return .behind (.parameter (.between start found.rest) name (some found.value)) found.rest
      ((found.suffix.trans (skipInline_suffix h)).trans hd)
  | rest =>
    return .behind (.parameter (.between start rest) name none) rest
      (hr ▸ List.dropWhile_suffix _)

/-- A positional argument, or a list of them kept as text. -/
def positional (table : TableReader) (text : List Char) : Except Fault (Found Element text) := do
  let found ← argument table text
  let rest ← listRest table found.rest
  if rest.val.length < found.rest.length then
    return found.upTo (.value (.raw (.between text rest.val) .list)) rest.val rest.property
  else return found.map .value

/-- One word behind the name of a command. -/
def element (table : TableReader) (text : List Char) : Except Fault (Found Element text) :=
  match text with
  | '-' :: t => if startsParameter t then parameter table t else positional table ('-' :: t)
  | text => positional table text

/-- The words behind the name of a command, up to its end. -/
def elements (table : TableReader) (text : List Char) :
    Except Fault (List Element × { rest : List Char // rest <:+ text }) := do
  let ⟨here, h⟩ ← checked (skipInline text)
  if stopped endsElement here then return ([], ⟨here, skipInline_suffix h⟩)
  let first ← element table here
  let (others, rest) ← elements table first.rest
  return (first.value :: others,
    ⟨rest.val, (rest.property.trans first.suffix).trans (skipInline_suffix h)⟩)
termination_by text.length
decreasing_by
  have h1 := first.shorter
  have h2 := (skipInline_suffix h).length_le
  omega

/-- A command with its arguments. -/
def command (table : TableReader) (text : List Char) : Except Fault (Found Command text) := do
  let name ← word text
  let (elements, rest) ← elements table name.rest
  return name.upTo ⟨.trimmed text rest.val, name.value, elements⟩ rest.val rest.property

/-- The start of a value that is no primary: a number, a command, or nothing. -/
def numberOrCommand? (table : TableReader) (text : List Char) :
    Except Fault (Option (Found Expr text)) := do
  match h : Numeral.Literal.take? text with
  | some (literal, rest) =>
    let value ← liftNumeral literal.value
    return some
      { value := .number (.between text rest) value
        rest := rest
        suffix := (Numeral.Literal.take?_suffix h).1
        shorter := (Numeral.Literal.take?_suffix h).2 }
  | none =>
    if (text.head?.map startsCommand).getD false then
      let found ← command table text
      return some (found.map fun _ => .raw (.trimmed text found.rest) .pipeline)
    else return none

theorem numberOrCommand?_number {text rest : List Char} {literal : Numeral.Literal}
    (h : Numeral.Literal.take? text = some (literal, rest)) (table : TableReader) :
    numberOrCommand? table text =
      (liftNumeral literal.value).map fun value => some
        { value := .number (.between text rest) value
          rest := rest
          suffix := (Numeral.Literal.take?_suffix h).1
          shorter := (Numeral.Literal.take?_suffix h).2 } := by
  rw [numberOrCommand?]
  split
  · rename_i h'
    cases h.symm.trans h'
    cases literal.value <;> rfl
  · rename_i h'
    cases h.symm.trans h'

theorem numberOrCommand?_command {text : List Char} (h : Numeral.Literal.take? text = none)
    (table : TableReader) :
    numberOrCommand? table text =
      if (text.head?.map startsCommand).getD false then
        (command table text).map fun found =>
          some (found.map fun _ => .raw (.trimmed text found.rest) .pipeline)
      else .ok none := by
  rw [numberOrCommand?]
  split
  · rename_i h'
    cases h.symm.trans h'
  · split
    · cases command table text <;> rfl
    · rfl

/-- An operator in front of its operand, kept as text up to a stopping character. -/
def unaryExpr (stops : Char → Bool) (text : List Char) : Except Fault (Found Expr text) :=
  match text with
  | [] => .error (.unexpected [])
  | c :: t =>
    if "-+!,".toList.contains c then do
      let ⟨rest, h⟩ ← checked (rawBehind stops c t)
      return .behind (.raw (.trimmed (c :: t) rest) .expression) rest (rawBehind_suffix h)
    else .error (.unexpected (c :: t))

/-- An expression that starts with `first`: `first` itself if a stopping character follows, else
everything up to one, kept as text. -/
def extended {text : List Char} (stops : Char → Bool) (first : Found Expr text) :
    Except Fault (Found Expr text) := do
  let ⟨here, h⟩ ← checked (skipInline first.rest)
  if stopped stops here then return first
  let ⟨rest, hr⟩ ← checked (rawRest stops here)
  return first.upTo (.raw (.trimmed text rest) .expression) rest
    ((rawRest_suffix hr).trans (skipInline_suffix h))

/-- A value, up to one of the stopping characters. -/
def expression (table : TableReader) (stops : Char → Bool) (text : List Char) :
    Except Fault (Found Expr text) := do
  match ← primary? table text with
  | some first => extended stops first
  | none =>
    match ← numberOrCommand? table text with
    | some first => extended stops first
    | none => unaryExpr stops text

/-- The characters that end a bare key. -/
def endsKey (c : Char) : Bool :=
  c == ' ' || c == '\t' || c == '\n' || c == '=' || c == ';' || c == '\x7d'

/-- A bare word as a key of a hashtable literal. -/
def bareKey (text : List Char) : Except Fault (Found Expr text) :=
  match text with
  | [] => .error (.problem .missingKey [] [])
  | c :: t =>
    if endsKey c then .error (.problem .missingKey (c :: t) (c :: t))
    else do
      let rest := t.dropWhile (!endsKey ·)
      let extent := Extent.between (c :: t) rest
      let expr ← liftNumeral (wordExpr extent extent.text)
      return .behind expr rest (List.dropWhile_suffix _)

/-- A key of a hashtable literal: a primary or a bare word. -/
def key (table : TableReader) (text : List Char) : Except Fault (Found Expr text) := do
  match ← primary? table text with
  | some found => return found
  | none => bareKey text

/-- The equals sign and the value of an entry; `text` is to stand behind the key. -/
def entryValue (table : TableReader) (text : List Char) : Except Fault (Found Expr text) := do
  match ← checked (skipInline text) with
  | ⟨'=' :: t, h⟩ =>
    let ⟨here, hb⟩ ← checked (skipBlanks t)
    if stopped (fun c => c == ';' || c == '\x7d') here then
      throw (.problem .missingEntry here here)
    let found ← expression table endsEntry here
    return found.within ((skipBlanks_suffix hb).trans
      ((List.suffix_cons '=' t).trans (skipInline_suffix h)))
  | other => throw (.problem .missingEquals other.val other.val)

/-- The entries of the hashtable literal that opens at `opened`, up to its closing brace. -/
def entries (table : TableReader) (opened text : List Char) :
    Except Fault (Found Entries text) := do
  match ← checked (skipBlanks text) with
  | ⟨[], _⟩ => throw (.problem .openHashtable opened [])
  | ⟨';' :: t, h⟩ =>
    let found ← entries table opened t
    return found.within ((List.suffix_cons ';' t).trans (skipBlanks_suffix h))
  | ⟨'\x7d' :: t, h⟩ =>
    return (Found.behind [] t List.suffix_rfl : Found Entries ('\x7d' :: t)).within
      (skipBlanks_suffix h)
  | ⟨c :: t, h⟩ =>
    let key ← key table (c :: t)
    let value ← entryValue table key.rest
    let others ← entries table opened value.rest
    return (others.within ((value.suffix.trans key.suffix).trans (skipBlanks_suffix h))).map
      ((key.value, value.value) :: ·)
termination_by text.length
decreasing_by
  · have := (skipBlanks_suffix h).length_le
    simp only [List.length_cons] at this
    omega
  · have h1 := (skipBlanks_suffix h).length_le
    have h2 := key.shorter
    have h3 := value.shorter
    omega

theorem entries_nil {text : List Char} (h : skipBlanks text = .ok []) (table : TableReader)
    (opened : List Char) :
    entries table opened text = .error (.problem .openHashtable opened []) := by
  rw [entries, checked_ok h]
  rfl

theorem entries_entry {c : Char} {text t : List Char} (h : skipBlanks text = .ok (c :: t))
    (hs : c ≠ ';') (hb : c ≠ '\x7d') (table : TableReader) (opened : List Char) :
    entries table opened text = do
      let key ← key table (c :: t)
      let value ← entryValue table key.rest
      let others ← entries table opened value.rest
      return (others.within ((value.suffix.trans key.suffix).trans (skipBlanks_suffix h))).map
        ((key.value, value.value) :: ·) := by
  conv => lhs; rw [entries, checked_ok h]; dsimp only [bind, Except.bind]
  split
  · rename_i heq
    cases heq
  · rename_i heq
    cases heq
    exact absurd rfl hs
  · rename_i heq
    cases heq
    exact absurd rfl hb
  · rename_i heq
    cases heq
    rfl

/-- The hashtable literal at the start of a text. -/
def hashtable (text : List Char) : Except Fault (Found Entries text) := do
  let inner : TableReader := fun t =>
    if t.length < text.length then hashtable t else .error (.unexpected t)
  let found ← entries inner text (text.drop 2)
  return found.within (List.drop_suffix 2 text)
termination_by text.length

end PageScript.Script
