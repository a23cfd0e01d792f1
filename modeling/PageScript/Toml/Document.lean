import PageScript.Toml.Reader

/-!
# Documents

A document is a row of statements: pairs of a key and a value, and headers that open a table or add a
table to an array. A table is opened by one header at most, and what is written in one piece is not
added to later.
-/

namespace PageScript.Toml

/-- What a document has said so far. -/
structure Draft where
  entries : Table := []
  /-- The table that pairs go to. -/
  header : Key := []
  /-- The tables that no header may open any more. -/
  opened : List Key := []
  /-- The tables that join `opened` at the next header. -/
  pending : List Key := []
  /-- The arrays and inline tables, which are complete. -/
  complete : List Key := []

namespace Draft

/-- Whether a key leads into something complete. -/
def isComplete (draft : Draft) (key : Key) : Bool := draft.complete.any (·.isPrefixOf key)

/-- Adds a pair to the open table. -/
def add (draft : Draft) (key : Key) (value : Value) : Except Problem Draft := do
  let full := draft.header ++ key
  let between := (List.range (key.length - 1)).map fun i => draft.header ++ key.take (i + 1)
  if let some opened := between.find? draft.opened.contains then throw (.redefined opened)
  if draft.isComplete full.dropLast then throw (.complete full.dropLast)
  let entries ← addAt true (fun _ => .overwritten) full value draft.entries
  return { draft with
    entries
    pending := between ++ draft.pending
    complete := if value.isComplete then full :: draft.complete else draft.complete }

/-- The draft at a header. -/
def atHeader (draft : Draft) : Draft :=
  { draft with opened := draft.pending ++ draft.opened, pending := [] }

/-- Opens a table. -/
def openTable (draft : Draft) (key : Key) : Except Problem Draft := do
  if draft.opened.contains key || draft.isComplete key then throw (.declaredTwice key)
  let entries ← changeAt true .ok key draft.entries
  return { draft with entries, header := key, opened := key :: draft.opened }

/-- `entries` with an empty table added to an array. -/
def extend (name : String) (entries : Table) : Except Problem Table :=
  match entries.lookup name with
  | none => .ok (entries ++ [(name, .array [.table []])])
  | some (.array items) => .ok (replaceIn entries name (.array (items ++ [.table []])))
  | some _ => .error .overwritten

/-- Adds a table to an array and opens it. -/
def extendArray (draft : Draft) (key : Key) : Except Problem Draft := do
  if draft.isComplete key then throw (.complete key)
  let entries ← changeAt true (extend (key.getLastD "")) key.dropLast draft.entries
  return { draft with
    entries
    header := key
    opened := key :: draft.opened.filter (!key.isPrefixOf ·)
    complete := draft.complete.filter (!key.isPrefixOf ·) }

end Draft

/-- Whether a pair starts with this character. -/
def startsPair (c : Char) : Bool := isBare c || c == '"' || c == '\''

/-- One statement without the comment behind it. -/
def readStatement (draft : Draft) (text : List Char) : Except Fault (Draft × List Char) := do
  match text with
  | '#' :: _ => return (draft, text)
  | '[' :: '[' :: rest =>
    let (key, site) ← readKey (skipBlanks rest)
    let draft ← atSite site (draft.atHeader.extendArray key)
    match site with
    | ']' :: ']' :: rest => return (draft, rest)
    | _ => throw (.problem .openArrayHeader site)
  | '[' :: rest =>
    let (key, site) ← readKey (skipBlanks rest)
    let draft ← atSite site (draft.atHeader.openTable key)
    match site with
    | ']' :: rest => return (draft, rest)
    | _ => throw (.problem .openHeader site)
  | c :: _ =>
    if startsPair c then
      let ((key, value), rest) ← readPair readValue text
      return (← atSite rest (draft.add key value), rest)
    else throw (.problem .badStatement text)
  | [] => return (draft, [])

/-- The statements of a text, line by line. -/
def readStatements (draft : Draft) (text : List Char) : Except Fault Draft :=
  match skipBlanks text with
  | [] => .ok draft
  | '\n' :: rest =>
    if rest.length < text.length then readStatements draft rest
    else .error (.problem .extraText rest)
  | here => do
    let (draft, rest) ← readStatement draft here
    match ← skipComment (skipBlanks rest) with
    | [] => return draft
    | '\n' :: rest =>
      if rest.length < text.length then readStatements draft rest
      else throw (.problem .extraText rest)
    | site => throw (.problem .extraText site)
termination_by text.length

/-- The table that a document describes, in which line feeds end the lines. -/
def read (text : List Char) : Except Fault Table := (readStatements {} text).map Draft.entries

end PageScript.Toml
