import PageScript.Toml.Scalar
import PageScript.Toml.Word

/-!
# Reading values

Arrays go over any number of lines; inline tables stay on one. A key in an inline table may reach
into tables that the same inline table has opened by earlier keys, and into no other value.
-/

namespace PageScript.Toml

/-- Reads a value at the start of a text. -/
abbrev Inner := List Char → Parsed Value

/-- `entries` with the value of `name` replaced. -/
def replaceIn (entries : Table) (name : String) (value : Value) : Table :=
  entries.map fun entry => if entry.1 == name then (name, value) else entry

/-- Changes the table that a key leads to; tables on the way that are missing are made. With
`intoArrays` the last table of an array of tables is entered. -/
def changeAt (intoArrays : Bool) (change : Table → Except Problem Table) :
    Key → Table → Except Problem Table
  | [], entries => change entries
  | name :: rest, entries =>
    match entries.lookup name with
    | none =>
      (changeAt intoArrays change rest []).map fun inner => entries ++ [(name, .table inner)]
    | some (.table inner) =>
      (changeAt intoArrays change rest inner).map fun inner =>
        replaceIn entries name (.table inner)
    | some (.array items) =>
      match intoArrays, items.getLast? with
      | true, some (.table inner) =>
        (changeAt intoArrays change rest inner).map fun inner =>
          replaceIn entries name (.array (items.dropLast ++ [.table inner]))
      | _, _ => .error .overwritten
    | some _ => .error .overwritten

/-- Adds the value of a key to a table, in which its last name must not be `taken`. -/
def addAt (intoArrays : Bool) (taken : String → Problem) (key : Key) (value : Value)
    (entries : Table) : Except Problem Table :=
  let name := key.getLastD ""
  let add (entries : Table) : Except Problem Table :=
    if (entries.lookup name).isSome then .error (taken name)
    else .ok (entries ++ [(name, value)])
  changeAt intoArrays add key.dropLast entries

/-- A problem with the table at a place in the text. -/
def atSite {α : Type} (site : List Char) (found : Except Problem α) : Except Fault α :=
  found.mapError (.problem · site)

/-- A key, an equals sign and a value. -/
def readPair (inner : Inner) (text : List Char) : Except Fault ((Key × Value) × List Char) := do
  match ← readKey text with
  | (key, '=' :: rest) =>
    let (value, rest) ← inner (skipBlanks rest)
    return ((key, value), rest)
  | (_, site) => throw (.problem .noEquals site)

/-- The items of an array behind the items in `done`. -/
def readItems (inner : Inner) (done : List Value) (text : List Char) :
    Except Fault (List Value × List Char) := do
  match ← skipFiller text with
  | ']' :: rest => return (done, rest)
  | here =>
    let (value, rest) ← inner here
    match ← skipFiller rest with
    | ']' :: rest => return (done ++ [value], rest)
    | ',' :: rest =>
      if rest.length < text.length then readItems inner (done ++ [value]) rest
      else throw (.problem .openArray rest)
    | site => throw (.problem .openArray site)
termination_by text.length

/-- The entries of an inline table behind those in `done`; `closed` are the keys of the arrays and
inline tables among them. -/
def readEntries (inner : Inner) (done : Table) (closed : List Key) (text : List Char) :
    Except Fault (Table × List Char) := do
  let ((key, value), rest) ← readPair inner text
  if closed.any (·.isPrefixOf key) then throw (.problem (.complete key) rest)
  let done ← atSite rest (addAt false .duplicate key value done)
  match skipBlanks rest with
  | '\x7d' :: rest => return (done, rest)
  | ',' :: rest =>
    if (skipBlanks rest).length < text.length then
      readEntries inner done (if value.isComplete then key :: closed else closed) (skipBlanks rest)
    else throw (.problem .openTable rest)
  | site => throw (.problem .openTable site)
termination_by text.length

/-- The value at the start of a text. -/
def readValue (text : List Char) : Parsed Value :=
  let inner : Inner := fun t =>
    if t.length < text.length then readValue t else .error (.problem .noValue t)
  match text with
  | '"' :: _ => (readText text).map fun (s, rest) => (.string s, rest)
  | '\'' :: _ => (readText text).map fun (s, rest) => (.string s, rest)
  | '[' :: rest => (readItems inner [] rest).map fun (items, rest) => (.array items, rest)
  | '\x7b' :: rest =>
    match skipBlanks rest with
    | '\x7d' :: rest => .ok (.table [], rest)
    | rest => (readEntries inner [] [] rest).map fun (entries, rest) => (.table entries, rest)
  | text => readScalar text
termination_by text.length

end PageScript.Toml
