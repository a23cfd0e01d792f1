import PageScript.Report
import PageScript.Script.Word
import PageScript.Text.Position

/-!
# A cursor over a script

The readers of the lowest level, one by one, on a text and an offset into it. Each operation gives its
result, or the reason why there is none, and the cursor it leaves behind.
-/

namespace PageScript.Script

/-- A script with unified line ends and a place in it. -/
structure Cursor where
  text : List Char
  offset : Nat
deriving DecidableEq, Repr

/-- Why an operation has no result. -/
inductive CursorFault where
  /-- The script is wrong at `offset`. -/
  | problem (what : Problem) (offset : Nat)
  | numeral (fault : Numeral.IntegerFault)
  /-- There is no second character to take the quote from. -/
  | noQuote
  /-- A here-string without a line feed behind its head. -/
  | noLineFeed
  /-- No group starts here; what stands here instead, empty at the end. -/
  | noOpener (found : String)

namespace Cursor

/-- A cursor at the start of a script. -/
def ofSource (source : String) : Cursor := ⟨Text.unifyLineEnds source.toList, 0⟩

/-- The text from the cursor on. -/
def rest (cursor : Cursor) : List Char := cursor.text.drop cursor.offset

/-- The offset at which `left` is left of the script. -/
def offsetOf (cursor : Cursor) (left : List Char) : Nat :=
  cursor.offset + (cursor.rest.length - left.length)

/-- The cursor moved on to where `left` is left. -/
def movedTo (cursor : Cursor) (left : List Char) : Cursor :=
  { cursor with offset := cursor.offsetOf left }

/-- The outcome of an operation and the cursor behind it. -/
abbrev Outcome (α : Type) := Except CursorFault α × Cursor

/-- Runs a reader from the cursor on. -/
def run {α : Type} (cursor : Cursor) (reader : List Char → Except Fault (α × List Char)) :
    Outcome α :=
  match reader cursor.rest with
  | .ok (value, left) => (.ok value, cursor.movedTo left)
  | .error (.problem what site left) =>
    (.error (.problem what (cursor.offsetOf site)), cursor.movedTo left)
  | .error (.numeral fault) => (.error (.numeral fault), cursor)

/-- Runs a reader that gives nothing but the text left. -/
def skip (cursor : Cursor) (reader : List Char → Except Fault (List Char)) : Outcome Unit :=
  cursor.run fun text => (reader text).map ((), ·)

def atEnd (cursor : Cursor) : Bool := cursor.text.length ≤ cursor.offset

/-- The character `ahead` places behind the cursor. -/
def peek (cursor : Cursor) (ahead : Nat) : Option Char := cursor.text[cursor.offset + ahead]?

/-- The script goes on with `word`; behind its end it goes on with nothing. -/
def startsWith (cursor : Cursor) (word : String) : Bool :=
  cursor.offset ≤ cursor.text.length && word.toList.isPrefixOf cursor.rest

/-- The text between `start` and the cursor. -/
def textFrom (cursor : Cursor) (start : Nat) : String :=
  String.ofList ((cursor.text.take cursor.offset).drop start)

/-- Takes up to `count` characters. -/
def advance (cursor : Cursor) (count : Nat) : String × Cursor :=
  (String.ofList (cursor.rest.take count), cursor.movedTo (cursor.rest.drop count))

def position (cursor : Cursor) (offset : Nat) : Text.Position := Text.position cursor.text offset

/-- A here-string starts at the cursor. -/
def atHereString (cursor : Cursor) : Bool := (hereStringHead? cursor.rest).isSome

def skipInline (cursor : Cursor) : Outcome Unit := cursor.skip Script.skipInline

def skipBlanks (cursor : Cursor) : Outcome Unit := cursor.skip Script.skipBlanks

def skipLineComment (cursor : Cursor) : Cursor := cursor.movedTo (Script.skipLineComment cursor.rest)

def skipBlockComment (cursor : Cursor) : Outcome Unit := cursor.skip Script.skipBlockComment

def readSingleQuoted (cursor : Cursor) : Outcome String :=
  cursor.run fun text => (singleQuoted text).map fun (value, left) => (String.ofList value, left)

def readDoubleQuoted (cursor : Cursor) : Outcome String :=
  cursor.run fun text => (doubleQuoted text).map fun (body, left) => (String.ofList body, left)

/-- Reads a name, which may be empty. -/
def readName (cursor : Cursor) : String × Cursor :=
  (takeName cursor.rest, cursor.movedTo (dropName cursor.rest))

/-- Reads a here-string, whatever stands in its first line: its quote and its body. -/
def readHereString (cursor : Cursor) : Outcome (Char × String) :=
  match cursor.rest with
  | opener :: quote :: tail =>
    match (opener :: quote :: tail).dropWhile (· != '\n') with
    | _ :: body =>
      cursor.run fun text => (hereStringBody text quote body).map fun (value, left) =>
        ((quote, String.ofList value), left)
    | [] => (.error .noLineFeed, cursor)
  | _ => (.error .noQuote, cursor)

/-- Reads a group and gives its text, brackets included. -/
def readGroup (cursor : Cursor) : Outcome String :=
  match cursor.rest with
  | c :: tail =>
    match closerOf? c with
    | some closer =>
      cursor.run fun text => (groupRest closer text).map fun left =>
        (String.ofList (text.take (text.length - left.length)), left)
    | none => (.error (.noOpener (String.ofList [c])), cursor.movedTo tail)
  | [] => (.error (.noOpener ""), cursor)

end Cursor

end PageScript.Script
