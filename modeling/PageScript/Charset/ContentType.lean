import PageScript.Charset.Basic
import PageScript.Codec.Percent
import PageScript.Text.Blank
import PageScript.Text.Cut

/-!
# Content types

A content type is followed by parameters, and the one called `charset` names the character set of the
content. A value may be quoted; it may also be cut into numbered segments, and a segment may have
percent escapes, in which case the whole value tells first in which character set it is written itself.
The content is UTF-8 if no character set is named, or an unknown one.
-/

namespace PageScript.Charset

open Text (isBlank trimOf cutFirst)

/-- The pieces between semicolons outside of quotes. A quotation mark behind a backslash does not
count; `previous` is the character in front of the text, if it belongs to the same piece. -/
def pieces (quoted : Bool) (previous : Option Char) : List Char → List (List Char)
  | [] => [[]]
  | c :: rest =>
    if c == ';' && !quoted then [] :: pieces false none rest
    else
      let quoted := if c == '"' && previous != some '\\' then !quoted else quoted
      match pieces quoted (some c) rest with
      | piece :: more => (c :: piece) :: more
      | [] => [[c]]

/-- A parameter; one without an equals sign has an empty value. -/
structure Parameter where
  name : List Char
  value : List Char

def Parameter.ofPiece (piece : List Char) : Parameter :=
  match cutFirst '=' piece with
  | (name, some value) =>
    { name := (trimOf isBlank name).map Char.toLower, value := trimOf isBlank value }
  | (name, none) => { name := trimOf isBlank name, value := [] }

/-- A text without the backslashes that escape backslashes, and then those that escape quotation
marks. -/
def unescaped (text : List Char) : List Char :=
  let rec drop (mark : Char) : List Char → List Char
    | '\\' :: c :: rest => if c == mark then c :: drop mark rest else '\\' :: drop mark (c :: rest)
    | c :: rest => c :: drop mark rest
    | [] => []
  drop '"' (drop '\\' text)

/-- A value without the quotation marks or angle brackets around it. -/
def unquoted (value : List Char) : List Char :=
  match value, value.getLast? with
  | '"' :: rest@(_ :: _), some '"' => unescaped rest.dropLast
  | '<' :: rest@(_ :: _), some '>' => rest.dropLast
  | _, _ => value

/-- A segment of a value. -/
structure Segment where
  number : Option Nat
  value : List Char
  /-- Whether it has percent escapes. -/
  escaped : Bool

/-- The name of a parameter and the number of the segment, for names that tell of segments. -/
def segmentName? (name : List Char) : Option (List Char × Option Nat) :=
  let isWord (c : Char) : Bool := c.isAlphanum || c == '_'
  match name.takeWhile isWord, name.dropWhile isWord with
  | [], _ => none
  | stem, ['*'] => some (stem, none)
  | stem, '*' :: tail =>
    let digits := tail.takeWhile Char.isDigit
    let rest := tail.dropWhile Char.isDigit
    if !digits.isEmpty && (rest == [] || rest == ['*']) then
      some (stem, some (digits.foldl (fun n c => n * 10 + (c.toNat - 0x30)) 0))
    else none
  | _, _ => none

/-- Segments go by number, then by value. -/
def Segment.le (a b : Segment) : Bool :=
  let (m, n) := (a.number.getD 0, b.number.getD 0)
  m < n || (m == n && (a.value < b.value || (a.value == b.value && (!a.escaped || b.escaped))))

/-- The segments of a value in order, or whether the first one that does not go with those before it
has a number. -/
def Segment.sorted (segments : List Segment) : Except Bool (List Segment) :=
  match segments with
  | [] => .ok []
  | first :: _ =>
    match segments.find? (·.number.isSome != first.number.isSome) with
    | some other => .error other.number.isSome
    | none => .ok (segments.mergeSort Segment.le)

/-- The text of segments; escaped bytes are the characters with their numbers. -/
def Segment.joined (segments : List Segment) : List Char :=
  segments.flatMap fun s =>
    if s.escaped then (Codec.Percent.bytesOf s.value).map fun b => Char.ofNat b.toNat else s.value

/-- The text of bytes all of which mean something. -/
def wholeText? (charset : String) (bytes : List UInt8) : Option (List Char) :=
  match named? charset with
  | none => none
  | some decode =>
    match decode bytes with
    | .ok text => text.whole?
    | .error (.unmarked 16) => (utf16 .lowFirst bytes).whole?
    | .error (.unmarked 32) => (utf32 .lowFirst bytes).whole?
    | .error _ => none

/-- The value that segments with escapes write: behind the name of a character set and a language, if
both are there, in that character set. -/
def extendedValue (text : List Char) : List Char :=
  let (charset, value) :=
    match cutFirst '\'' text with
    | (charset, some rest) =>
      match cutFirst '\'' rest with
      | (_, some value) => (charset, value)
      | (_, none) => ([], text)
    | (_, none) => ([], text)
  let charset := if charset.isEmpty then "ascii" else String.ofList charset
  (wholeText? charset (value.map (·.toNat.toUInt8))).getD value

/-- Adds a segment to those of the same name. -/
def addSegment (groups : List (List Char × List Segment)) (name : List Char) (segment : Segment) :
    List (List Char × List Segment) :=
  match groups with
  | [] => [(name, [segment])]
  | (other, segments) :: rest =>
    if other == name then (other, segments ++ [segment]) :: rest
    else (other, segments) :: addSegment rest name segment

/-- The values of parameters by name: the first parameter as it stands, then those that are whole, then
those in segments. -/
def values (parameters : List Parameter) : Except Bool (List (List Char × List Char)) := do
  let rest := parameters.tail
  let plain := (parameters.take 1 ++ rest.filter fun p => (segmentName? p.name).isNone).map
    fun p => (p.name, unquoted p.value)
  let groups := rest.foldl (fun groups p =>
    match segmentName? p.name with
    | some (name, number) =>
      addSegment groups name
        { number, value := unquoted p.value, escaped := p.name.getLast? == some '*' }
    | none => groups) []
  let cut ← groups.mapM fun (name, segments) => do
    let segments ← Segment.sorted segments
    let text := Segment.joined segments
    return (name, if segments.any (·.escaped) then extendedValue text else text)
  return plain ++ cut

/-- Why a content cannot be read. -/
inductive ContentFault where
  | decoding (fault : Fault)
  /-- Some segments of a value have numbers and some have none; tells whether the first one that does
  not go with the others has one. -/
  | mixedSegments (numbered : Bool)
  /-- The name of the character set holds a zero byte. -/
  | zeroByte

def ContentFault.message : ContentFault → String
  | .decoding fault => fault.message
  | .mixedSegments numbered =>
    let (later, earlier) := if numbered then ("int", "NoneType") else ("NoneType", "int")
    "'<' not supported between instances of '" ++ later ++ "' and '" ++ earlier ++ "'"
  | .zeroByte => "embedded null character"

/-- The name of the character set in a content type; one with other characters than ASCII is none. -/
def nameIn? (contentType : List Char) : Except ContentFault (Option String) := do
  let parameters := (pieces false none contentType).map Parameter.ofPiece
  let known ← (values parameters).mapError ContentFault.mixedSegments
  return ((known.find? fun (name, _) => name.map Char.toLower == "charset".toList).filter
    fun (_, value) => value.all (·.toNat < 0x80)).map fun (_, value) => String.ofList value

/-- The text of a content. -/
def textOf (contentType : List Char) (content : List UInt8) : Except ContentFault (List Char) := do
  if content.isEmpty then return []
  let name ← nameIn? contentType
  if name.any (·.contains '\x00') then throw .zeroByte
  match name.bind named? with
  | some decode => return (← (decode content).mapError ContentFault.decoding).replaced
  | none => return (utf8 content).replaced

end PageScript.Charset
