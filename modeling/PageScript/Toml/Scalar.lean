import PageScript.Calendar
import PageScript.Json.Reader
import PageScript.Toml.Value

/-!
# Numbers, dates and times

Digits may have an underscore between each two of them. Integers are decimal, or hexadecimal, octal
or binary with a prefix; a number with a point or an exponent is a double.
-/

namespace PageScript.Toml

/-- The digits that follow a digit, each with an underscore in front or none. -/
def moreDigits (value? : Char → Option Nat) : List Char → List Nat × List Char
  | [] => ([], [])
  | '_' :: c :: rest =>
    match value? c with
    | some d => let (digits, after) := moreDigits value? rest; (d :: digits, after)
    | none => ([], '_' :: c :: rest)
  | c :: rest =>
    match value? c with
    | some d => let (digits, after) := moreDigits value? rest; (d :: digits, after)
    | none => ([], c :: rest)

/-- The digits at the start of a text; at least one. -/
def digits? (value? : Char → Option Nat) : List Char → Option (List Nat × List Char)
  | [] => none
  | c :: rest =>
    (value? c).map fun d => let (digits, after) := moreDigits value? rest; (d :: digits, after)

/-- The value of a digit below `base`. -/
def digitBelow? (base : Nat) (c : Char) : Option Nat := (Numeral.hexValue? c).filter (· < base)

/-- The base that a letter behind a zero names. -/
def baseOf? : Char → Option Nat
  | 'x' => some 16
  | 'o' => some 8
  | 'b' => some 2
  | _ => none

/-- An integer with a prefix. -/
def prefixed? : List Char → Option (Int × List Char)
  | '0' :: letter :: rest => do
    let base ← baseOf? letter
    let (digits, rest) ← digits? (digitBelow? base) rest
    return (Numeral.ofDigits base digits, rest)
  | _ => none

/-- The digits in front of the point: a zero, or digits that start with another one. -/
def whole? (text : List Char) : Option (List Nat × List Char) :=
  match text with
  | '0' :: rest => some ([0], rest)
  | text => digits? (digitBelow? 10) text

/-- The point and the digits behind it. -/
def fraction (text : List Char) : Option (List Nat) × List Char :=
  match text with
  | '.' :: rest =>
    match digits? (digitBelow? 10) rest with
    | some (digits, rest) => (some digits, rest)
    | none => (none, text)
  | text => (none, text)

/-- The exponent. -/
def exponent (text : List Char) : Option Int × List Char :=
  match text with
  | c :: rest =>
    if c = 'e' || c = 'E' then
      let (negative, body) := Numeral.takeSign rest
      match digits? (digitBelow? 10) body with
      | some (digits, rest) => (some (Numeral.signed negative (Numeral.ofDigits 10 digits)), rest)
      | none => (none, text)
    else (none, text)
  | [] => (none, [])

/-- A decimal number. -/
def decimal? (text : List Char) : Option (Numeral.Literal × List Char) := do
  let (negative, body) := Numeral.takeSign text
  let (before, rest) ← whole? body
  let (after, rest) := fraction rest
  let (exponent, rest) := exponent rest
  return (.ofParts negative before after exponent, rest)

/-- The number at the start of a text; nothing if there is none. -/
def number? (text : List Char) : Option (Except Fault (Value × List Char)) :=
  match prefixed? text with
  | some (n, rest) => some (.ok (.integer n, rest))
  | none =>
    (decimal? text).map fun (literal, rest) =>
      match literal.value with
      | .ok (.integer n) => .ok (.integer n, rest)
      | .ok (.real x) => .ok (.float x, rest)
      | .error fault => .error (.numeral fault)

/-- The number of two digits. -/
def twoDigits? (a b : Char) : Option Nat := do
  return Numeral.ofDigits 10 [← digitBelow? 10 a, ← digitBelow? 10 b]

/-- The text behind a fraction of a second. -/
def skipFraction (text : List Char) : List Char :=
  match text with
  | '.' :: rest => if (rest.takeWhile Char.isDigit).isEmpty then text else rest.dropWhile Char.isDigit
  | text => text

/-- The text behind a time of the day. -/
def timeOfDay? : List Char → Option (List Char)
  | a :: b :: ':' :: c :: d :: ':' :: e :: f :: rest => do
    if (← twoDigits? a b) < 24 && (← twoDigits? c d) < 60 && (← twoDigits? e f) < 60 then
      some (skipFraction rest)
    else none
  | _ => none

/-- The text behind an offset from universal time, if there is one. -/
def skipOffset (text : List Char) : List Char :=
  match text with
  | 'Z' :: rest => rest
  | 'z' :: rest => rest
  | sign :: a :: b :: ':' :: c :: d :: rest =>
    match twoDigits? a b, twoDigits? c d with
    | some hours, some minutes =>
      if (sign == '+' || sign == '-') && hours < 24 && minutes < 60 then rest else text
    | _, _ => text
  | text => text

/-- A date with a time of the day behind it or without. -/
def date? (text : List Char) : Option (Except Fault (Value × List Char)) :=
  match text with
  | y :: e :: a :: r :: '-' :: m :: n :: '-' :: d :: s :: rest => do
    let year := 100 * (← twoDigits? y e) + (← twoDigits? a r)
    let month ← twoDigits? m n
    let day ← twoDigits? d s
    if month = 0 || 12 < month || day = 0 || 31 < day then none
    if year = 0 || Calendar.daysInMonth year month < day then
      return .error (.problem .badDate text)
    match rest with
    | mark :: time =>
      match if mark == 'T' || mark == 't' || mark == ' ' then timeOfDay? time else none with
      | some rest => return .ok (.time .dateTime, skipOffset rest)
      | none => return .ok (.time .date, rest)
    | [] => return .ok (.time .date, rest)
  | _ => none

/-- The words that are values. -/
def wordValues : List (String × Value) :=
  let infinity := Float.ofBits Numeral.infinityBits.toUInt64
  let notNumber := Float.ofBits Numeral.notNumberBits.toUInt64
  [("true", .boolean true), ("false", .boolean false),
    ("inf", .float infinity), ("+inf", .float infinity), ("-inf", .float (-infinity)),
    ("nan", .float notNumber), ("+nan", .float notNumber), ("-nan", .float notNumber)]

/-- A value that is neither a string nor made of others. -/
def readScalar (text : List Char) : Parsed Value :=
  match date? text with
  | some found => found
  | none =>
    match timeOfDay? text with
    | some rest => .ok (.time .timeOfDay, rest)
    | none =>
      match number? text with
      | some found => found
      | none =>
        match wordValues.find? fun (word, _) => word.toList.isPrefixOf text with
        | some (word, value) => .ok (value, text.drop word.length)
        | none => .error (.problem .noValue text)

end PageScript.Toml
