import PageScript.Text.Blank
import PageScript.Text.Digit
import PageScript.Text.Quoted

/-!
# Decimal integers

Integers are read from decimal digits of any numbering system and written in the ASCII digits.
Both directions refuse integers of more than `digitLimit` digits; a hexadecimal literal has no such
limit, so an integer can be read that cannot be written.
-/

namespace PageScript.Numeral

/-- The most decimal digits that are converted. -/
def digitLimit : Nat := 4300

/-- Why an integer could not be read or written. -/
inductive IntegerFault where
  /-- The text has `count` digits. -/
  | tooManyDigits (count : Nat)
  /-- The integer needs more digits than may be written. -/
  | tooLarge
  /-- The text is no integer. -/
  | malformed (text : String)
deriving DecidableEq, Repr

/-- The wording of the fault. -/
def IntegerFault.message : IntegerFault → String
  | .tooManyDigits count =>
    s!"Exceeds the limit ({digitLimit} digits) for integer string conversion: value has {count} " ++
      "digits; use sys.set_int_max_str_digits() to increase the limit"
  | .tooLarge =>
    s!"Exceeds the limit ({digitLimit} digits) for integer string conversion; " ++
      "use sys.set_int_max_str_digits() to increase the limit"
  | .malformed text =>
    "invalid literal for int() with base 10: " ++
      String.ofList ((Text.quoted text).toList.take 200)

/-- The value of a list of digits, the most significant first. -/
def ofDigits (base : Nat) (digits : List Nat) : Nat :=
  digits.foldl (fun n d => n * base + d) 0

/-- The value of decimal digits, within the limit. -/
def ofDecimals (digits : List Nat) : Except IntegerFault Nat :=
  if digits.length ≤ digitLimit then .ok (ofDigits 10 digits)
  else .error (.tooManyDigits digits.length)

/-- The decimal text of an integer, within the limit. -/
def write (n : Int) : Except IntegerFault String :=
  if n.natAbs < Nat.pow 10 digitLimit then .ok (toString n) else .error .tooLarge

/-- A sign in front of digits; `true` for minus. -/
def takeSign : List Char → Bool × List Char
  | '-' :: rest => (true, rest)
  | '+' :: rest => (false, rest)
  | rest => (false, rest)

/-- `n` with the sign put in front. -/
def signed (negative : Bool) (n : Nat) : Int := if negative then -(n : Int) else n

/-- The blanks that may surround the digits of an integer: all but the four ASCII separators. -/
def isPadding (c : Char) : Bool := Text.isBlank c && !(0x1C ≤ c.toNat && c.toNat ≤ 0x1F)

/-- A character of a run of digits: an underscore may stand between two of them. -/
def isDigitOrMark (c : Char) : Bool := Text.isDecimal c || c == '_'

/-- Every underscore of `run` stands between two digits, given that a digit is in front of `run` or
not. -/
def marksDivide : (behindDigit : Bool) → List Char → Bool
  | behindDigit, [] => behindDigit
  | behindDigit, c :: rest =>
    if c = '_' then behindDigit && marksDivide false rest else marksDivide true rest

/-- Reads an optionally signed run of decimal digits between paddings. A text whose digits exceed
the limit is refused for that even if something else follows them. -/
def read (text : String) : Except IntegerFault Int :=
  let (negative, body) := takeSign (text.toList.dropWhile isPadding)
  let run := body.takeWhile isDigitOrMark
  let rest := body.dropWhile isDigitOrMark
  if !marksDivide false run then .error (.malformed text)
  else do
    let n ← ofDecimals (run.filterMap Text.decimalValue?)
    if rest.all isPadding then .ok (signed negative n) else .error (.malformed text)

end PageScript.Numeral
