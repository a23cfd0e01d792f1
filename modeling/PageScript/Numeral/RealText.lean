import PageScript.Numeral.Double
import PageScript.Numeral.Shortest

/-!
# The text of a double

The fewest digits that read back. They are written positionally, with at least one digit on both
sides of the point, while the decimal exponent lies between -4 and 15, and with an exponent of at
least two digits otherwise.
-/

namespace PageScript.Numeral

/-- Where a format changes from positional to exponent form, and how the exponent looks. -/
structure RealFormat where
  /-- The least decimal exponent written positionally. -/
  lowest : Int
  /-- The first decimal exponent that is not. -/
  limit : Int
  /-- The least number of digits of a written exponent. -/
  exponentWidth : Nat

/-- Exponents from -4 up to 15 are positional, and a written exponent has two digits or more. -/
def realFormat : RealFormat := { lowest := -4, limit := 16, exponentWidth := 2 }

/-- The written exponent `e`, with its sign. -/
def RealFormat.exponent (f : RealFormat) (e : Int) : List Char :=
  let digits := Nat.toDigits 10 e.natAbs
  'e' :: (if e < 0 then '-' else '+') ::
    (List.replicate (f.exponentWidth - digits.length) '0' ++ digits)

/-- The text of a positive decimal. -/
def RealFormat.write (f : RealFormat) (d : Digits) : List Char :=
  let e := d.point - 1
  if e < f.lowest || f.limit ≤ e then
    let mantissa := match d.digits with
      | [] => []
      | [c] => [c]
      | c :: rest => c :: '.' :: rest
    mantissa ++ f.exponent e
  else if d.point ≤ 0 then
    '0' :: '.' :: (List.replicate (-d.point).toNat '0' ++ d.digits)
  else
    let whole := d.digits.take d.point.toNat
    let zeros := List.replicate (d.point.toNat - d.digits.length) '0'
    let fraction := d.digits.drop d.point.toNat
    whole ++ zeros ++ '.' :: (if fraction.isEmpty then ['0'] else fraction)

/-- The bit of the sign in a bit pattern. -/
def signBit : Nat := 0x8000000000000000

/-- The text of a double. -/
def writeReal (x : Float) : String :=
  let bits := x.toBits.toNat
  let magnitude := bits % signBit
  let sign := if signBit ≤ bits then "-" else ""
  if infinityBits < magnitude then "nan"
  else if magnitude == infinityBits then sign ++ "inf"
  else if magnitude == 0 then sign ++ "0.0"
  else sign ++ String.ofList (realFormat.write (shortest magnitude))

end PageScript.Numeral
