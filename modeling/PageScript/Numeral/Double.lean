/-!
# Doubles from exact quotients

A double is rounded from a quotient of natural numbers in one step, to the nearest with ties to
the even neighbour, gradual underflow and overflow to infinity included. A positive finite double is
`m * 2 ^ q` with `q ≥ -1074`; its bit pattern is `(q + 1074) * 2 ^ 52 + m`, also when `m` has been
rounded up to the next power of two.
-/

namespace PageScript.Numeral

/-- `num / den` rounded to an integer, a tie going to the even neighbour. -/
def divRoundEven (num den : Nat) : Nat :=
  let quotient := num / den
  let twice := 2 * (num % den)
  if den < twice || (twice == den && quotient % 2 == 1) then quotient + 1 else quotient

/-- `num / den` divided by `2 ^ e`, as a numerator and a denominator. -/
def scaleDown (num den : Nat) (e : Int) : Nat × Nat :=
  (num * Nat.pow 2 (-e).toNat, den * Nat.pow 2 e.toNat)

/-- The weight of the exponent field in a bit pattern: `2 ^ 52`. -/
def exponentUnit : Nat := 0x10000000000000

/-- The bit pattern of positive infinity. -/
def infinityBits : Nat := 0x7FF * exponentUnit

/-- The bit pattern of the double that is no number. -/
def notNumberBits : Nat := 0x7FF8000000000000

/-- The bit pattern of the double nearest to `num / den`. -/
def quotientBits (num den : Nat) : Nat :=
  if num == 0 then 0
  else
    let guess : Int := (Nat.log2 num : Int) - Nat.log2 den - 52
    let (n, d) := scaleDown num den guess
    let e := max (if n < d * exponentUnit then guess - 1 else guess) (-1074)
    let (n, d) := scaleDown num den e
    min ((e + 1074).toNat * exponentUnit + divRoundEven n d) infinityBits

/-- The double nearest to `num / den`. -/
def ofQuotient (num den : Nat) : Float := Float.ofBits (quotientBits num den).toUInt64

/-- The double nearest to `digits * 10 ^ exponent`, where `digits` has `count` decimal digits.
Exponents far outside the range of doubles are decided without computing the power. -/
def ofDecimal (digits count : Nat) (exponent : Int) : Float :=
  if digits == 0 then 0.0
  else if exponent + count > 400 then Float.ofBits infinityBits.toUInt64
  else if exponent + count < -400 then 0.0
  else ofQuotient (digits * Nat.pow 10 exponent.toNat) (Nat.pow 10 (-exponent).toNat)

/-- The double nearest to an integer, or nothing if the integer is too large for one. -/
def ofInteger? (n : Int) : Option Float :=
  let bits := quotientBits n.natAbs 1
  if bits < infinityBits then
    let x := Float.ofBits bits.toUInt64
    some (if n < 0 then -x else x)
  else none

end PageScript.Numeral
