import PageScript.Numeral.Double

/-!
# The fewest digits of a double

A finite double stands for all reals that round to it. Among the decimals in that interval the
ones with the fewest digits are sought, and of those the nearest to the double. For each number of
digits only the two neighbours of the double on that decimal grid can qualify, so seventeen exact
comparisons of natural numbers at most decide.
-/

namespace PageScript.Numeral

/-- A decimal `0.d₁d₂… * 10 ^ point`, its digits without trailing zeros. -/
structure Digits where
  digits : List Char
  point : Int

/-- A positive finite double `m * 2 ^ q`. -/
structure Binary where
  m : Nat
  q : Int

/-- The parts of the positive finite double with the bit pattern `bits`. -/
def Binary.ofBits (bits : Nat) : Binary :=
  let field : Nat := bits / exponentUnit
  let fraction : Nat := bits % exponentUnit
  if field == 0 then ⟨fraction, -1074⟩ else ⟨fraction + exponentUnit, (field : Int) - 1075⟩

/-- The reals that round to a double, all over the denominator `den`: the value, the lower end and
the upper end. -/
structure Interval where
  den : Nat
  value : Nat
  low : Nat
  high : Nat
  /-- The ends belong to the interval. -/
  closed : Bool

/-- The interval of `b`. Below a power of two the next double is twice as close. -/
def Binary.interval (b : Binary) : Interval :=
  let up := Nat.pow 2 b.q.toNat
  let narrow := b.m == exponentUnit && -1074 < b.q
  { den := 4 * Nat.pow 2 (-b.q).toNat
    value := 4 * b.m * up
    low := (4 * b.m - if narrow then 1 else 2) * up
    high := (4 * b.m + 2) * up
    closed := b.m % 2 == 0 }

/-- `num / den` lies in the interval. -/
def Interval.holds (i : Interval) (num den : Nat) : Bool :=
  let x := num * i.den
  if i.closed then i.low * den ≤ x && x ≤ i.high * den else i.low * den < x && x < i.high * den

/-- The exponent `k` with `10 ^ (k - 1) ≤ value < 10 ^ k`, searched upward from `k`. -/
def Interval.pointFrom (i : Interval) (k : Int) : Nat → Int
  | 0 => k
  | fuel + 1 =>
    if i.value * Nat.pow 10 (-k).toNat < i.den * Nat.pow 10 k.toNat then k
    else i.pointFrom (k + 1) fuel

/-- The decimal of `n` digits with the point at `point` that is in the interval and nearest to the
value, if the grid has one. -/
def Interval.onGrid? (i : Interval) (point : Int) (n : Nat) : Option Nat :=
  let unit := point - n
  let up := Nat.pow 10 unit.toNat
  let down := Nat.pow 10 (-unit).toNat
  let below := i.value * down / (i.den * up)
  let above := below + 1
  let inBelow := i.holds (below * up) down
  let inAbove := i.holds (above * up) down
  if inBelow && inAbove then
    let twice := 2 * i.value * down
    let middle := (below + above) * i.den * up
    some (if twice < middle || (twice == middle && below % 2 == 0) then below else above)
  else if inBelow then some below
  else if inAbove then some above
  else none

/-- The first grid from `n` digits on that has a decimal in the interval. -/
def Interval.shortestFrom (i : Interval) (point : Int) (n : Nat) : Nat → Option (Nat × Nat)
  | 0 => none
  | fuel + 1 =>
    match i.onGrid? point n with
    | some d => some (d, n)
    | none => i.shortestFrom point (n + 1) fuel

/-- The digits of the positive finite double with the bit pattern `bits`. -/
def shortest (bits : Nat) : Digits :=
  let i := (Binary.ofBits bits).interval
  let estimate : Int := ((Nat.log2 i.value : Int) - Nat.log2 i.den) * 30103 / 100000 - 1
  let point := i.pointFrom estimate 6
  match i.shortestFrom point 1 17 with
  | some (d, n) =>
    let digits := Nat.toDigits 10 d
    { digits := (digits.reverse.dropWhile (· == '0')).reverse
      point := point + digits.length - n }
  | none => { digits := ['0'], point := 1 }

end PageScript.Numeral
