import PageScript.Text.Cut

/-!
# Punycode

The encoding of RFC 3492 writes any text in ASCII: its ASCII characters first, then the others as
differences of their places and code points, in digits whose weights adapt to the differences seen so
far.
-/

namespace PageScript.Codec.Punycode

/-- A digit. -/
def digit (n : Nat) : Char := if n < 26 then Char.ofNat (0x61 + n) else Char.ofNat (0x16 + n)

/-- The value of a digit; letters count in either case. -/
def digitValue? (c : Char) : Option Nat :=
  if c.isLower then some (c.toNat - 0x61)
  else if c.isUpper then some (c.toNat - 0x41)
  else if c.isDigit then some (c.toNat - 0x16)
  else none

/-- The least value of a digit that is not the last, at the weight `k`. -/
def threshold (k bias : Nat) : Nat := if k ≤ bias + 1 then 1 else min (k - bias) 26

theorem threshold_bounds (k bias : Nat) : 1 ≤ threshold k bias ∧ threshold k bias ≤ 26 := by
  unfold threshold
  split <;> omega

/-- The digits of a difference. -/
def digitsOf (bias k delta : Nat) : List Char :=
  let t := threshold k bias
  if delta < t then [digit delta]
  else digit (t + (delta - t) % (36 - t)) :: digitsOf bias (k + 36) ((delta - t) / (36 - t))
termination_by delta
decreasing_by
  have := threshold_bounds k bias
  exact Nat.lt_of_le_of_lt (Nat.div_le_self _ _) (by omega)

/-- The difference at the start of a text, and what follows it. -/
def takeDifference (bias k weight sum : Nat) : List Char → Option (Nat × List Char)
  | [] => none
  | c :: rest =>
    match digitValue? c with
    | none => none
    | some d =>
      let t := threshold k bias
      if d < t then some (sum + d * weight, rest)
      else takeDifference bias (k + 36) (weight * (36 - t)) (sum + d * weight) rest

/-- A difference takes at least one character. -/
theorem takeDifference_length {bias k weight sum delta : Nat} {text rest : List Char}
    (h : takeDifference bias k weight sum text = some (delta, rest)) :
    rest.length < text.length := by
  induction text generalizing k weight sum with
  | nil => simp [takeDifference] at h
  | cons c tail ih =>
    simp only [takeDifference] at h
    split at h
    · cases h
    · split at h
      · simp only [Option.some.injEq, Prod.mk.injEq] at h
        rw [← h.2]
        exact Nat.lt_succ_self _
      · exact Nat.lt_trans (ih h) (Nat.lt_succ_self _)

/-- The bias that a difference leads to, scaled down until it is small. -/
def biasOf (k delta : Nat) : Nat :=
  if delta ≤ 455 then k + 36 * delta / (delta + 38) else biasOf (k + 36) (delta / 35)
termination_by delta
decreasing_by omega

/-- The bias after a difference, where `count` characters are written. -/
def adapted (delta count : Nat) (isFirst : Bool) : Nat :=
  let delta := if isFirst then delta / 700 else delta / 2
  biasOf 0 (delta + delta / count)

/-- Where encoding stands: what is written, the pending difference, the bias and how many characters
are done. -/
structure Progress where
  output : List Char
  delta : Nat
  bias : Nat
  done : Nat

/-- Goes over one character of the text while those with the code point `n` are written. -/
def Progress.step (basic n : Nat) (p : Progress) (c : Char) : Progress :=
  if c.toNat < n then { p with delta := p.delta + 1 }
  else if c.toNat = n then
    { output := p.output ++ digitsOf p.bias 36 p.delta
      delta := 0
      bias := adapted p.delta (p.done + 1) (p.done == basic)
      done := p.done + 1 }
  else p

/-- Writes the characters with the code points of a sorted list, `last` being the one before. -/
def writeAll (basic : Nat) (text : List Char) : Nat → List Nat → Progress → Progress
  | _, [], p => p
  | last, n :: rest, p =>
    let p := { p with delta := p.delta + (n - last) * (p.done + 1) }
    let p := text.foldl (Progress.step basic n) p
    writeAll basic text (n + 1) rest { p with delta := p.delta + 1 }

/-- The Punycode of a text. -/
def encode (text : List Char) : List Char :=
  let ascii := text.filter (·.toNat < 0x80)
  let others := ((text.filter (0x80 ≤ ·.toNat)).map Char.toNat).eraseDups.mergeSort
  let start := if ascii.isEmpty then [] else ascii ++ ['-']
  (writeAll ascii.length text 0x80 others
    { output := start, delta := 0, bias := 72, done := ascii.length }).output

/-- The last code point. -/
def lastPoint : Nat := 0x10FFFF

/-- Inserts code points into `points` as the differences of a text say: the last one that was inserted
is `n`, and `place` is the place behind it. A `lenient` reader puts a question mark for a number that
is no code point and stops where the text makes no sense. -/
def insertAll (lenient : Bool) (n place bias : Nat) (isFirst : Bool) (points : List Nat)
    (text : List Char) : Option (List Nat) :=
  match text with
  | [] => some points
  | c :: rest =>
    match _h : takeDifference bias 36 1 0 (c :: rest) with
    | none => if lenient then some points else none
    | some (delta, after) =>
      let count := points.length + 1
      let total := place + delta
      let n := n + total / count
      if lastPoint < n && !lenient then none
      else
        let n := if lastPoint < n then 0x3F else n
        let place := total % count
        insertAll lenient n (place + 1) (adapted delta count isFirst) false
          (points.insertIdx place n) after
termination_by text.length
decreasing_by exact takeDifference_length _h

/-- The code points that a Punycode stands for: those in front of its last hyphen, with the others
inserted. -/
def decode? (lenient : Bool) (text : List Char) : Option (List Nat) :=
  let (basic, digits) := Text.cutLast '-' text
  insertAll lenient 0x80 0 72 true ((basic.getD []).map Char.toNat) digits

end PageScript.Codec.Punycode
