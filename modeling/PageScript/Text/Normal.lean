import PageScript.Text.Decomposition

/-!
# Normalization form C

Texts that are canonically the same have one normal form: every character is taken apart, marks are
put in the order of their combining classes, and then each base is put together again with the marks
that can reach it.
-/

namespace PageScript.Text

/-- The first syllable of Hangul, and how many syllables there are. -/
def hangulFirst : Nat := 0xAC00

def hangulCount : Nat := 11172

/-- The initial, the medial and the final of a syllable of Hangul. -/
def hangulParts? (n : Nat) : Option (List Nat) :=
  if hangulFirst ≤ n && n < hangulFirst + hangulCount then
    let index := n - hangulFirst
    let syllable := [0x1100 + index / 588, 0x1161 + index % 588 / 28]
    some (if index % 28 = 0 then syllable else syllable ++ [0x11A7 + index % 28])
  else none

/-- The syllable of Hangul that two parts make. -/
def hangulPair? (a b : Nat) : Option Nat :=
  if 0x1100 ≤ a && a < 0x1113 && 0x1161 ≤ b && b < 0x1176 then
    some (hangulFirst + ((a - 0x1100) * 21 + (b - 0x1161)) * 28)
  else if hangulFirst ≤ a && a < hangulFirst + hangulCount && (a - hangulFirst) % 28 = 0 &&
      0x11A8 ≤ b && b < 0x11C3 then
    some (a + (b - 0x11A7))
  else none

/-- A code point taken apart, at most `depth` times over. -/
def decomposed : (depth : Nat) → Nat → List Nat
  | 0, n => [n]
  | depth + 1, n =>
    match hangulParts? n with
    | some parts => parts
    | none =>
      match single? n with
      | some m => decomposed depth m
      | none =>
        match pair? n with
        | some (a, b) => decomposed depth a ++ decomposed depth b
        | none => [n]

/-- Puts a code point in front of marks: a mark goes behind those of a smaller class. -/
def insertMark (n : Nat) : List Nat → List Nat
  | [] => [n]
  | m :: rest =>
    if combiningClass m ≠ 0 && combiningClass m < combiningClass n then m :: insertMark n rest
    else n :: m :: rest

/-- The code points with each run of marks in the order of their classes. -/
def orderMarks (points : List Nat) : List Nat := points.foldr insertMark []

/-- The code point that a pair is put together to. -/
def composed? (a b : Nat) : Option Nat := (hangulPair? a b).or (whole? a b)

/-- Puts together the base `base` with the code points behind it. The marks that stay behind the base
are in `passed`, the last in front. -/
def composeFrom (base : Nat) (passed : List Nat) : List Nat → List Nat
  | [] => base :: passed.reverse
  | n :: rest =>
    let reaches := match passed with
      | [] => true
      | last :: _ => combiningClass last < combiningClass n
    match if reaches then composed? base n else none with
    | some whole => composeFrom whole passed rest
    | none =>
      if combiningClass n = 0 then base :: passed.reverse ++ composeFrom n [] rest
      else composeFrom base (n :: passed) rest

/-- Puts together code points that are in order; marks in front of the first base stay as they are. -/
def compose (points : List Nat) : List Nat :=
  let isMarkClass (n : Nat) : Bool := combiningClass n ≠ 0
  points.takeWhile isMarkClass ++
    match points.dropWhile isMarkClass with
    | [] => []
    | base :: rest => composeFrom base [] rest

/-- No character is taken apart more often than this. -/
def decompositionDepth : Nat := 8

/-- The normal form of a text given by its code points. -/
def normalForm (points : List Nat) : List Nat :=
  compose (orderMarks (points.flatMap (decomposed decompositionDepth)))

/-- A text that is its own normal form. -/
def isNormal (points : List Nat) : Bool := normalForm points == points

end PageScript.Text
