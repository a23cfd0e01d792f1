/-!
# Cells

A character set of two bytes is a sheet of cells in rows. Most cells in use lie in runs; a few hold two
characters. Where the characters of a run follow each other, the first one tells them all, and where
they are in the order of their code points, the distances do. A sheet may lie upon another one and
change some of its cells.
-/

namespace PageScript.Charset

/-- The cells in use of a sheet. A replacement character stands in a cell that is kept free. -/
structure Cells where
  /-- The number of a first cell and the characters of the cells from there on. -/
  runs : List (Nat × String)
  /-- The number of a first cell, the code point in it, and how many cells hold the code points from
  there on. -/
  ranges : List (Nat × Nat × Nat) := []
  /-- The number of a first cell, the character in it, and how far the character of each next cell is
  from the one before: `A` for one code point, `B` for two and so on. -/
  steps : List (Nat × Char × String) := []
  /-- The cells of two characters. -/
  pairs : List (Nat × String) := []

/-- Runs that follow each other without a gap, the first one from the cell `start` on. -/
def rowsFrom (start : Nat) : List String → List (Nat × String)
  | [] => []
  | text :: rest => (start, text) :: rowsFrom (start + text.length) rest

/-- What stands in a cell of a run. -/
def Cells.inRun? (cells : Cells) (index : Nat) : Option Char :=
  match (cells.runs.takeWhile (·.1 ≤ index)).getLast? with
  | some (start, text) => text.toList[index - start]?
  | none => none

/-- What stands in a cell of a range. -/
def Cells.inRange? (cells : Cells) (index : Nat) : Option Char :=
  cells.ranges.findSome? fun (start, first, count) =>
    if start ≤ index && index < start + count then some (Char.ofNat (first + (index - start)))
    else none

/-- The code points that steps lead to, one after the other. -/
def stepPoints (point : Nat) : List Char → List Nat
  | [] => [point]
  | distance :: rest => point :: stepPoints (point + (distance.toNat - '@'.toNat)) rest

/-- What stands in a cell that steps lead to. -/
def Cells.inSteps? (cells : Cells) (index : Nat) : Option Char :=
  match (cells.steps.takeWhile (·.1 ≤ index)).getLast? with
  | some (start, first, distances) =>
    (stepPoints first.toNat distances.toList)[index - start]?.map Char.ofNat
  | none => none

/-- What stands in a cell. -/
def Cells.at? (cells : Cells) (index : Nat) : Option (List Char) :=
  match cells.pairs.lookup index with
  | some text => some text.toList
  | none =>
    (((cells.inRun? index).or (cells.inRange? index)).or (cells.inSteps? index)).map ([·])

/-- What stands in a cell of sheets that lie one upon the other, the top one first. -/
def lookUp (sheets : List Cells) (index : Nat) : Option (List Char) :=
  sheets.findSome? (·.at? index)

/-- The place of a byte between two bounds. -/
def placeIn? (low high b : UInt8) : Option Nat :=
  if low ≤ b && b ≤ high then some (b.toNat - low.toNat) else none

/-- The place of a byte in ranges that follow each other. -/
def placeInEach? (b : UInt8) : List (UInt8 × UInt8) → Option Nat
  | [] => none
  | (low, high) :: rest =>
    match placeIn? low high b with
    | some place => some place
    | none => (placeInEach? b rest).map (· + (high.toNat + 1 - low.toNat))

/-- The number of a cell in rows of `width`, by the places of its bytes. -/
def cellIn? (width : Nat) (row column : Option Nat) : Option Nat :=
  match row, column with
  | some row, some column => some (row * width + column)
  | _, _ => none

/-- A cell of 94 rows of 94. -/
def cell94? (a b : UInt8) : Option Nat := cellIn? 94 (placeIn? 0xA1 0xFE a) (placeIn? 0xA1 0xFE b)

/-- A cell of 126 rows of 190. -/
def cell190? (a b : UInt8) : Option Nat :=
  cellIn? 190 (placeIn? 0x81 0xFE a) (placeInEach? b [(0x40, 0x7E), (0x80, 0xFE)])

/-- A cell of 126 rows of 157. -/
def cell157? (a b : UInt8) : Option Nat :=
  cellIn? 157 (placeIn? 0x81 0xFE a) (placeInEach? b [(0x40, 0x7E), (0xA1, 0xFE)])

/-- A cell of 60 rows of 188, which are 120 rows of 94. -/
def cell188? (a b : UInt8) : Option Nat :=
  cellIn? 188 (placeInEach? a [(0x81, 0x9F), (0xE0, 0xFC)])
    (placeInEach? b [(0x40, 0x7E), (0x80, 0xFC)])

end PageScript.Charset
