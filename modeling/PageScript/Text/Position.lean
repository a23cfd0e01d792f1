/-!
# Lines and columns

An offset into a text and the line and column it falls on, both counted from one. Only the line
feed ends a line, and an offset may stand behind the last character.
-/

namespace PageScript.Text

/-- A place in a text as a reader names it. -/
structure Position where
  line : Nat
  column : Nat
deriving DecidableEq, Repr

/-- The number of characters of `text` up to and including its last line feed. -/
def lineStart (text : List Char) : Nat :=
  text.length - (text.reverse.takeWhile (· != '\n')).length

/-- The line and column of `offset` in `text`. -/
def position (text : List Char) (offset : Nat) : Position :=
  let before := text.take offset
  { line := before.count '\n' + 1
    column := offset - lineStart before + 1 }

end PageScript.Text
