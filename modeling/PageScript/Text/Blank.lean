/-!
# Blank characters and trimming

A blank is a white-space character of any script, the ASCII separators U+001C to U+001F included.
Texts from pages, parameters and connection strings are trimmed of blanks on both sides, and a text
of nothing but blanks counts as missing.
-/

namespace PageScript.Text

/-- White space of any script. -/
def isBlank (c : Char) : Bool :=
  let n := c.toNat
  (0x09 ≤ n && n ≤ 0x0D) || (0x1C ≤ n && n ≤ 0x20) || n == 0x85 || n == 0xA0 || n == 0x1680 ||
    (0x2000 ≤ n && n ≤ 0x200A) || n == 0x2028 || n == 0x2029 || n == 0x202F || n == 0x205F ||
    n == 0x3000

/-- `text` without the characters of `drop` at its start. -/
def trimStartOf (drop : Char → Bool) (text : List Char) : List Char := text.dropWhile drop

/-- `text` without the characters of `drop` at its end. -/
def trimEndOf (drop : Char → Bool) (text : List Char) : List Char :=
  (text.reverse.dropWhile drop).reverse

/-- `text` without the characters of `drop` at both ends. -/
def trimOf (drop : Char → Bool) (text : List Char) : List Char :=
  trimEndOf drop (trimStartOf drop text)

/-- `text` without surrounding blanks. -/
def trim (text : String) : String := String.ofList (trimOf isBlank text.toList)

/-- The text holds no character but blanks. -/
def allBlank (text : String) : Bool := text.toList.all isBlank

/-- A text that is missing or all blank. -/
def absent : Option String → Bool
  | none => true
  | some text => allBlank text

end PageScript.Text
