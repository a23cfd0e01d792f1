import PageScript.Codec.Punycode
import PageScript.Text.Mark
import PageScript.Text.Normal
import PageScript.Text.Quoted
import PageScript.Url.LabelChar

/-!
# International host names

A host name is a row of labels. A label beyond ASCII is written in ASCII by its Punycode behind a mark
of four characters. The rules of RFC 5891 to 5893 tell which labels there are: they are in normal
form, hyphens and marks stand where they may, every character is permitted or fits to its neighbours,
and characters written from right to left do not mix with the others.
-/

namespace PageScript.Url.Idna

open Text (inRanges isTransparent)

/-- A label given by its code points. -/
abbrev Label := List Nat

/-- Why a text is no host name. -/
inductive Fault where
  | emptyName
  | emptyLabel
  | longLabel
  | longName
  | notNormal
  /-- Hyphens at the third and the fourth place. -/
  | innerHyphens
  /-- A hyphen at the start or the end. -/
  | outerHyphen
  | leadingMark
  /-- A joiner between characters that it does not join. -/
  | joiner (n place : Nat) (label : Label)
  /-- A character that does not fit to its neighbours. -/
  | neighbours (n place : Nat) (label : Label)
  | notPermitted (n place : Nat) (label : Label)
  /-- A label with characters from right to left that starts with a neutral one. -/
  | neutralStart (label : Label)
  | rightToLeft (place : Nat)
  | leftToRight (place : Nat)
  | mixedNumbers
  | neutralEnd
  /-- Nothing behind the mark of an ASCII form. -/
  | noPunycode
  | finalHyphen
  | badPunycode
deriving DecidableEq, Repr

/-- The name of a code point in messages. -/
def pointName (n : Nat) : String :=
  "U+" ++ String.ofList ((Text.hexDigits 4 n).map Char.toUpper)

/-- A label as it is quoted in messages. -/
def quotedLabel (label : Label) : String :=
  let quote := if label.contains 0x27 && !label.contains 0x22 then '"' else '\''
  let one (n : Nat) : List Char :=
    if Nat.isValidChar n then Text.quotedChar quote (Char.ofNat n) else Text.numericEscape n
  String.ofList (quote :: label.flatMap one ++ [quote])

def Fault.message : Fault → String
  | .emptyName => "Empty domain"
  | .emptyLabel => "Empty Label"
  | .longLabel => "Label too long"
  | .longName => "Domain too long"
  | .notNormal => "Label must be in Normalization Form C"
  | .innerHyphens => "Label has disallowed hyphens in 3rd and 4th position"
  | .outerHyphen => "Label must not start or end with a hyphen"
  | .leadingMark => "Label begins with an illegal combining character"
  | .joiner n place label =>
    "Unknown codepoint adjacent to joiner " ++ pointName n ++ s!" at position {place} in " ++
      quotedLabel label
  | .neighbours n place label =>
    "Codepoint " ++ pointName n ++ s!" not allowed at position {place} in " ++ quotedLabel label
  | .notPermitted n place label =>
    "Codepoint " ++ pointName n ++ s!" at position {place} of " ++ quotedLabel label ++
      " not allowed"
  | .neutralStart label =>
    "First codepoint in label " ++ quotedLabel label ++ " must be directionality L, R or AL"
  | .rightToLeft place =>
    s!"Invalid direction for codepoint at position {place} in a right-to-left label"
  | .leftToRight place =>
    s!"Invalid direction for codepoint at position {place} in a left-to-right label"
  | .mixedNumbers => "Can not mix numeral types in a right-to-left label"
  | .neutralEnd => "Label ends with illegal codepoint directionality"
  | .noPunycode => "Malformed A-label, no Punycode eligible content found"
  | .finalHyphen => "A-label must not end with a hyphen"
  | .badPunycode => "Invalid A-label"

/-! ## Characters and their neighbours -/

/-- The character in front, if there is one, is a virama. -/
def followsVirama (before : List Nat) : Bool :=
  (before.head?.map Text.combiningClass) == some 9

/-- A joiner that joins; the characters in front of it have the nearest one first. -/
def joinerFits (before : List Nat) (n : Nat) (after : List Nat) : Bool :=
  let nearest (side : List Nat) (joins : Nat → Bool) : Bool :=
    ((side.dropWhile isTransparent).head?.map joins).getD false
  followsVirama before ||
    n == 0x200C && nearest before joinsOnward && nearest after joinsBackward

/-- A joiner. -/
def isJoiner (n : Nat) : Bool := n == 0x200C || n == 0x200D

def isArabicDigit (n : Nat) : Bool := 0x660 ≤ n && n ≤ 0x669

def isExtendedArabicDigit (n : Nat) : Bool := 0x6F0 ≤ n && n ≤ 0x6F9

/-- A character that is permitted beside some characters only. -/
def needsNeighbours (n : Nat) : Bool :=
  n == 0xB7 || n == 0x375 || n == 0x5F3 || n == 0x5F4 || n == 0x30FB || isArabicDigit n ||
    isExtendedArabicDigit n

/-- Whether such a character fits: a middle dot stands between two letters l, a Greek numeral sign in
front of a Greek letter, Hebrew marks behind a Hebrew one and a Japanese middle dot in a Japanese
label; Arabic digits of the two kinds do not mix. -/
def fitsNeighbours (label before : List Nat) (n : Nat) (after : List Nat) : Bool :=
  let isIn (bounds : Array Nat) (side : List Nat) : Bool :=
    (side.head?.map (inRanges bounds)).getD false
  if n = 0xB7 then before.head? == some 0x6C && after.head? == some 0x6C
  else if n = 0x375 then isIn greekBounds after
  else if n = 0x5F3 || n = 0x5F4 then isIn hebrewBounds before
  else if n = 0x30FB then label.any fun m => m != 0x30FB && isJapanese m
  else if isArabicDigit n then !label.any isExtendedArabicDigit
  else !label.any isArabicDigit

/-- Checks the characters of a label one after the other. -/
def checkChars (label before : List Nat) : List Nat → Except Fault Unit
  | [] => .ok ()
  | n :: after =>
    let place := before.length + 1
    if isPermitted n then checkChars label (n :: before) after
    else if isJoiner n then
      if joinerFits before n after then checkChars label (n :: before) after
      else .error (.joiner n place label)
    else if needsNeighbours n then
      if fitsNeighbours label before n after then checkChars label (n :: before) after
      else .error (.neighbours n place label)
    else .error (.notPermitted n place label)

/-! ## Directions -/

/-- A direction that makes a label one with characters from right to left. -/
def Direction.isRight : Direction → Bool
  | .rightToLeft | .arabicLetter | .arabicNumber => true
  | _ => false

/-- A direction that may end a label, from right to left or from left to right. -/
def Direction.mayEnd (fromRight : Bool) : Direction → Bool
  | .europeanNumber => true
  | .rightToLeft | .arabicLetter | .arabicNumber => fromRight
  | .leftToRight => !fromRight
  | _ => false

/-- Checks the directions of a label that is written from right to left; `number` is the kind of
number seen so far. -/
def checkFromRight (number : Option Direction) (place : Nat) :
    List Direction → Except Fault Unit
  | [] => .ok ()
  | d :: rest =>
    if d = .leftToRight then .error (.rightToLeft place)
    else if d = .arabicNumber || d = .europeanNumber then
      match number with
      | none => checkFromRight (some d) (place + 1) rest
      | some kind =>
        if kind = d then checkFromRight number (place + 1) rest else .error .mixedNumbers
    else checkFromRight number (place + 1) rest

/-- Checks the directions of a label that is written from left to right. -/
def checkFromLeft (place : Nat) : List Direction → Except Fault Unit
  | [] => .ok ()
  | d :: rest =>
    if d.isRight then .error (.leftToRight place) else checkFromLeft (place + 1) rest

/-- Checks the directions of a label; one without characters from right to left has none to mix. -/
def checkDirections (label : Label) : Except Fault Unit := do
  let directions := label.map direction
  if !directions.any Direction.isRight then return ()
  let fromRight ← match directions.head? with
    | some .rightToLeft | some .arabicLetter => pure true
    | some .leftToRight => pure false
    | _ => throw (.neutralStart label)
  if fromRight then checkFromRight none 1 directions else checkFromLeft 1 directions
  match directions.reverse.dropWhile (· == .mark) with
  | last :: _ => if last.mayEnd fromRight then return () else throw .neutralEnd
  | [] => throw .neutralEnd

/-! ## Labels and names -/

/-- Checks a label. -/
def checkLabel (label : Label) : Except Fault Unit := do
  if label.isEmpty then throw .emptyLabel
  if !Text.isNormal label then throw .notNormal
  if (label.drop 2).take 2 == [0x2D, 0x2D] then throw .innerHyphens
  if label.head? == some 0x2D || label.getLast? == some 0x2D then throw .outerHyphen
  if (label.head?.map Text.isMark).getD false then throw .leadingMark
  checkChars label [] label
  checkDirections label

/-- What stands in front of a Punycode. -/
def asciiMark : List Char := ['x', 'n', '-', '-']

/-- Checks a label in ASCII; behind the mark of an ASCII form stands the label that is checked. -/
def checkAscii (label : List Char) : Except Fault Unit :=
  if asciiMark.isPrefixOf label then
    let encoded := label.drop asciiMark.length
    if encoded.isEmpty then .error .noPunycode
    else if encoded.getLast? == some '-' then .error .finalHyphen
    else
      match Codec.Punycode.decode? false encoded with
      | some points => checkLabel points
      | none => .error .badPunycode
  else checkLabel (label.map Char.toNat)

/-- The most characters of a label in ASCII. -/
def labelLimit : Nat := 63

/-- The most characters of a name in ASCII, without a full stop at its end. -/
def nameLimit : Nat := 253

/-- A label in ASCII. -/
def asciiLabel (label : List Char) : Except Fault (List Char) := do
  let ascii ←
    if label.all (·.toNat < 0x80) then
      checkAscii label
      pure label
    else
      checkLabel (label.map Char.toNat)
      pure (asciiMark ++ Codec.Punycode.encode label)
  if labelLimit < ascii.length then throw .longLabel
  return ascii

/-- A full stop of any script. -/
def isDot (c : Char) : Bool := c == '.' || c == '。' || c == '．' || c == '｡'

/-- The labels of a host name. -/
def labels : List Char → List (List Char)
  | [] => [[]]
  | c :: rest =>
    if isDot c then [] :: labels rest
    else
      match labels rest with
      | first :: others => (c :: first) :: others
      | [] => [[c]]

/-- The labels of a host name in front of a full stop at its end, and whether there is one. -/
def properLabels (host : List Char) : Except Fault (List (List Char) × Bool) :=
  let parts := labels host
  if parts == [[]] then .error .emptyName
  else if parts.getLast? == some [] then .ok (parts.dropLast, true)
  else .ok (parts, false)

/-- A host name in ASCII. A full stop at its end is kept. -/
def hostName (host : List Char) : Except Fault (List Char) := do
  let (parts, dotted) ← properLabels host
  let ascii ← parts.mapM asciiLabel
  let name := ['.'].intercalate (if dotted then ascii ++ [[]] else ascii)
  if (if dotted then nameLimit + 1 else nameLimit) < name.length then throw .longName
  return name

/-- Checks a host name in ASCII whose first label is an ASCII form; other names are not checked. -/
def checkName (host : List Char) : Except Fault Unit := do
  if asciiMark.isPrefixOf host then
    let (parts, _) ← properLabels host
    parts.forM checkAscii

end PageScript.Url.Idna
