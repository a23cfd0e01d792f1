import PageScript.Charset.EastAsian
import PageScript.Charset.Tables

/-!
# Character sets that are switched

Text in seven bits switches between character sets by escape sequences: an escape byte, marks that
tell which of two places gets the set, and a letter for the set. Two control bytes choose the place
that counts. Escape sequences of other kinds pass as they are.
-/

namespace PageScript.Charset

/-- A character set that an escape sequence can call. -/
inductive SwitchedSet where
  | ascii
  /-- ASCII with a yen sign and an overline. -/
  | roman
  | halfKana
  | pairs (sheets : List Cells)
  /-- A set that has its characters in the third place only: Latin or Greek. -/
  | latin
  | greek

/-- What is agreed on: the sets that can be called, by their letters, with one or two bytes. -/
structure Agreement where
  single : List (UInt8 × SwitchedSet) := []
  double : List (UInt8 × SwitchedSet) := []
  /-- Whether the control bytes choose the place. -/
  shifts : Bool := false
  /-- Whether there is a third place, for one character at a time. -/
  third : Bool := false
  /-- Whether a revision of a set may be announced in front of the escape sequence. -/
  revisions : Bool := false

structure Places where
  first : SwitchedSet := .ascii
  second : SwitchedSet := .ascii
  third : SwitchedSet := .ascii
  shifted : Bool := false
  /-- Within an escape sequence of another kind. -/
  passing : Bool := false

/-- Whether a byte ends an escape sequence. -/
def endsEscape (b : UInt8) : Bool := 0x40 ≤ b && b ≤ 0x5A

/-- How long an escape sequence may be. -/
def longestEscape : Nat := 16

/-- How many bytes an escape sequence has behind its escape byte, `done` of which are gone over:
`none` if the bytes break off, zero if it is too long. -/
def escapeLength (revisions : Bool) : Nat → Nat → List UInt8 → Option Nat
  | _, _, [] => none
  | done, skipped + 1, _ :: rest => escapeLength revisions (done + 1) skipped rest
  | done, 0, b :: rest =>
    if longestEscape ≤ done + 1 then some 0
    else if endsEscape b then some (done + 1)
    else if revisions && b == 0x26 && rest.head? == some 0x40 then
      escapeLength revisions (done + 1) 2 rest
    else escapeLength revisions (done + 1) 0 rest

/-- The place that a mark means, among those for sets of one byte. -/
def Places.put? (places : Places) (third : Bool) (mark : UInt8) (set : SwitchedSet) :
    Option Places :=
  if mark == 0x28 then some { places with first := set }
  else if mark == 0x29 then some { places with second := set }
  else if mark == 0x2E && third then some { places with third := set }
  else none

/-- The set with a letter. -/
def Agreement.single? (agreement : Agreement) (letter : UInt8) : Option SwitchedSet :=
  if letter == 0x42 then some .ascii else agreement.single.lookup letter

/-- The places behind an escape sequence, given without its escape byte. -/
def Agreement.escape? (agreement : Agreement) (places : Places) :
    List UInt8 → Option Places
  | [0x24, letter] =>
    (agreement.double.lookup letter).map fun set => { places with first := set }
  | [mark, letter] => (agreement.single? letter).bind (places.put? agreement.third mark)
  | [0x24, mark, letter] => (agreement.double.lookup letter).bind (places.put? false mark)
  | [_, _, 0x1B, 0x24, 0x42] =>
    if agreement.revisions then
      (agreement.double.lookup 0x42).map fun set => { places with first := set }
    else none
  | _ => none

/-- One character from the third place, by its byte. -/
def Places.thirdChar? (places : Places) (b : UInt8) : Option (List Char) :=
  if 0x80 ≤ b then none
  else
    match places.third with
    | .ascii => some [Char.ofNat b.toNat]
    | .latin => some [Char.ofNat (b.toNat + 0x80)]
    | .greek =>
      (byteTables.lookup "iso8859_7").bind fun table =>
        ((table.toList[b.toNat]?).filter (· != '�')).map ([·])
    | _ => none

/-- A character of the set that counts. -/
def switchedChar (places : Places) (a : UInt8) (rest : List UInt8) : Step Places :=
  match if places.shifted then places.second else places.first with
  | .ascii => .chars [Char.ofNat a.toNat] 0 places
  | .roman => .chars [romanChar a] 0 places
  | .halfKana => .ofTable (halfKana? (a + 0x80)) 0 places
  | .pairs sheets =>
    match rest with
    | [] => .cut [] places
    | b :: _ =>
      .ofTable (some ((if b < 0x80 then jisPair sheets (a + 0x80) (b + 0x80) else none).getD ['�']))
        1 places
  | _ => .bad 0 places

/-- What an escape byte opens. -/
def escapeStep (agreement : Agreement) (places : Places) (rest : List UInt8) : Step Places :=
  match rest with
  | [] => .cut [] places
  | b :: _ =>
    if [0x28, 0x29, 0x24, 0x2E, 0x26].contains b then
      match escapeLength agreement.revisions 0 0 rest with
      | none => .cut rest places
      | some 0 => .bad 0 places
      | some length =>
        match agreement.escape? places (rest.take length) with
        | some places => .chars [] length places
        | none => .bad length places
    else if agreement.third && b == 0x4E then
      match rest with
      | _ :: c :: _ =>
        match places.thirdChar? c with
        | some text => .chars text 2 places
        | none => .bad 2 places
      | _ => .cut rest places
    else .chars ['\x1b'] 0 { places with passing := true }

def switchedStep (agreement : Agreement) (places : Places) (a : UInt8) (rest : List UInt8) :
    Step Places :=
  let itself (places : Places) : Step Places := .chars [Char.ofNat a.toNat] 0 places
  if places.passing then itself { places with passing := !endsEscape a }
  else if a == 0x1B then escapeStep agreement places rest
  else if agreement.shifts && a == 0x0F then .chars [] 0 { places with shifted := false }
  else if agreement.shifts && a == 0x0E then .chars [] 0 { places with shifted := true }
  else if a == 0x0A then itself { places with shifted := false }
  else if a < 0x20 then itself places
  else if 0x80 ≤ a then .bad 0 places
  else switchedChar places a rest

/-- Text in the agreed sets, which starts in ASCII. -/
def switched (agreement : Agreement) (bytes : List UInt8) : Decoded :=
  decodeFrom (switchedStep agreement) (fun _ => []) {} 0 bytes


def plainJapanese : Agreement :=
  { single := [(0x4A, .roman)]
    double := [(0x42, .pairs [jis0208]), (0x40, .pairs [jis0208])]
    revisions := true }

def fullerJapanese : Agreement :=
  { plainJapanese with double := plainJapanese.double ++ [(0x44, .pairs [jis0212])] }

def kanaJapanese : Agreement :=
  { fullerJapanese with single := fullerJapanese.single ++ [(0x49, .halfKana)] }

def multilingual : Agreement :=
  { fullerJapanese with
    single := fullerJapanese.single ++ [(0x41, .latin), (0x46, .greek)]
    double := fullerJapanese.double ++ [(0x43, .pairs [ksx1001]), (0x41, .pairs [gb2312])]
    third := true }

/-- Japanese in the two planes of JIS X 0213; `letter` calls the first one. -/
def planesJapanese (letter : UInt8) (first second : List Cells) : Agreement :=
  { double := [(0x42, .pairs [jis0208]), (letter, .pairs first), (0x50, .pairs second)]
    revisions := true }

def korean : Agreement := { double := [(0x43, .pairs [ksx1001])], shifts := true }

end PageScript.Charset
