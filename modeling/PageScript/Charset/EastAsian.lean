import PageScript.Charset.Decoding
import PageScript.Charset.Japanese
import PageScript.Charset.Korean
import PageScript.Charset.SimplifiedChinese
import PageScript.Charset.TraditionalChinese

/-!
# East Asian character sets

ASCII stands for itself, and bytes from the upper half come in pairs, seldom in longer groups. A pair
without a meaning costs its first byte only, so that the second one is looked at again.
-/

namespace PageScript.Charset

/-- ASCII, and what `upper` finds at other bytes. -/
def aboveAscii (upper : UInt8 → List UInt8 → Step Unit) (bytes : List UInt8) : Decoded :=
  decodeEach (fun b rest =>
    if b < 0x80 then .chars [Char.ofNat b.toNat] 0 () else upper b rest) bytes

/-- A pair of bytes that a table knows. -/
def pairStep (table : UInt8 → UInt8 → Option (List Char)) (a : UInt8) : List UInt8 → Step Unit
  | [] => .cut [] ()
  | b :: _ => .ofTable (table a b) 1 ()

/-! ## Chinese -/

def gb2312Pair (a b : UInt8) : Option (List Char) := (cell94? a b).bind (lookUp [Charset.gb2312])

/-- What GBK has for a pair: its own cell, or the one of GB 2312. -/
def gbkPair (a b : UInt8) : Option (List Char) :=
  ((cell190? a b).bind (lookUp [gbkAdded])).or (gb2312Pair a b)

def gb18030Pair (a b : UInt8) : Option (List Char) :=
  ((cell190? a b).bind (lookUp [gb18030Added])).or (gbkPair a b)

/-- How many sequences of four bytes stand for characters of the first plane. -/
def fourByteCount : Nat := 39420

/-- The character of a sequence of four bytes, by the places of the bytes. -/
def fourByteChar? (a b c d : Nat) : Option (List Char) :=
  let number (a : Nat) : Nat := ((a * 10 + b) * 126 + c) * 10 + d
  if a < 4 then
    if fourByteCount ≤ number a then none
    else
      ((fourByteRuns.takeWhile (·.1 ≤ number a)).getLast?).map fun (start, first) =>
        [Char.ofNat (first + (number a - start))]
  else if 15 ≤ a then
    let point := 0x10000 + number (a - 15)
    if point ≤ 0x10FFFF then some [Char.ofNat point] else none
  else none

/-- Whether a second byte belongs to a sequence of four. -/
def isFourByteMark (b : UInt8) : Bool := 0x30 ≤ b && b ≤ 0x39

def gb18030Step (a : UInt8) (rest : List UInt8) : Step Unit :=
  match rest with
  | [] => .cut [] ()
  | b :: after =>
    if isFourByteMark b then
      match after with
      | c :: d :: _ =>
        match placeIn? 0x81 0xFE a, placeIn? 0x81 0xFE c, placeIn? 0x30 0x39 d with
        | some i, some j, some k => .ofTable (fourByteChar? i (b.toNat - 0x30) j k) 3 ()
        | _, _, _ => .bad 0 ()
      | _ => .cut rest ()
    else .ofTable (gb18030Pair a b) 1 ()

/-- HZ writes the pairs of GB 2312 in seven bits; a tilde and a brace switch to them and back. The
state tells whether pairs are written. -/
def hzStep (pairs : Bool) (a : UInt8) (rest : List UInt8) : Step Bool :=
  if a == 0x7E then
    match rest with
    | [] => .cut [] pairs
    | b :: _ =>
      if b == 0x7E && !pairs then .chars ['~'] 1 pairs
      else if b == 0x7B && !pairs then .chars [] 1 true
      else if b == 0x0A && !pairs then .chars [] 1 pairs
      else if b == 0x7D && pairs then .chars [] 1 false
      else .bad 0 pairs
  else if 0x80 ≤ a then .bad 0 pairs
  else if !pairs then .chars [Char.ofNat a.toNat] 0 pairs
  else
    match rest with
    | [] => .cut [] pairs
    | b :: _ => .ofTable (if b < 0x80 then gb2312Pair (a + 0x80) (b + 0x80) else none) 1 pairs

def hz (bytes : List UInt8) : Decoded := decodeFrom hzStep (fun _ => []) false 0 bytes

def big5Pair (sheets : List Cells) (a b : UInt8) : Option (List Char) :=
  (cell157? a b).bind (lookUp sheets)

/-! ## Korean -/

/-- The consonants that start a syllable, in order. -/
def leadConsonants : List Char := "ㄱㄲㄴㄷㄸㄹㅁㅂㅃㅅㅆㅇㅈㅉㅊㅋㅌㅍㅎ".toList

/-- The consonants that end a syllable, in order. -/
def tailConsonants : List Char := "ㄱㄲㄳㄴㄵㄶㄷㄹㄺㄻㄼㄽㄾㄿㅀㅁㅂㅄㅅㅆㅇㅈㅊㅋㅌㅍㅎ".toList

/-- The first of the vowels, which are in the order of syllables. -/
def firstVowel : Nat := 0x314F

/-- A syllable by the places of its parts; the place 0 of the last part stands for none. -/
def syllable (lead vowel tail : Nat) : Char := Char.ofNat (0xAC00 + (lead * 21 + vowel) * 28 + tail)

def ksx1001Pair (a b : UInt8) : Option (List Char) := (cell94? a b).bind (lookUp [ksx1001])

/-- A letter of the Korean standard, by its second byte. -/
def letterAt (b : UInt8) : Char := Char.ofNat (0x3131 + (b.toNat - 0xA1))

/-- The first byte of letters, and the second byte of the filler that opens a spelt syllable. -/
def letterRow : UInt8 := 0xA4
def filler : UInt8 := 0xD4

/-- A syllable that is spelt by the letters behind a filler. -/
def speltSyllable? (lead vowel tail : UInt8) : Option Char := do
  let lead ← (placeIn? 0xA1 0xBE lead).bind fun _ => leadConsonants.idxOf? (letterAt lead)
  let vowel ← placeIn? 0xBF 0xD3 vowel
  let tail ←
    if tail == filler then some 0
    else (placeIn? 0xA1 0xBE tail).bind fun _ =>
      (tailConsonants.idxOf? (letterAt tail)).map (· + 1)
  return syllable lead vowel tail

def eucKrStep (a : UInt8) (rest : List UInt8) : Step Unit :=
  match rest with
  | [] => .cut [] ()
  | b :: after =>
    if a == letterRow && b == filler then
      match after with
      | r1 :: lead :: r2 :: vowel :: r3 :: tail :: _ =>
        if r1 == letterRow && r2 == letterRow && r3 == letterRow then
          .ofTable ((speltSyllable? lead vowel tail).map ([·])) 7 ()
        else .bad 0 ()
      | _ => .cut rest ()
    else .ofTable (ksx1001Pair a b) 1 ()

/-- The code points of syllables. -/
def firstSyllable : Nat := 0xAC00
def lastSyllable : Nat := 0xD7A3

/-- The syllables of the Korean standard, in order. -/
def standardSyllables : List Nat :=
  (ksx1001.steps.flatMap fun (_, first, distances) =>
    stepPoints first.toNat distances.toList).filter fun n => firstSyllable ≤ n && n ≤ lastSyllable

/-- The number behind `n` others that a sorted list lacks, from `first` on. -/
def lacking (first n : Nat) : List Nat → Nat
  | [] => first + n
  | known :: rest =>
    if first + n < known then first + n else lacking (known + 1) (n - (known - first)) rest

/-- The syllable behind `n` others that the Korean standard lacks. -/
def otherSyllable? (n : Nat) : Option Char :=
  let point := lacking firstSyllable n standardSyllables
  if point ≤ lastSyllable then some (Char.ofNat point) else none

/-- The number of a pair among those for the other syllables: in full rows, and then in front of the
pairs of the standard. -/
def otherSyllablePlace? (a b : UInt8) : Option Nat :=
  let column := placeInEach? b [(0x41, 0x5A), (0x61, 0x7A), (0x81, 0xFE)]
  match placeIn? 0x81 0xA0 a, placeIn? 0xA1 0xC6 a, column with
  | some row, _, some column => some (row * 178 + column)
  | none, some row, some column => if column < 84 then some (32 * 178 + row * 84 + column) else none
  | _, _, _ => none

def windowsKoreanPair (a b : UInt8) : Option (List Char) :=
  (ksx1001Pair a b).or (((otherSyllablePlace? a b).bind otherSyllable?).map ([·]))

/-- A part of a syllable in five bits. -/
inductive SyllablePart where
  | absent
  | fill
  | place (n : Nat)

/-- The part in ranges of five-bit numbers that follow each other; `fill` is the filler. -/
def SyllablePart.ofBits (fill : Nat) (ranges : List (UInt8 × UInt8)) (bits : Nat) : SyllablePart :=
  if bits == fill then .fill
  else
    match placeInEach? bits.toUInt8 ranges with
    | some n => .place n
    | none => .absent

/-- A syllable or a single letter, by its parts. -/
def ofParts : SyllablePart → SyllablePart → SyllablePart → Option Char
  | .place lead, .place vowel, .place tail => some (syllable lead vowel (tail + 1))
  | .place lead, .place vowel, .fill => some (syllable lead vowel 0)
  | .place lead, .fill, .fill => leadConsonants[lead]?
  | .fill, .place vowel, .fill => some (Char.ofNat (firstVowel + vowel))
  | .fill, .fill, .place tail => tailConsonants[tail]?
  | .fill, .fill, .fill => some '\u3000'
  | _, _, _ => none

/-- The cell of the Korean standard for a pair behind the syllables. -/
def johabCell? (a b : UInt8) : Option Nat :=
  match placeInEach? a [(0xD9, 0xDE), (0xE0, 0xF9)], placeInEach? b [(0x31, 0x7E), (0x91, 0xFE)] with
  | some row, some column =>
    if a == 0xDA && 0xA1 ≤ b && b ≤ 0xD3 then none
    else
      let first := if row < 6 then 2 * row else 2 * row + 29
      some (first * 94 + column)
  | _, _ => none

/-- Johab writes a syllable by its three parts, five bits each. -/
def johabPair (a b : UInt8) : Option (List Char) :=
  if a < 0xD8 then
    let bits := a.toNat * 0x100 + b.toNat
    (ofParts (.ofBits 1 [(2, 20)] (bits / 0x400 % 0x20))
      (.ofBits 2 [(3, 7), (10, 15), (18, 23), (26, 29)] (bits / 0x20 % 0x20))
      (.ofBits 1 [(2, 17), (19, 29)] (bits % 0x20))).map ([·])
  else (johabCell? a b).bind (lookUp [ksx1001])

/-! ## Japanese -/

/-- A katakana letter of half width. -/
def halfKana? (b : UInt8) : Option (List Char) :=
  (placeIn? 0xA1 0xDF b).map fun n => [Char.ofNat (0xFF61 + n)]

def jisPair (sheets : List Cells) (a b : UInt8) : Option (List Char) :=
  (cell94? a b).bind (lookUp sheets)

/-- Half-width katakana behind 0x8E, the `second` sheets behind 0x8F, else the `first` ones. -/
def eucJpStep (first second : List Cells) (a : UInt8) (rest : List UInt8) : Step Unit :=
  if a == 0x8E then
    match rest with
    | [] => .cut [] ()
    | b :: _ => .ofTable (halfKana? b) 1 ()
  else if a == 0x8F then
    match rest with
    | b :: c :: _ => .ofTable (jisPair second b c) 2 ()
    | _ => .cut rest ()
  else pairStep (jisPair first) a rest

/-- The rows of the second plane of JIS X 0213, as pairs in a shifted layout reach them. -/
def secondPlaneRows : List Nat := [0, 7, 2, 3, 4, 11, 12, 13, 14] ++ (List.range 17).map (· + 77)

/-- A pair in the shifted layout: the `first` sheets in the first 94 rows, the `second` ones behind. -/
def shiftedPair (first second : List Cells) (a b : UInt8) : Option (List Char) :=
  match cell188? a b with
  | none => none
  | some cell =>
    if cell < 94 * 94 then lookUp first cell
    else (secondPlaneRows[cell / 94 - 94]?).bind fun row => lookUp second (row * 94 + cell % 94)

/-- Half-width katakana or a pair in the shifted layout. -/
def shiftedStep (first second : List Cells) (a : UInt8) (rest : List UInt8) : Step Unit :=
  match halfKana? a with
  | some text => .chars text 0 ()
  | none =>
    if a == 0x80 || a == 0xA0 || 0xFD ≤ a then .bad 0 ()
    else pairStep (shiftedPair first second) a rest

/-- Where ASCII lacks the backslash and the tilde, a yen sign and an overline stand. -/
def romanChar (b : UInt8) : Char :=
  if b == 0x5C then '¥' else if b == 0x7E then '‾' else Char.ofNat b.toNat

def shiftedRoman (first second : List Cells) (bytes : List UInt8) : Decoded :=
  decodeEach (fun a rest =>
    if a < 0x80 then .chars [romanChar a] 0 () else shiftedStep first second a rest) bytes

/-- What the Japanese character set of Windows has for a pair: its own cell, one for private use, or
the one of JIS X 0208. -/
def windowsJapanesePair (a b : UInt8) : Option (List Char) :=
  match cell188? a b with
  | none => none
  | some cell =>
    if 0xF0 ≤ a && a ≤ 0xF9 then some [Char.ofNat (0xE000 + (cell - 47 * 188))]
    else lookUp [windowsJapanese, jis0208] cell

def windowsJapaneseStep (a : UInt8) (rest : List UInt8) : Step Unit :=
  match halfKana? a with
  | some text => .chars text 0 ()
  | none =>
    if a == 0x80 then .chars ['\u0080'] 0 ()
    else if a == 0xA0 then .chars ['\uf8f0'] 0 ()
    else if 0xFD ≤ a then .chars [Char.ofNat (0xF8F1 + (a.toNat - 0xFD))] 0 ()
    else pairStep windowsJapanesePair a rest

/-- The sheets of JIS X 0213 as it is, and as it was in the beginning. -/
def firstPlane : List Cells := [jis0208, jis0213First]
def secondPlane : List Cells := [jis0212, jis0213Second]
def firstPlaneEarly : List Cells := jis0213FirstEarly :: firstPlane
def secondPlaneEarly : List Cells := jis0213SecondEarly :: secondPlane

end PageScript.Charset
