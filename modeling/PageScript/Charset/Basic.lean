import PageScript.Charset.Aliases
import PageScript.Charset.Designated
import PageScript.Charset.Escaped
import PageScript.Charset.Shifted
import PageScript.Charset.Tables
import PageScript.Codec.Punycode

/-!
# Character sets by name

A character set is known by its name and by other names; case, blanks and punctuation between words do
not count. Some names belong to encodings of other things than text, which decode nothing here.
-/

namespace PageScript.Charset

/-- Why bytes cannot be decoded at all. -/
inductive Fault where
  /-- Units of so many bits with no mark that tells their order. -/
  | unmarked (bits : Nat)
  /-- A byte beyond ASCII at a position where only ASCII can stand. -/
  | notAscii (byte : UInt8) (position : Nat)
  /-- The name is one of an encoding of bytes in bytes. -/
  | bytesOnly
  /-- The name is one of an encoding of text in text. -/
  | textOnly
  /-- The encoding has no replacement for bad bytes. -/
  | noReplacement
  /-- The name is kept for what cannot be decoded. -/
  | undefined
deriving DecidableEq

/-- A byte in hexadecimal. -/
def hexByte (b : UInt8) : String :=
  let digits := Nat.toDigits 16 b.toNat
  String.ofList (if digits.length < 2 then '0' :: digits else digits)

def Fault.message : Fault → String
  | .unmarked bits => s!"UTF-{bits} stream does not start with BOM"
  | .notAscii byte position =>
    "'ascii' codec can't decode byte 0x" ++ hexByte byte ++ s!" in position {position}" ++
      ": ordinal not in range(128)"
  | .bytesOnly => ""
  | .textOnly => "descriptor 'translate' for 'str' objects doesn't apply to a 'bytes' object"
  | .noReplacement => "Unsupported error handling replace"
  | .undefined => "undefined encoding"

/-- The name in its plain form: small letters, digits and points, with one underscore for whatever
stands between them. -/
def plainName (name : String) : String :=
  let isKept (c : Char) : Bool := c.isAlphanum || c == '.'
  let rec go (gap : Bool) : List Char → List Char
    | [] => []
    | c :: rest =>
      if isKept c then (if gap then ['_', c.toLower] else [c.toLower]) ++ go false rest
      else go true rest
  String.ofList (go false (name.toList.dropWhile (!isKept ·)))

/-- A decoder for whole contents. -/
abbrev Decoder := List UInt8 → Except Fault Decoded

/-- Units whose order a mark has to tell; too few bytes for a mark are bad. -/
def marked (bits : Nat) (marked? : List UInt8 → Option (ByteOrder × List UInt8))
    (decode : ByteOrder → List UInt8 → Decoded) : Decoder := fun bytes =>
  match marked? bytes with
  | some (order, rest) => .ok (decode order rest)
  | none => if bytes.length * 8 < bits then .ok [none] else .error (.unmarked bits)

/-- Punycode, with what cannot be read left out. -/
def punycode : Decoder := fun bytes =>
  let digits := (bytes.reverse.takeWhile (· != 0x2D)).reverse
  let basic := (bytes.take (bytes.length - digits.length)).dropLast
  match digits.findIdx? (0x80 ≤ ·) with
  | some position => .error (.notAscii (digits.getD position 0) position)
  | none =>
    let text := (ascii basic).replaced ++ (if basic.isEmpty then [] else ['-']) ++
      digits.map fun b => Char.ofNat b.toNat
    .ok (((Codec.Punycode.decode? true text).getD []).map fun n =>
      if n.isValidChar then some (Char.ofNat n) else none)

/-- The decoders of Unicode. -/
def unicodeDecoders : List (String × Decoder) := [
  ("utf_8", .ok ∘ utf8), ("utf_8_sig", .ok ∘ utf8Marked), ("utf_7", .ok ∘ utf7),
  ("utf_16", marked 16 marked16? utf16), ("utf_16_le", .ok ∘ utf16 .lowFirst),
  ("utf_16_be", .ok ∘ utf16 .highFirst), ("utf_32", marked 32 marked32? utf32),
  ("utf_32_le", .ok ∘ utf32 .lowFirst), ("utf_32_be", .ok ∘ utf32 .highFirst),
  ("unicode_escape", .ok ∘ escaped), ("raw_unicode_escape", .ok ∘ rawEscaped),
  ("punycode", punycode)]

/-- The decoders of the plain character sets of one byte. -/
def plainDecoders : List (String × Decoder) := [
  ("ascii", .ok ∘ ascii), ("latin_1", .ok ∘ latin1), ("iso8859_1", .ok ∘ latin1),
  ("charmap", .ok ∘ latin1)]

/-- The decoders of East Asian character sets. -/
def eastAsianDecoders : List (String × (List UInt8 → Decoded)) := [
  ("gb2312", aboveAscii (pairStep gb2312Pair)), ("gbk", aboveAscii (pairStep gbkPair)),
  ("gb18030", aboveAscii gb18030Step), ("hz", hz),
  ("big5", aboveAscii (pairStep (big5Pair [big5Only, big5]))),
  ("cp950", aboveAscii (pairStep (big5Pair [windowsBig5, big5Only, big5]))),
  ("big5hkscs", aboveAscii (pairStep (big5Pair [hongKong, big5]))),
  ("euc_kr", aboveAscii eucKrStep), ("cp949", aboveAscii (pairStep windowsKoreanPair)),
  ("johab", aboveAscii (pairStep johabPair)),
  ("shift_jis", aboveAscii (shiftedStep [jis0208] [])), ("cp932", aboveAscii windowsJapaneseStep),
  ("shift_jis_2004", shiftedRoman (shiftedOverride :: firstPlane) secondPlane),
  ("shift_jisx0213", shiftedRoman (shiftedOverride :: firstPlaneEarly) secondPlaneEarly),
  ("euc_jp", aboveAscii (eucJpStep [jis0208] [jis0212])),
  ("euc_jis_2004", aboveAscii (eucJpStep firstPlane secondPlane)),
  ("euc_jisx0213", aboveAscii (eucJpStep firstPlaneEarly secondPlaneEarly)),
  ("iso2022_jp", switched plainJapanese), ("iso2022_jp_1", switched fullerJapanese),
  ("iso2022_jp_2", switched multilingual), ("iso2022_jp_ext", switched kanaJapanese),
  ("iso2022_jp_3",
    switched (planesJapanese 0x4F firstPlaneEarly [jis0213SecondEarly, jis0213Second])),
  ("iso2022_jp_2004", switched (planesJapanese 0x51 firstPlane [jis0213Second])),
  ("iso2022_kr", switched korean)]

/-- The names of encodings that decode no bytes to text. -/
def otherEncodings : List (String × Fault) := [
  ("base64_codec", .bytesOnly), ("bz2_codec", .bytesOnly), ("hex_codec", .bytesOnly),
  ("quopri_codec", .bytesOnly), ("uu_codec", .bytesOnly), ("zlib_codec", .bytesOnly),
  ("rot_13", .textOnly), ("idna", .noReplacement), ("undefined", .undefined)]

/-- The decoder with a name in its first form. -/
def decoder? (name : String) : Option Decoder :=
  (unicodeDecoders.lookup name).or <|
  (plainDecoders.lookup name).or <|
  ((byteTables.lookup name).map fun table => (.ok ∘ ofByteTable table : Decoder)).or <|
  ((eastAsianDecoders.lookup name).map fun decode => (.ok ∘ decode : Decoder)).or <|
  (otherEncodings.lookup name).map fun fault => (fun _ => .error fault : Decoder)

/-- The decoder with a name in any form. -/
def named? (name : String) : Option Decoder :=
  let plain := plainName name
  let other := (aliases.lookup plain).or
    (aliases.lookup (String.ofList (plain.toList.map fun c => if c == '.' then '_' else c)))
  (other.bind decoder?).or (decoder? plain)

end PageScript.Charset
