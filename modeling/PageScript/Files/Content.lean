import PageScript.Files.Tree
import PageScript.Text.Utf8

/-!
# Texts of files

Files hold UTF-8. A page may start with a byte order mark, which does not count, and every line end
in it is read as a line feed.
-/

namespace PageScript.Files

/-- The bytes of a text that is not UTF-8. -/
structure TextFault where
  /-- How many bytes there are. -/
  size : Nat
  fault : Text.Utf8Fault

/-- A byte in hexadecimal. -/
def byteText (b : UInt8) : String := "0x" ++ String.ofList (Text.hexDigits 2 b.toNat)

def TextFault.message (f : TextFault) : String :=
  let count := f.fault.more.length + 1
  let start := f.size - f.fault.remaining - count
  let which :=
    if count = 1 then s!"byte {byteText f.fault.first} in position {start}"
    else s!"bytes in position {start}-{start + count - 1}"
  "'utf-8' codec can't decode " ++ which ++ ": " ++ f.fault.what.message

/-- The text of bytes in UTF-8. -/
def decode (bytes : List UInt8) : Except TextFault (List Char) :=
  (Text.decodeStrict bytes).mapError fun fault => { size := bytes.length, fault }

/-- The bytes without a byte order mark, or without the start of one that is cut short. -/
def skipByteOrderMark (bytes : List UInt8) : List UInt8 :=
  if bytes.length < Text.byteOrderMark.length && bytes.isPrefixOf Text.byteOrderMark then []
  else if Text.byteOrderMark.isPrefixOf bytes then bytes.drop Text.byteOrderMark.length
  else bytes

/-- `text` with every line end replaced by a line feed. -/
def universalLines : List Char → List Char
  | [] => []
  | '\r' :: '\n' :: rest => '\n' :: universalLines rest
  | '\r' :: rest => '\n' :: universalLines rest
  | c :: rest => c :: universalLines rest

/-- The text of a page. -/
def pageText (bytes : List UInt8) : Except TextFault String :=
  (decode (skipByteOrderMark bytes)).map fun text => String.ofList (universalLines text)

end PageScript.Files
