/-!
# Decoding step by step

A decoder goes over bytes from the left. At each byte it tells what text stands there, how many of the
bytes behind it belong to that text, and in which state it goes on. Bytes that mean nothing are kept
apart from characters, so that one reader may put a replacement character for them and another one
refuse the whole.
-/

namespace PageScript.Charset

/-- Text with a `none` for each sequence of bytes that means nothing. -/
abbrev Decoded := List (Option Char)

/-- The text with a replacement character for what means nothing. -/
def Decoded.replaced (text : Decoded) : List Char := text.map (·.getD '�')

/-- The text, if all of it means something. -/
def Decoded.whole? (text : Decoded) : Option (List Char) := text.mapM id

/-- What a decoder finds at a byte. -/
structure Step (σ : Type) where
  text : Decoded
  /-- How many bytes it takes behind the first one. -/
  more : Nat := 0
  next : σ

namespace Step

variable {σ : Type}

/-- Characters that take `more` bytes behind the first one. -/
def chars (text : List Char) (more : Nat) (next : σ) : Step σ :=
  { text := text.map some, more, next }

/-- A byte that means nothing together with `more` bytes behind it. -/
def bad (more : Nat) (next : σ) : Step σ := { text := [none], more, next }

/-- A character that the bytes break off in, with all that is left of them. -/
def cut (rest : List UInt8) (next : σ) : Step σ := bad rest.length next

/-- What a table knows, in the place of `more + 1` bytes, which mean nothing if it keeps their cell
free. The first byte alone is bad if it does not know them. -/
def ofTable (found : Option (List Char)) (more : Nat) (next : σ) : Step σ :=
  match found with
  | some ['�'] => bad more next
  | some text => chars text more next
  | none => bad 0 next

end Step

/-- Decodes with `step`, the first `skipped` bytes being taken already; `finish` tells what the end of
the bytes means in a state. -/
def decodeFrom {σ : Type} (step : σ → UInt8 → List UInt8 → Step σ) (finish : σ → Decoded) :
    σ → Nat → List UInt8 → Decoded
  | state, _, [] => finish state
  | state, skipped + 1, _ :: rest => decodeFrom step finish state skipped rest
  | state, 0, b :: rest =>
    let found := step state b rest
    found.text ++ decodeFrom step finish found.next found.more rest

/-- Decodes with a decoder that has no states. -/
def decodeEach (step : UInt8 → List UInt8 → Step Unit) (bytes : List UInt8) : Decoded :=
  decodeFrom (fun _ => step) (fun _ => []) () 0 bytes

end PageScript.Charset
