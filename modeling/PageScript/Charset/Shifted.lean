import PageScript.Charset.Wide
import PageScript.Codec.Base64

/-!
# UTF-7

ASCII stands for itself, and a plus sign opens a run of base64 digits, whose bits are units of UTF-16.
The run ends at the first byte that is no digit; a hyphen there belongs to it.
-/

namespace PageScript.Charset

/-- Where a run of digits stands: the bits left over from the last unit, their number, and a first
surrogate that waits for the second one. -/
structure Run where
  bits : Nat := 0
  count : Nat := 0
  high : Option Nat := none

/-- The bits of a digit. -/
def runDigit? (b : UInt8) : Option Nat :=
  if b < 0x80 then Codec.Base64.value? (Char.ofNat b.toNat) else none

/-- What a unit of a run adds to the text, and the surrogate that waits behind it. -/
def Run.unit (high : Option Nat) (unit : Nat) : Decoded × Option Nat :=
  let alone : Decoded × Option Nat :=
    if isHighSurrogate unit then ([], some unit)
    else if isLowSurrogate unit then ([none], none)
    else ([some (Char.ofNat unit)], none)
  match high with
  | none => alone
  | some first =>
    if isLowSurrogate unit then ([some (joinSurrogates first unit)], none)
    else (none :: alone.1, alone.2)

/-- Goes on by a digit. -/
def Run.push (run : Run) (digit : Nat) : Decoded × Run :=
  let bits := run.bits * 64 + digit
  let count := run.count + 6
  if 16 ≤ count then
    let rest := Nat.pow 2 (count - 16)
    let (text, high) := Run.unit run.high (bits / rest)
    (text, { bits := bits % rest, count := count - 16, high })
  else ([], { run with bits, count })

/-- Whether bits are left over that a whole run does not leave. -/
def Run.isBroken (run : Run) : Bool := 6 ≤ run.count || (0 < run.count && run.bits != 0)

/-- A byte outside of a run. -/
def plainStep (b : UInt8) (rest : List UInt8) : Step (Option Run) :=
  if b == 0x2B then
    match rest with
    | 0x2D :: _ => .chars ['+'] 1 none
    | c :: _ => if (runDigit? c).isNone then .bad 1 none else .chars [] 0 (some {})
    | [] => .chars [] 0 (some {})
  else if b < 0x80 then .chars [Char.ofNat b.toNat] 0 none
  else .bad 0 none

def utf7Step (state : Option Run) (b : UInt8) (rest : List UInt8) : Step (Option Run) :=
  match state with
  | none => plainStep b rest
  | some run =>
    match runDigit? b with
    | some digit =>
      let (text, run) := run.push digit
      { text, next := some run }
    | none =>
      if run.isBroken then .bad 0 none
      else
        let lone : Decoded := if run.high.isSome && b < 0x80 then [none] else []
        if b == 0x2D then { text := lone, next := none }
        else
          let step := plainStep b rest
          { step with text := lone ++ step.text }

def utf7 (bytes : List UInt8) : Decoded :=
  decodeFrom utf7Step
    (fun
      | none => []
      | some run => if run.high.isSome || run.isBroken then [none] else [])
    none 0 bytes

end PageScript.Charset
