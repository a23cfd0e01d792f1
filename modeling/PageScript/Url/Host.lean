import PageScript.Codec.Percent
import PageScript.Numeral.Literal
import PageScript.Text.Cut
import PageScript.Text.Lowering
import PageScript.Url.Idna

/-!
# Hosts

A host is an address of four numbers, an address in brackets, or a name. A name is written in lower
case, with the characters escaped that may not stand in it; a name beyond ASCII is written in the
ASCII form of international names.
-/

namespace PageScript.Url

/-- Why a host is none. -/
inductive HostFault where
  | badIpv4
  | badIpv6
  | badName
deriving DecidableEq, Repr

/-- Four numbers with points between them, and nothing else there: `1-2-3-4` is a name, and so are
digits in a row. -/
def looksLikeIpv4 (host : List Char) : Bool :=
  let parts := Text.splitAtEach '.' host
  parts.length == 4 && parts.all fun part => !part.isEmpty && part.all Char.isDigit

/-- A number up to 255 without leading zeros. -/
def isOctet (text : List Char) : Bool :=
  !text.isEmpty && text.length ≤ 3 && text.all Char.isDigit &&
    (text.length == 1 || text.head? != some '0') &&
    Numeral.ofDigits 10 (text.map fun c => c.toNat - 0x30) ≤ 255

/-- Four numbers up to 255 with points between them. -/
def isIpv4 (host : List Char) : Bool :=
  let parts := Text.splitAtEach '.' host
  parts.length == 4 && parts.all isOctet

/-- A group of an address in brackets. -/
def isHextet (text : List Char) : Bool :=
  !text.isEmpty && text.length ≤ 4 && text.all Codec.Percent.isHex

/-- The groups of an address in brackets; four numbers at its end count for two groups. -/
def hextetParts? (address : List Char) : Option (List (List Char)) :=
  let parts := Text.splitAtEach ':' address
  match parts.getLast? with
  | some last =>
    if last.contains '.' then
      if isIpv4 last then some (parts.dropLast ++ [['0'], ['0']]) else none
    else some parts
  | none => none

/-- Eight groups, or fewer with one gap in them. -/
def areHextets (parts : List (List Char)) : Bool :=
  let gaps := ((parts.drop 1).dropLast.filter List.isEmpty).length
  let startsEmpty := parts.head? == some []
  let endsEmpty := parts.getLast? == some []
  if gaps = 0 then parts.length == 8 && parts.all isHextet
  else
    gaps == 1 && parts.length ≤ 9 && (!startsEmpty || parts.tail.head? == some []) &&
      (!endsEmpty || parts.dropLast.getLast? == some []) &&
      (parts.filter (!·.isEmpty)).all isHextet && (parts.filter (!·.isEmpty)).length ≤ 7

/-- An address as it stands between brackets, with a zone or without. -/
def isIpv6 (text : List Char) : Bool :=
  let (address, zone) := Text.cutFirst '%' text
  let zoneFits := match zone with
    | some zone => !zone.isEmpty && !zone.contains '%'
    | none => true
  zoneFits && (Text.splitAtEach ':' address).length ≥ 3 &&
    match hextetParts? address with
    | some parts => areHextets parts
    | none => false

/-- A character of a host name that is not escaped. -/
def isHostSafe (c : Char) : Bool :=
  Codec.Percent.isUnreserved c || "!$&'()*+,;=\"`\x7b\x7d%|\\".toList.contains c

/-- The written form of a host. -/
def encodeHost (host : List Char) : Except HostFault (List Char) :=
  if host.isEmpty then .ok []
  else if looksLikeIpv4 host then if isIpv4 host then .ok host else .error .badIpv4
  else if host.head? == some '[' && host.getLast? == some ']' then
    let inner := host.tail.dropLast
    if isIpv6 inner then .ok inner else .error .badIpv6
  else if host.all (·.toNat < 0x80) then
    .ok (Codec.Percent.escapeAgain isHostSafe (host.map Char.toLower))
  else
    match Idna.hostName (Text.lower (String.ofList host)).toList with
    | .ok name => .ok name
    | .error _ => .error .badName

end PageScript.Url
