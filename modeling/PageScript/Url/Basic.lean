import PageScript.Url.Host

/-!
# Addresses

An address has a scheme, an authority (user, host and port), a path, a query and a fragment. Reading
one brings it into a normal form: scheme and host in lower case, the usual port dropped, dot segments
removed from an absolute path, and characters escaped that may not stand where they are.
-/

namespace PageScript

/-- An address in its parts, as they are written. -/
structure Url where
  scheme : List Char
  user : List Char
  host : List Char
  port : Option Int
  path : List Char
  query : Option (List Char)
  fragment : Option (List Char)
deriving DecidableEq

namespace Url

/-- Why a text is no address. -/
inductive Fault where
  | tooLong
  /-- A control character at a place. -/
  | control (c : Char) (offset : Nat)
  | host (what : HostFault) (name : String)
  | port (text : String)
  /-- A path behind an authority that does not start with a slash. -/
  | rootlessPath
  | doubleSlash
  | leadingColon
  /-- The text up to the first closing bracket of an address in brackets is no address. -/
  | cutAddress (text : String)
  | ipv4InBrackets
  | badFutureAddress
  /-- A bracket without the other one. -/
  | loneBracket
  /-- An authority with a character that stands for a separator in other writing. -/
  | lookalike (authority : String)

def Fault.message : Fault → String
  | .tooLong => "URL too long"
  | .control c offset =>
    s!"Invalid non-printable ASCII character in URL, {Text.quoted (String.ofList [c])} " ++
      s!"at position {offset}."
  | .host .badIpv4 name => "Invalid IPv4 address: " ++ Text.quoted name
  | .host .badIpv6 name => "Invalid IPv6 address: " ++ Text.quoted name
  | .host .badName name => "Invalid IDNA hostname: " ++ Text.quoted name
  | .port text => "Invalid port: " ++ Text.quoted text
  | .rootlessPath => "For absolute URLs, path must be empty or begin with '/'"
  | .doubleSlash => "Relative URLs cannot have a path starting with '//'"
  | .leadingColon => "Relative URLs cannot have a path starting with ':'"
  | .cutAddress text => Text.quoted text ++ " does not appear to be an IPv4 or IPv6 address"
  | .ipv4InBrackets => "An IPv4 address cannot be in brackets"
  | .badFutureAddress => "IPvFuture address is invalid"
  | .loneBracket => "Invalid IPv6 URL"
  | .lookalike authority =>
    "netloc '" ++ authority ++ "' contains invalid characters under NFKC normalization"

/-- The longest address that is read. -/
def lengthLimit : Nat := 65536

/-- A control character of ASCII. -/
def isControl (c : Char) : Bool := c.toNat < 0x20 || c.toNat == 0x7F

/-- A character of a scheme. -/
def isSchemeChar (c : Char) : Bool := c.isAlphanum || c == '+' || c == '.' || c == '-'

/-- The scheme at the start of a text and what follows its colon. -/
def scheme? (text : List Char) : Option (List Char × List Char) :=
  match text with
  | c :: _ =>
    if c.isAlpha then
      match text.dropWhile isSchemeChar with
      | ':' :: rest => some (text.takeWhile isSchemeChar, rest)
      | _ => none
    else none
  | [] => none

/-- A text cut into scheme, authority, path, query and fragment. -/
structure Parts where
  scheme : List Char
  authority : List Char
  path : List Char
  query : Option (List Char)
  fragment : Option (List Char)

/-- Cuts the text behind a scheme. -/
def Parts.behindScheme (scheme text : List Char) : Parts :=
  let (authority, rest) :=
    match text with
    | '/' :: '/' :: rest =>
      let inAuthority (c : Char) : Bool := c != '/' && c != '?' && c != '#'
      (rest.takeWhile inAuthority, rest.dropWhile inAuthority)
    | rest => ([], rest)
  let (rest, fragment) := Text.cutFirst '#' rest
  let (path, query) := Text.cutFirst '?' rest
  { scheme, authority, path, query, fragment }

/-- Cuts a text. -/
def Parts.ofText (text : List Char) : Parts :=
  match scheme? text with
  | some (scheme, rest) => .behindScheme scheme rest
  | none => .behindScheme [] text

/-- The parts with the scheme in lower case. -/
def Parts.lowered (parts : Parts) : Parts := { parts with scheme := parts.scheme.map Char.toLower }

/-- User, host and port of an authority: the user ends at the last at sign, and the host at the next
colon unless it stands in brackets. -/
def splitAuthority (authority : List Char) : List Char × List Char × List Char :=
  let (user, rest) := Text.cutLast '@' authority
  let (host, port) :=
    match rest with
    | '[' :: inner =>
      match Text.cutLast ']' inner with
      | (some address, after) => ('[' :: address ++ [']'], after)
      | (none, _) => (rest.takeWhile (· != ':'), rest.dropWhile (· != ':'))
    | rest => (rest.takeWhile (· != ':'), rest.dropWhile (· != ':'))
  (user.getD [], host, if port.head? = some ':' then port.tail else port)

/-- The port that goes without saying. -/
def usualPort? (scheme : List Char) : Option Int :=
  [("ftp", 21), ("http", 80), ("https", 443), ("ws", 80), ("wss", 443)].lookup
    (String.ofList scheme)

/-- The port that a text names; nothing for the usual one. -/
def portOf (scheme text : List Char) : Except Fault (Option Int) :=
  if text.isEmpty then .ok none
  else
    match Numeral.read (String.ofList text) with
    | .ok n => .ok (if usualPort? scheme = some n then none else some n)
    | .error _ => .error (.port (String.ofList text))

/-- Removes dot segments from the segments of a path, the ones kept so far in reverse order. -/
def keptSegments (kept : List (List Char)) : List (List Char) → List (List Char)
  | [] => kept.reverse
  | ['.'] :: rest => keptSegments kept rest
  | ['.', '.'] :: rest =>
    keptSegments (if kept.isEmpty || kept == [[]] then kept else kept.tail) rest
  | segment :: rest => keptSegments (segment :: kept) rest

/-- A path without dot segments. -/
def normalPath (path : List Char) : List Char :=
  let segments := Text.splitAtEach '/' path
  if segments.contains ['.'] || segments.contains ['.', '.'] then
    ['/'].intercalate (keptSegments [] segments)
  else path

/-- Printable ASCII without the characters of `except`. -/
def isSafe (except : String) (c : Char) : Bool :=
  0x20 ≤ c.toNat && c.toNat < 0x7F && !except.toList.contains c

def isUserSafe : Char → Bool := isSafe " \"#<>?`\x7b\x7d/;=@[\\]^|"

def isPathSafe : Char → Bool := isSafe " \"#<>?`\x7b\x7d"

def isQuerySafe : Char → Bool := isSafe " \"#<>"

def isFragmentSafe : Char → Bool := isSafe " \"<>`"

/-- What is wrong with a path, given whether there are a scheme and an authority. -/
def pathFault? (hasScheme hasAuthority : Bool) (path : List Char) : Option Fault :=
  if hasAuthority && !path.isEmpty && path.head? != some '/' then some .rootlessPath
  else if !hasScheme && !hasAuthority && ['/', '/'].isPrefixOf path then some .doubleSlash
  else if !hasScheme && !hasAuthority && path.head? == some ':' then some .leadingColon
  else none

/-- The address of cut parts, in normal form. -/
def ofParts (parts : Parts) : Except Fault Url := do
  let (user, host, port) := splitAuthority parts.authority
  let user := Codec.Percent.escapeAgain isUserSafe user
  let written ←
    match encodeHost host with
    | .ok written => pure written
    | .error what => throw (.host what (String.ofList host))
  let port ← portOf parts.scheme port
  let hasAuthority := !user.isEmpty || !written.isEmpty || port.isSome
  if let some fault := pathFault? (!parts.scheme.isEmpty) hasAuthority parts.path then throw fault
  let path :=
    if !parts.scheme.isEmpty || hasAuthority then normalPath parts.path else parts.path
  return {
    scheme := parts.scheme.map Char.toLower
    user
    host := written
    port
    path := Codec.Percent.escapeAgain isPathSafe path
    query := parts.query.map (Codec.Percent.escapeAgain isQuerySafe)
    fragment := parts.fragment.map (Codec.Percent.escapeAgain isFragmentSafe) }

/-- Reads an address. A colon at the start of the text counts for nothing. -/
def ofText (text : List Char) : Except Fault Url :=
  if lengthLimit < text.length then .error .tooLong
  else
    match text.findIdx? isControl, text.find? isControl with
    | some offset, some c => .error (.control c offset)
    | _, _ => ofParts (.ofText (if text.head? = some ':' then text.tail else text))

/-- Host and port as they are written. -/
def hostAndPort (url : Url) : List Char :=
  (if url.host.contains ':' then '[' :: url.host ++ [']'] else url.host) ++
    match url.port with
    | some port => ':' :: (toString port).toList
    | none => []

/-- The authority as it is written. -/
def authority (url : Url) : List Char :=
  (if url.user.isEmpty then [] else url.user ++ ['@']) ++ url.hostAndPort

/-- The name and the password of the user, without escapes. -/
def credentials (url : Url) : List Char × List Char :=
  let (name, password) := Text.cutFirst ':' url.user
  let plain (text : List Char) : List Char := Text.decodeLenient (Codec.Percent.bytesOf text)
  (plain name, plain (password.getD []))

/-- The address as it is written. -/
def toText (url : Url) : List Char :=
  (if url.scheme.isEmpty then [] else url.scheme ++ [':']) ++
    (if url.authority.isEmpty then [] else '/' :: '/' :: url.authority) ++ url.path ++
    (match url.query with
      | some query => '?' :: query
      | none => []) ++
    match url.fragment with
    | some fragment => '#' :: fragment
    | none => []

end Url

end PageScript
