import PageScript.Url.Basic

/-!
# References

A reference is resolved against an address: a relative path replaces what follows the last slash of
the address, empty segments inside the path vanish, and dot segments are removed. Query and fragment
of the address are dropped. The last segment of a path may end in parameters behind a semicolon, which
do not count for dot segments.
-/

namespace PageScript.Url

/-- The schemes whose addresses have paths that references are relative to. -/
def relativeSchemes : List String :=
  ["", "ftp", "http", "gopher", "nntp", "imap", "wais", "file", "https", "shttp", "mms", "prospero",
    "rtsp", "rtspu", "sftp", "svn", "svn+ssh", "ws", "wss"]

/-- The schemes whose addresses have parameters behind the last segment. -/
def parameterSchemes : List String :=
  ["", "ftp", "hdl", "prospero", "http", "imap", "https", "shttp", "rtsp", "rtspu", "sip", "sips",
    "mms", "sftp", "tel"]

/-- The path in front of its parameters, and those. -/
def cutParameters (scheme path : List Char) : List Char × List Char :=
  if parameterSchemes.contains (String.ofList scheme) then
    let (directory, last) := Text.cutLast '/' path
    let (last, parameters) := Text.cutFirst ';' last
    (match directory with
      | some directory => directory ++ '/' :: last
      | none => last, parameters.getD [])
  else (path, [])

/-- A path with its parameters; empty ones are dropped. -/
def withParameters (path parameters : List Char) : List Char :=
  if parameters.isEmpty then path else path ++ ';' :: parameters

/-- Characters that hold a separator when they are written in another way. -/
def isLookalike (c : Char) : Bool :=
  "⁇⁈⁉℀℁℅℆⩴︓︖﹕﹖﹟﹫＃／：？＠".toList.contains c

/-- An address of a kind to come: its version behind a letter, a point and something more. -/
def isFutureAddress (text : List Char) : Bool :=
  match text with
  | 'v' :: rest =>
    match rest.dropWhile Codec.Percent.isHex with
    | '.' :: more => !(rest.takeWhile Codec.Percent.isHex).isEmpty && !more.isEmpty
    | _ => false
  | _ => false

/-- What is wrong with an address between the first opening bracket and the next closing one. -/
def bracketFault? (address : List Char) : Option Fault :=
  if address.head? = some 'v' then
    if isFutureAddress address then none else some .badFutureAddress
  else if isIpv6 address then none
  else if isIpv4 address then some .ipv4InBrackets
  else some (.cutAddress (String.ofList address))

/-- What is wrong with the authority of an address that a reference is resolved against. -/
def authorityFault? (authority : List Char) : Option Fault :=
  if authority.contains '[' != authority.contains ']' then some .loneBracket
  else
    let inBrackets := (Text.cutFirst '[' authority).2.map fun inner => (Text.cutFirst ']' inner).1
    (inBrackets.bind bracketFault?).or <|
      if authority.any isLookalike then some (.lookalike (String.ofList authority)) else none

/-- Parts put together again; an empty query or fragment is dropped. -/
def Parts.toText (parts : Parts) : List Char :=
  let rooted :=
    if !parts.path.isEmpty && parts.path.head? != some '/' then '/' :: parts.path else parts.path
  let body :=
    if !parts.authority.isEmpty ||
      (!parts.scheme.isEmpty && !(['/', '/'].isPrefixOf parts.path)) then
      '/' :: '/' :: parts.authority ++ rooted
    else parts.path
  let mark (sign : Char) (text : Option (List Char)) : List Char :=
    match text with
    | some text => if text.isEmpty then [] else sign :: text
    | none => []
  (if parts.scheme.isEmpty then [] else parts.scheme ++ [':']) ++ body ++ mark '?' parts.query ++
    mark '#' parts.fragment

/-- The segments of a relative path behind those of the address. -/
def joinedSegments (base path : List Char) : List (List Char) :=
  let own := Text.splitAtEach '/' base
  let kept := if own.getLast? == some [] then own else own.dropLast
  if path.head? = some '/' then Text.splitAtEach '/' path
  else
    let all := kept ++ Text.splitAtEach '/' path
    all.take 1 ++ (all.drop 1).dropLast.filter (!·.isEmpty) ++
      (all.drop 1).getLast?.toList

/-- Removes dot segments, the segments kept so far in reverse order. -/
def resolvedSegments (kept : List (List Char)) : List (List Char) → List (List Char)
  | [] => kept.reverse
  | ['.'] :: rest => resolvedSegments kept rest
  | ['.', '.'] :: rest => resolvedSegments kept.tail rest
  | segment :: rest => resolvedSegments (segment :: kept) rest

/-- The path of a reference with the path `path` against an address with the path `base`. -/
def joinedPath (base path : List Char) : List Char :=
  let segments := joinedSegments base path
  let resolved := resolvedSegments [] segments
  let isDots := segments.getLast? == some ['.'] || segments.getLast? == some ['.', '.']
  let joined := ['/'].intercalate (if isDots then resolved ++ [[]] else resolved)
  if joined.isEmpty then ['/'] else joined

/-- The parts of a reference resolved against those of an address. -/
def Parts.resolve (base reference : Parts) : Parts :=
  let scheme := base.scheme
  let (basePath, baseParameters) := cutParameters scheme base.path
  let (path, parameters) := cutParameters scheme reference.path
  if !reference.authority.isEmpty then
    { reference with scheme, path := withParameters path parameters }
  else if path.isEmpty && parameters.isEmpty then
    let query := match reference.query with
      | some query => if query.isEmpty then base.query else some query
      | none => base.query
    { base with
      path := withParameters basePath baseParameters, query, fragment := reference.fragment }
  else
    { reference with
      scheme
      authority := base.authority
      path := withParameters (joinedPath basePath path) parameters }

/-- A reference resolved against an address, both as texts. -/
def joinText (base reference : List Char) : Except Fault (List Char) :=
  if base.isEmpty then .ok reference
  else if reference.isEmpty then .ok base
  else
    let b := (Parts.ofText base).lowered
    let r := (Parts.ofText reference).lowered
    match (authorityFault? b.authority).or (authorityFault? r.authority) with
    | some fault => .error fault
    | none =>
      let isRelative := r.scheme.isEmpty || r.scheme == b.scheme
      if isRelative && relativeSchemes.contains (String.ofList b.scheme) then
        .ok (b.resolve r).toText
      else .ok reference

/-- The address that a reference names when it stands at `base`. -/
def join (base : Url) (reference : List Char) : Except Fault Url := do
  let relative ← ofText reference
  ofText (← joinText base.toText relative.toText)

end PageScript.Url
