import PageScript.Files.Path
import PageScript.Text.Quoted

/-!
# Trees of files

A tree holds files and directories at places. Following a path goes from directory to directory, so
that a path through a file or through nothing leads nowhere, even if it turns back later. Names and
paths have a greatest length, and none of them holds a zero byte.
-/

namespace PageScript.Files

/-- What stands at a place. -/
inductive Node where
  | file (bytes : List UInt8)
  | directory
deriving DecidableEq

/-- Why an operation on files failed. -/
inductive Problem where
  | missing
  | taken
  | notDirectory
  | isDirectory
  | tooLong
  | zeroByte
deriving DecidableEq, Repr

/-- A failed operation and the path it was about. -/
structure Fault where
  what : Problem
  path : Path

def Problem.message : Problem → String
  | .missing => "[Errno 2] No such file or directory"
  | .taken => "[Errno 17] File exists"
  | .notDirectory => "[Errno 20] Not a directory"
  | .isDirectory => "[Errno 21] Is a directory"
  | .tooLong => "[Errno 36] File name too long"
  | .zeroByte => "embedded null byte"

def Fault.message (fault : Fault) : String :=
  if fault.what = .zeroByte then fault.what.message
  else fault.what.message ++ ": " ++ Text.quoted fault.path.toText

/-- How many bytes a name may have. -/
def nameLimit : Nat := 255

/-- How many bytes a path may have. -/
def pathLimit : Nat := 4095

/-- A tree and the directory that relative paths start at. -/
structure Tree where
  nodes : List (Location × Node) := []
  workingDirectory : Location := []

namespace Tree

/-- What stands at a place; the root is a directory. -/
def get? (tree : Tree) (location : Location) : Option Node :=
  if location.isEmpty then some .directory else tree.nodes.lookup location

/-- The tree with a node put at a place. -/
def put (tree : Tree) (location : Location) (node : Node) : Tree :=
  { tree with nodes := (location, node) :: tree.nodes.filter (·.1 != location) }

/-- The place that the names of a path lead to from `here`. -/
def follow (tree : Tree) : Location → List String → Except Problem Location
  | here, [] => .ok here
  | here, part :: rest =>
    match tree.get? here with
    | some .directory =>
      if nameLimit < part.utf8ByteSize then .error .tooLong
      else follow tree (if part = ".." then here.dropLast else here ++ [part]) rest
    | some (.file _) => .error .notDirectory
    | none => .error .missing

/-- The place that a path leads to. -/
def locate (tree : Tree) (path : Path) : Except Problem Location :=
  if path.hasZeroByte then .error .zeroByte
  else if pathLimit < path.toText.utf8ByteSize then .error .tooLong
  else tree.follow (path.start tree.workingDirectory) path.parts

/-- What a path leads to; nothing if it leads nowhere. -/
def find? (tree : Tree) (path : Path) : Option Node :=
  match tree.locate path with
  | .ok location => tree.get? location
  | .error _ => none

/-- What a path leads to, if its names can be looked up. -/
def look (tree : Tree) (path : Path) : Except Fault (Option Node) :=
  match tree.locate path with
  | .error .tooLong => .error { what := .tooLong, path }
  | _ => .ok (tree.find? path)

/-- The bytes of a file. -/
def read (tree : Tree) (path : Path) : Except Fault (List UInt8) :=
  match tree.locate path with
  | .error what => .error { what, path }
  | .ok location =>
    match tree.get? location with
    | some (.file bytes) => .ok bytes
    | some .directory => .error { what := .isDirectory, path }
    | none => .error { what := .missing, path }

/-- Writes a file in a directory that is there. -/
def write (tree : Tree) (path : Path) (bytes : List UInt8) : Except Fault Tree :=
  match tree.locate path with
  | .error what => .error { what, path }
  | .ok location =>
    match tree.get? location, tree.get? location.dropLast with
    | some .directory, _ => .error { what := .isDirectory, path }
    | _, some .directory => .ok (tree.put location (.file bytes))
    | _, some (.file _) => .error { what := .notDirectory, path }
    | _, none => .error { what := .missing, path }

/-- Makes a directory in one that is there. -/
def makeDirectory (tree : Tree) (path : Path) : Except Problem Tree :=
  match tree.locate path with
  | .error what => .error what
  | .ok location =>
    match tree.get? location, tree.get? location.dropLast with
    | some _, _ => .error .taken
    | none, some .directory => .ok (tree.put location .directory)
    | none, some (.file _) => .error .notDirectory
    | none, none => .error .missing

/-- Makes a directory unless it is there. -/
def ensureDirectory (tree : Tree) (path : Path) : Except Fault Tree :=
  match tree.makeDirectory path with
  | .ok tree => .ok tree
  | .error what => if tree.find? path = some .directory then .ok tree else .error { what, path }

/-- Makes a directory and those on the way to it that are missing. What was made before a failure
stays. -/
def ensureDirectories (tree : Tree) (path : Path) : Option Fault × Tree :=
  let last (tree : Tree) : Option Fault × Tree :=
    match tree.ensureDirectory path with
    | .ok tree => (none, tree)
    | .error fault => (some fault, tree)
  match tree.makeDirectory path with
  | .error .missing =>
    if path.parent.parts.length < path.parts.length then
      match tree.ensureDirectories path.parent with
      | (none, tree) => last tree
      | failed => failed
    else (some { what := .missing, path }, tree)
  | _ => last tree
termination_by path.parts.length

/-- What stands where nothing stood in an earlier tree. -/
def added (tree earlier : Tree) : List (Location × Node) :=
  tree.nodes.filter fun (location, _) => (earlier.get? location).isNone

/-- What stands differently in an earlier tree, the first change first. -/
def changes (tree earlier : Tree) : List (Location × Node) :=
  (tree.nodes.filter fun (location, node) => earlier.get? location ≠ some node).reverse

end Tree

end PageScript.Files
