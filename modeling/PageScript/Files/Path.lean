import PageScript.Text.Cut

/-!
# Paths

A path is a row of names behind a root or none. Empty names and single dots vanish when a path is
read; double dots stay until the path is resolved.
-/

namespace PageScript.Files

/-- A place in a tree: the names on the way from its root. -/
abbrev Location := List String

/-- A path as it is written. -/
structure Path where
  /-- One or two slashes for a path from the root; empty for one from the working directory. -/
  root : String := ""
  parts : List String
deriving DecidableEq, Repr

namespace Path

/-- The root of a path that starts with so many slashes. -/
def rootOf (slashes : Nat) : String :=
  match slashes with
  | 0 => ""
  | 2 => "//"
  | _ => "/"

/-- Reads a path. -/
def ofText (text : String) : Path where
  root := rootOf (text.toList.takeWhile (· == '/')).length
  parts := ((Text.splitAtEach '/' text.toList).filter fun part => part != [] && part != ['.']).map
    String.ofList

/-- The path as it is printed. -/
def toText (path : Path) : String :=
  if path.root.isEmpty && path.parts.isEmpty then "."
  else path.root ++ "/".intercalate path.parts

/-- The path without its last name. -/
def parent (path : Path) : Path := { path with parts := path.parts.dropLast }

/-- The last name of a path; empty if it has none. -/
def name (path : Path) : String := path.parts.getLast?.getD ""

/-- Whether a name of the path holds a zero byte. -/
def hasZeroByte (path : Path) : Bool := path.parts.any (·.toList.contains '\x00')

/-- The place where a path starts. -/
def start (path : Path) (workingDirectory : Location) : Location :=
  if path.root.isEmpty then workingDirectory else []

/-- The place that a path names, double dots taken back one name each. -/
def resolve (path : Path) (workingDirectory : Location) : Location :=
  path.parts.foldl (fun here part => if part = ".." then here.dropLast else here ++ [part])
    (path.start workingDirectory)

/-- The path from the root to a place. -/
def ofLocation (location : Location) : Path := { root := "/", parts := location }

end Path

end PageScript.Files
