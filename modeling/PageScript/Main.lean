import PageScript.Command.Compile
import PageScript.Command.Snapshot

/-!
# The command line

The files that the command looks at are read into a tree, the command is carried out on it, and what
has changed is written back. There is no connection to a database from here: every request fails.
-/

namespace PageScript.Command

/-- What stands at a place on the disk. -/
def probe (location : Files.Location) : IO (Option Files.Node) := do
  let path := (Files.Path.ofLocation location).toText
  try
    let real ← IO.FS.realPath path
    if ← real.isDir then return some .directory
    return some (.file (← IO.FS.readBinFile path).toList)
  catch _ => return none

/-- The tree with some places of the disk. -/
def snapshot (workingDirectory : Files.Location) (places : List Files.Location) : IO Files.Tree :=
  places.foldlM (fun tree place => do
    match ← probe place with
    | some node => return tree.put place node
    | none => return tree) { workingDirectory }

/-- Puts what has changed on the disk. -/
def store (changes : List (Files.Location × Files.Node)) : IO Unit :=
  changes.forM fun (location, node) => do
    let path := (Files.Path.ofLocation location).toText
    match node with
    | .directory => IO.FS.createDir path
    | .file bytes => IO.FS.writeBinFile path ⟨bytes.toArray⟩

/-- The variables of the process. -/
def processEnviron : IO Environ := do
  let bytes ← try IO.FS.readBinFile "/proc/self/environ" catch _ => pure .empty
  let entries := (Text.splitAtEach '\x00' (Text.decodeLenient bytes.toList)).filterMap fun entry =>
    match Text.cutFirst '=' entry with
    | (name, some value) => some (String.ofList name, String.ofList value)
    | _ => none
  return fun name => entries.lookup name

/-- The moment of requests, which are not sent from here. -/
def noMoment : Calendar.Moment :=
  { year := 1970, month := 1, day := 1, hour := 0, minute := 0, second := 0 }

end PageScript.Command

open PageScript PageScript.Command in
def main (arguments : List String) : IO UInt32 := do
  let workingDirectory := (Files.Path.ofText (← IO.currentDir).toString).parts
  let options := (Options.ofArguments arguments).toOption.getD {}
  let tree ← snapshot workingDirectory (options.places workingDirectory)
  let world : World :=
    { tree
      environ := ← processEnviron
      moment := noMoment
      answers := { next := .failure "All connection attempts failed" } }
  let outcome := execute world arguments
  store (outcome.tree.changes tree)
  IO.print outcome.output
  IO.eprint outcome.errors
  match outcome.status with
  | .done status => return status.toUInt32
  | .left status => return status.toUInt32
