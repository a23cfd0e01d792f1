import PageScript.Files.Content
import PageScript.Settings.OfTable
import PageScript.Toml.Document

/-!
# Loading settings

Settings come from a file that is named, or else from the nearest directory, going up from a place,
that has one: a file of its own, or the project file with a table for this program. Two variables of
the environment override what the file says.
-/

namespace PageScript

/-- Why settings cannot be loaded. -/
inductive LoadFault where
  | settings (fault : SettingsFault)
  | file (fault : Files.Fault)
  | text (fault : Files.TextFault)
  | numeral (fault : Numeral.IntegerFault)
  /-- A value of the project file that cannot have entries is searched for one. -/
  | unsearchable (found : Toml.Value)
  /-- A value of the project file stands where a table is wanted; `operation` needs it. -/
  | notTable (found : Toml.Value) (operation : String)

/-- The name of the type of a value. -/
def Toml.Value.typeName : Toml.Value → String
  | .string _ => "str"
  | .integer _ => "int"
  | .float _ => "float"
  | .boolean _ => "bool"
  | .time .date => "datetime.date"
  | .time .dateTime => "datetime.datetime"
  | .time .timeOfDay => "datetime.time"
  | .array _ => "list"
  | .table _ => "dict"

def SettingsFault.message : SettingsFault → String
  | .report r => r.format
  | .overflow => "int too large to convert to float"

def LoadFault.message : LoadFault → String
  | .settings fault => fault.message
  | .file fault => fault.message
  | .text fault => fault.message
  | .numeral fault => fault.message
  | .unsearchable found => s!"argument of type '{found.typeName}' is not iterable"
  | .notTable found operation => s!"'{found.typeName}' object has no attribute '{operation}'"

namespace Settings

/-- The file that holds nothing but settings. -/
def fileName : String := "pwshc.toml"

/-- The file of a project, which holds settings in a table of its own. -/
def projectFileName : String := "pyproject.toml"

/-- The report about a settings file. -/
def fileReport (path : Files.Path) (message : String) : LoadFault :=
  .settings (.report { category := .settings, message, place := { path := some path.toText } })

/-- The table in a file. -/
def readTable (tree : Files.Tree) (path : Files.Path) : Except LoadFault Toml.Table := do
  let bytes ← (tree.read path).mapError LoadFault.file
  let text := Text.unifyLineEnds (← (Files.decode bytes).mapError LoadFault.text)
  match Toml.read text with
  | .ok table => return table
  | .error (.problem what site) =>
    throw (fileReport path ("Invalid TOML: " ++ what.messageAt text site))
  | .error (.numeral fault) => throw (.numeral fault)

/-- The value that holds the tables of tools in a project file. -/
def toolValue (project : Toml.Table) : Toml.Value := (project.lookup "tool").getD (.table [])

/-- The name of the table of this program in a project file. -/
def toolName : String := "pwshc"

/-- Whether a value has an entry for this program. -/
def hasTool : Toml.Value → Except LoadFault Bool
  | .table entries => .ok (entries.lookup toolName).isSome
  | .array items => .ok (items.any fun item =>
      match item with
      | .string text => text == toolName
      | _ => false)
  | .string text => .ok (Text.cut? toolName.toList text.toList).isSome
  | other => .error (.unsearchable other)

/-- The table of this program in a project file; empty if there is none. -/
def toolTable (project : Toml.Table) : Except LoadFault Toml.Table :=
  match toolValue project with
  | .table entries =>
    match (entries.lookup toolName).getD (.table []) with
    | .table entries => .ok entries
    | other => .error (.notTable other "items")
  | other => .error (.notTable other "get")

/-- Whether something stands at a place. -/
def isThere (tree : Files.Tree) (place : Files.Location) : Except LoadFault Bool :=
  ((tree.look (.ofLocation place)).map Option.isSome).mapError LoadFault.file

/-- The settings file in a directory. -/
def fileIn (tree : Files.Tree) (directory : Files.Location) :
    Except LoadFault (Option Files.Location) := do
  let dedicated := directory ++ [fileName]
  if ← isThere tree dedicated then return some dedicated
  let project := directory ++ [projectFileName]
  if !(← isThere tree project) then return none
  let table ← readTable tree (.ofLocation project)
  return if ← hasTool (toolValue table) then some project else none

/-- The directories from a place upward, the place itself first. -/
def upward (directory : Files.Location) : List Files.Location :=
  (List.range (directory.length + 1)).map fun n => directory.take (directory.length - n)

/-- The first settings file in some directories. -/
def firstFile (tree : Files.Tree) : List Files.Location → Except LoadFault (Option Files.Location)
  | [] => .ok none
  | directory :: rest => do
    match ← fileIn tree directory with
    | some found => return some found
    | none => firstFile tree rest

/-- The settings file nearest to where a path leads. A place that is no directory counts as a file in
one. -/
def locateFile (tree : Files.Tree) (start : Files.Path) :
    Except LoadFault (Option Files.Location) := do
  if start.hasZeroByte then throw (.file { what := .zeroByte, path := start })
  let place := start.resolve tree.workingDirectory
  let node ← (tree.look (.ofLocation place)).mapError LoadFault.file
  firstFile tree (upward (if node = some .directory then place else place.dropLast))

/-- The settings in a file. -/
def ofFile (tree : Files.Tree) (path : Files.Path) : Except LoadFault Settings := do
  let table ← readTable tree path
  let table ← if path.name == projectFileName then toolTable table else pure table
  (ofTable table (some path.toText)).mapError LoadFault.settings

/-- The settings with what the environment overrides. -/
def overridden (environ : Environ) (settings : Settings) : Settings :=
  { settings with
    nameSpace := (environ.set? "PWSHC_NAMESPACE").getD settings.nameSpace
    className := (environ.set? "PWSHC_CLASS_NAME").getD settings.className }

/-- The settings file to use: the named one, which must be there, or the nearest one. -/
def chooseFile (tree : Files.Tree) (path : Option Files.Path) (start : Files.Path) :
    Except LoadFault (Option Files.Path) :=
  match path with
  | some path => do
    match ← (tree.look path).mapError LoadFault.file with
    | some _ => return some path
    | none => throw (fileReport path "Configuration file not found")
  | none => (locateFile tree start).map (Option.map .ofLocation)

/-- The settings that hold where a path leads. -/
def load (tree : Files.Tree) (environ : Environ) (path : Option Files.Path)
    (start : Files.Path) : Except LoadFault Settings := do
  match ← chooseFile tree path start with
  | some path => return (← ofFile tree path).overridden environ
  | none => return ({} : Settings).overridden environ

end Settings

end PageScript
