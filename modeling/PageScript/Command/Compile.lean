import PageScript.Command.Help
import PageScript.Command.Options
import PageScript.Compile.File
import PageScript.Run
import PageScript.Settings.Load

/-!
# The command

The command compiles the blocks of a page to a program in a file, and runs them if it is asked to.
What it prints, notes and writes up to a failure stays.
-/

namespace PageScript.Command

/-- What the command works on. -/
structure World where
  tree : Files.Tree
  environ : Environ
  /-- The line end of the platform. -/
  lineEnd : String := "\n"
  moment : Calendar.Moment
  answers : Cosmos.Answers

/-- How the command ends. -/
inductive Status where
  /-- It comes to its end with a status. -/
  | done (status : Nat)
  /-- It leaves early, over its options. -/
  | left (status : Nat)
deriving DecidableEq, Repr

/-- What the command leaves behind. -/
structure Outcome where
  status : Status
  output : String := ""
  errors : String := ""
  level : Level := .warning
  tree : Files.Tree
  sent : List Cosmos.Request := []

/-- What has happened on the way. -/
structure Trail where
  tree : Files.Tree
  lines : List String := []
  notes : List Note := []
  sent : List Cosmos.Request := []

/-- Why nothing is compiled. -/
inductive Failure where
  | report (report : Report)
  | other (message : String)

/-- A step of the command. -/
abbrev Step (α : Type) := ExceptT Failure (StateM Trail) α

def noteAll (notes : List Note) : Step Unit :=
  modify fun trail => { trail with notes := trail.notes ++ notes }

def print (line : String) : Step Unit :=
  modify fun trail => { trail with lines := trail.lines ++ [line] }

/-- Takes a result, or fails with its fault. -/
def take {ε α : Type} (failure : ε → Failure) : Except ε α → Step α
  | .ok a => pure a
  | .error e => throw (failure e)

/-- Takes a result with its notes. -/
def takeNoted {ε α : Type} (failure : ε → Failure) (result : Compile.Noted (Except ε α)) : Step α := do
  noteAll result.2
  take failure result.1

/-- The failure of loading settings. -/
def Failure.ofLoad : LoadFault → Failure
  | .settings (.report r) => .report r
  | fault => .other fault.message

/-- The failure of an operation on files. -/
def Failure.ofFile (fault : Files.Fault) : Failure := .other fault.message

/-- Writes the program. -/
def writeProgram (path : Files.Path) (code : String) : Step Unit := do
  let (fault, tree) := (← get).tree.ensureDirectories path.parent
  modify fun trail => { trail with tree }
  if let some fault := fault then throw (.ofFile fault)
  let tree ← take .ofFile (tree.write path (Text.utf8 code))
  modify fun trail => { trail with tree }

/-- Runs a plan and prints its output. -/
def runAndPrint (world : World) (settings : Settings) (plan : Plan) : Step Unit := do
  let backend := Cosmos.Session.backend world.moment
  let (text, session) ← take .report
    (runPlan backend settings world.environ world.lineEnd plan { answers := world.answers })
  modify fun trail => { trail with sent := session.sent }
  noteAll session.notes
  print text

/-- The settings file that is named, which needs a name. -/
def settingsFile (options : Options) : Step (Option Files.Path) :=
  match options.config with
  | none => pure none
  | some (some name) => pure (some (.ofText name))
  | some none => throw (.other "'list' object has no attribute 'exists'")

/-- Compiles a page. -/
def compile (world : World) (options : Options) (source output : Files.Path) : Step Unit := do
  let named ← settingsFile options
  let settings ← take .ofLoad
    (Settings.load world.tree world.environ named source.parent)
  let blocks ← takeNoted (fun fault => .other fault.message)
    (Compile.readBlocks world.tree source settings.scriptType)
  let plan ← takeNoted (fun fault => .other fault.message)
    (Compile.planOf settings world.environ (some source.name) blocks)
  let code ← takeNoted .report (Compile.render settings plan)
  writeProgram output code
  print ("Generated: " ++ output.toText)
  if options.run then runAndPrint world settings plan

/-- The level with this name. -/
def levelNamed? : String → Option Level
  | "debug" => some .debug
  | "info" => some .info
  | "warn" => some .warning
  | "warning" => some .warning
  | "error" => some .error
  | "critical" => some .critical
  | _ => none

/-- The level of the notes to show: the one asked for, or else the one in the environment. -/
def levelOf (environ : Environ) (options : Options) : Level :=
  let name := (options.logLevel.filter (!·.isEmpty)).getD ((environ "PWSHC_LOG_LEVEL").getD "warning")
  (levelNamed? (Text.lower name)).getD .warning

/-- The outcome of a compilation. -/
def finish (level : Level) (result : Except Failure Unit) (trail : Trail) : Outcome :=
  let (status, notes, complaint) :=
    match result with
    | .ok () => (0, trail.notes, [])
    | .error (.report r) => (1, trail.notes, ["Error: " ++ r.format])
    | .error (.other message) =>
      (1, trail.notes ++ [.compilationFailed], ["Error: " ++ message])
  { status := .done status
    output := unlines trail.lines
    errors := unlines (journalLines level notes ++ complaint)
    level
    tree := trail.tree
    sent := trail.sent }

/-- The outcome of arguments that ask for no compilation. -/
def stopped (tree : Files.Tree) : Stop → Outcome
  | .help => { status := .left 0, output := unlines helpLines, tree }
  | .version => { status := .left 0, output := unlines [commandName ++ " " ++ version], tree }
  | .misuse message =>
    { status := .left 2
      errors := unlines (usageLines ++ [commandName ++ ": error: " ++ message])
      tree }

/-- The command with some arguments. -/
def execute (world : World) (arguments : List String) : Outcome :=
  match Options.ofArguments arguments with
  | .error stop => stopped world.tree stop
  | .ok options =>
    match options.source.filter (!·.isEmpty), options.output.filter (!·.isEmpty) with
    | some source, some output =>
      let (result, trail) :=
        (compile world options (.ofText source) (.ofText output)).run.run { tree := world.tree }
      finish (levelOf world.environ options) result trail
    | _, _ => { status := .done 1, errors := unlines usageLines, tree := world.tree }

end PageScript.Command
