/-!
# The journal

What happens on the way is noted: warnings about what is skipped, and details for those who want
them. A note names the part of the program it comes from and has a level; only notes at or above the
level asked for are shown.
-/

namespace PageScript

/-- How much a note matters. -/
inductive Level where
  | debug
  | info
  | warning
  | error
  | critical
deriving DecidableEq, Repr

/-- The levels in order. -/
def Level.rank : Level → Nat
  | .debug => 10
  | .info => 20
  | .warning => 30
  | .error => 40
  | .critical => 50

def Level.name : Level → String
  | .debug => "DEBUG"
  | .info => "INFO"
  | .warning => "WARNING"
  | .error => "ERROR"
  | .critical => "CRITICAL"

/-- Something worth noting. -/
inductive Note where
  /-- A page was not found. -/
  | pageMissing (path : String)
  | blocksFound (count : Nat) (scriptType : String)
  /-- A block was skipped for its first fault. -/
  | blockSkipped (index : Int) (diagnostic : String)
  /-- A variable of the environment has no value. -/
  | envUnset (name : String)
  | tableBound (name : String) (count : Nat)
  | keyFromEnv (account variableName : String)
  | commandIgnored (name : String)
  | blockCompiled (index : Int) (count : Nat)
  | planned (count : Nat) (sourceName : String)
  | rendered (count : Nat) (nameSpace className : String)
  /-- Neither variable of the environment holds an account key. -/
  | keyMissing (variableName fallback : String)
  | requestSent (url : String)
  | queryFailed (reason : String)
  | compilationFailed
deriving DecidableEq, Repr

namespace Note

def level : Note → Level
  | .pageMissing _ | .blockSkipped .. => .warning
  | _ => .debug

/-- The part of the program a note comes from. -/
def origin : Note → String
  | .pageMissing _ | .blocksFound .. => "pwshc.extract"
  | .blockSkipped .. | .blockCompiled .. | .planned .. => "pwshc.compiler.core"
  | .envUnset _ => "pwshc.compiler.resolver"
  | .tableBound .. => "pwshc.compiler.hashtables"
  | .keyFromEnv .. | .commandIgnored _ => "pwshc.compiler.statements"
  | .rendered .. => "pwshc.codegen.csharp.emitter"
  | .keyMissing .. => "pwshc.runtime.executor"
  | .requestSent _ | .queryFailed _ => "pwshc.protocol.client"
  | .compilationFailed => "pwshc.cli"

def message : Note → String
  | .pageMissing path => path ++ " not found"
  | .blocksFound count scriptType => s!"Found {count} {scriptType} block(s)"
  | .blockSkipped index diagnostic => s!"Parse errors in PowerShell block {index}: {diagnostic}"
  | .envUnset name => "Environment variable " ++ name ++ " is not set at build time"
  | .tableBound name count => s!"Bound hashtable ${name} with {count} key(s)"
  | .keyFromEnv account variableName =>
    "Account key for " ++ account ++ " read from $env:" ++ variableName ++ " at run time"
  | .commandIgnored name => "Ignoring command " ++ name
  | .blockCompiled index count => s!"Block {index}: {count} operation(s)"
  | .planned count sourceName => s!"Planned {count} block(s) for {sourceName}"
  | .rendered count nameSpace className =>
    s!"Rendered {count} block(s) into {nameSpace}.{className}"
  | .keyMissing variableName fallback =>
    "No account key in $env:" ++ variableName ++ " or $env:" ++ fallback
  | .requestSent url => "POST " ++ url
  | .queryFailed reason => "Cosmos query failed: " ++ reason
  | .compilationFailed => "Compilation failed"

/-- The note as a line of the journal. -/
def format (note : Note) : String :=
  note.level.name ++ " " ++ note.origin ++ ": " ++ note.message

end Note

/-- The notes at or above a level, as lines. -/
def journalLines (least : Level) (notes : List Note) : List String :=
  (notes.filter fun note => least.rank ≤ note.level.rank).map Note.format

end PageScript
