import PageScript.Cosmos.Session
import PageScript.Settings.Basic

/-!
# Running a plan

Every step gives one line. The lines of a block are joined by the line end of the platform, and so
are the blocks. Queries are asked one at a time in the order of the plan, by a reader that threads a
state of its own through the run.
-/

namespace PageScript

/-- How queries are asked during a run: `read` gives the line of a query on a connection, and
`keyMissing` is told when neither variable holds an account key. -/
structure Backend (σ : Type) where
  read : String → Query → σ → String × σ
  keyMissing : String → String → σ → σ := fun _ _ state => state

/-- A value of the environment that is more than blanks. -/
def Environ.filled? (environ : Environ) (name : String) : Option String :=
  (environ name).filter (!Text.allBlank ·)

/-- The account key in a variable of the environment, or else in the one that stands in for the
secret of a build. -/
def accountKey? (settings : Settings) (environ : Environ) (variableName : String) : Option String :=
  (environ.filled? variableName).or (environ.filled? settings.fallbackSecretEnv)

/-- The connection string for an account key from the environment; equals signs in front of the key
do not count. -/
def connectionWith (endpoint key : String) : String :=
  Cosmos.connectionString endpoint (String.ofList (key.toList.dropWhile (· == '=')))

section

variable {σ : Type} (backend : Backend σ) (settings : Settings) (environ : Environ)

/-- The line of a step. -/
def runOperation (operation : Operation) (state : σ) : Except Report (String × σ) :=
  match operation with
  | .emitText text => .ok (text, state)
  | .readFirstItem connection query => .ok (backend.read connection query state)
  | .readFirstItemFromEnv variableName endpoint query =>
    match accountKey? settings environ variableName with
    | some key => .ok (backend.read (connectionWith endpoint key) query state)
    | none =>
      .ok (Message.notSet variableName,
        backend.keyMissing variableName settings.fallbackSecretEnv state)
  | .unsupported kind => .error (unsupportedReport kind)

/-- The lines of steps in order. -/
def runOperations : List Operation → σ → Except Report (List String × σ)
  | [], state => .ok ([], state)
  | operation :: rest, state => do
    let (line, state) ← runOperation backend settings environ operation state
    let (lines, state) ← runOperations rest state
    return (line :: lines, state)

variable (lineEnd : String)

/-- The texts of blocks in order. -/
def runBlocks : List BlockPlan → σ → Except Report (List String × σ)
  | [], state => .ok ([], state)
  | block :: rest, state => do
    let (lines, state) ← runOperations backend settings environ block.operations state
    let (texts, state) ← runBlocks rest state
    return (lineEnd.intercalate lines :: texts, state)

/-- The output of a plan. -/
def runPlan (plan : Plan) (state : σ) : Except Report (String × σ) := do
  let (texts, state) ← runBlocks backend settings environ lineEnd plan.blocks state
  return (if texts.isEmpty then settings.noOutputMessage else lineEnd.intercalate texts, state)

end

section

variable {σ : Type} {backend : Backend σ} {settings : Settings} {environ : Environ} {lineEnd : String}

theorem runOperations_cons {operation : Operation} {line : String} {state after : σ}
    (h : runOperation backend settings environ operation state = .ok (line, after))
    (rest : List Operation) :
    runOperations backend settings environ (operation :: rest) state =
      (runOperations backend settings environ rest after).map fun out => (line :: out.1, out.2) := by
  rw [runOperations, h]
  show runOperations backend settings environ rest after >>= _ = _
  cases runOperations backend settings environ rest after <;> rfl

theorem runBlocks_cons {block : BlockPlan} {lines : List String} {state after : σ}
    (h : runOperations backend settings environ block.operations state = .ok (lines, after))
    (rest : List BlockPlan) :
    runBlocks backend settings environ lineEnd (block :: rest) state =
      (runBlocks backend settings environ lineEnd rest after).map fun out =>
        (lineEnd.intercalate lines :: out.1, out.2) := by
  rw [runBlocks, h]
  show runBlocks backend settings environ lineEnd rest after >>= _ = _
  cases runBlocks backend settings environ lineEnd rest after <;> rfl

end

/-- Queries asked in a session at a moment. -/
def Cosmos.Session.backend (moment : Calendar.Moment) : Backend Cosmos.Session where
  read := Cosmos.Session.readFirstItem moment
  keyMissing variableName fallback session := session.note (.keyMissing variableName fallback)

end PageScript
