import PageScript.CSharp.Program
import PageScript.Settings.Basic

/-!
# A plan as a program

The generated method goes through the blocks in order, collects the lines of each block, and returns
all lines joined. An account key from the environment is looked up when the program runs, with the
secret of the build as the fallback.
-/

namespace PageScript.CSharp

/-- The list of the lines of all blocks. -/
def outputs : String := "outputs"

/-- The list of the lines of one block. -/
def blockOutputs : String := "blockOutputs"

/-- The statements of a query whose account key comes from the environment. -/
def readFromEnv (settings : Settings) (variableName endpoint : String) (query : Query) : Stmt :=
  .scope
    [.declare "string?" "accountKey" (.environment variableName),
      .when (.isBlank "accountKey") [.assign "accountKey" (.given settings.secretReference)],
      .gap,
      .when (.isBlank "accountKey")
        [.add blockOutputs (.literal (Message.notSet variableName))],
      .otherwise
        [.when (.startsWithEquals "accountKey")
          [.assign "accountKey" (.withoutLeadingEquals "accountKey")],
          .gap,
          .declare "string" "endpoint" (.literal endpoint),
          .declare "string" "connectionString" (.connectionString "endpoint" "accountKey"),
          .add blockOutputs (.readFirst (.var "connectionString") query)]]

/-- The statement of one step. -/
def operationStmt (settings : Settings) : Operation → Except Report Stmt
  | .emitText text => .ok (.add blockOutputs (.literal text))
  | .readFirstItem connection query =>
    .ok (.add blockOutputs (.readFirst (.literal connection) query))
  | .readFirstItemFromEnv variableName endpoint query =>
    .ok (readFromEnv settings variableName endpoint query)
  | .unsupported kind => .error (unsupportedReport kind)

/-- The statements of one block. -/
def blockStmts (settings : Settings) (block : BlockPlan) : Except Report (List Stmt) := do
  let steps ← block.operations.mapM (operationStmt settings)
  return [.comment s!"block {block.index}",
    .scope ([.declareList blockOutputs] ++ steps ++ [.add outputs (.joined blockOutputs)])]

/-- The statements of the generated method. -/
def bodyStmts (settings : Settings) (plan : Plan) : Except Report (List Stmt) := do
  let blocks ← plan.blocks.mapM (blockStmts settings)
  return [.declareList outputs] ++ blocks.flatten ++
    [.gap, .when (.isEmptyList outputs) [.ret (.literal settings.noOutputMessage)],
      .gap, .ret (.joined outputs)]

/-- The lines of the generated method, inside its braces. -/
def bodyLines (settings : Settings) (plan : Plan) : Except Report (List String) := do
  return (← bodyStmts settings plan).flatMap (Stmt.lines 2)

end PageScript.CSharp
