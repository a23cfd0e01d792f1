import PageScript.CSharp.Literal
import PageScript.Cosmos.Wire
import PageScript.Plan

/-!
# The statements of the generated program

The few forms of C# that a plan needs, and how they are laid out in lines: blocks in braces on lines
of their own, four blanks for each level.
-/

namespace PageScript.CSharp

/-- An expression. -/
inductive Expr where
  /-- A string literal. -/
  | literal (text : String)
  /-- A local variable. -/
  | var (name : String)
  /-- An expression from the settings. -/
  | given (code : String)
  /-- The value of an environment variable, or null. -/
  | environment (variableName : String)
  /-- The items of a list, joined by line ends. -/
  | joined (list : String)
  /-- A local variable without the equals signs at its start. -/
  | withoutLeadingEquals (name : String)
  /-- The connection string of an address and a key in local variables. -/
  | connectionString (endpoint key : String)
  /-- A call of the helper routine that reads the first item of a query. -/
  | readFirst (connection : Expr) (query : Query)

/-- A condition. -/
inductive Condition where
  /-- A local variable is null or blank. -/
  | isBlank (name : String)
  /-- A local variable starts with an equals sign. -/
  | startsWithEquals (name : String)
  | isEmptyList (name : String)

/-- A statement. -/
inductive Stmt where
  /-- An empty line. -/
  | gap
  | comment (text : String)
  | declareList (name : String)
  | declare (typeName name : String) (value : Expr)
  | assign (name : String) (value : Expr)
  | add (list : String) (value : Expr)
  | ret (value : Expr)
  | scope (body : List Stmt)
  | when (condition : Condition) (body : List Stmt)
  | otherwise (body : List Stmt)

/-- The helper routine that reads the first item of a query. -/
def helperMethod : String := "ReadFirstCosmosItemViaRestAsync"

def Expr.code : Expr → String
  | .literal text => CSharp.literal text
  | .var name => name
  | .given code => code
  | .environment variableName =>
    "Environment.GetEnvironmentVariable(" ++ CSharp.literal variableName ++ ")"
  | .joined list => "string.Join(Environment.NewLine, " ++ list ++ ")"
  | .withoutLeadingEquals name => name ++ ".TrimStart('=')"
  | .connectionString endpoint key =>
    "$\"" ++ Cosmos.Wire.endpointKey ++ "=\x7b" ++ endpoint ++ "\x7d;" ++ Cosmos.Wire.accountKey ++
      "=\x7b" ++ key ++ "\x7d;\""
  | .readFirst connection query =>
    "await " ++ helperMethod ++ "(connectionString: " ++ connection.code ++
      ", databaseName: " ++ CSharp.literal query.database ++
      ", containerName: " ++ CSharp.literal query.container ++
      ", query: " ++ CSharp.literal query.text ++
      ", partitionKey: " ++ CSharp.literal query.partitionKey ++ ")"

def Condition.code : Condition → String
  | .isBlank name => "string.IsNullOrWhiteSpace(" ++ name ++ ")"
  | .startsWithEquals name => name ++ ".StartsWith(\"=\")"
  | .isEmptyList name => name ++ ".Count == 0"

/-- A line at a level of nesting. -/
def indented (level : Nat) (text : String) : String :=
  String.ofList (List.replicate (4 * level) ' ') ++ text

/-- The lines of a statement at a level of nesting. -/
def Stmt.lines (level : Nat) : Stmt → List String
  | .gap => [""]
  | .comment text => [indented level ("// " ++ text)]
  | .declareList name => [indented level ("var " ++ name ++ " = new List<string>();")]
  | .declare typeName name value =>
    [indented level (typeName ++ " " ++ name ++ " = " ++ value.code ++ ";")]
  | .assign name value => [indented level (name ++ " = " ++ value.code ++ ";")]
  | .add list value => [indented level (list ++ ".Add(" ++ value.code ++ ");")]
  | .ret value => [indented level ("return " ++ value.code ++ ";")]
  | .scope body => braced (body.flatMap (Stmt.lines (level + 1)))
  | .when condition body =>
    indented level ("if (" ++ condition.code ++ ")") ::
      braced (body.flatMap (Stmt.lines (level + 1)))
  | .otherwise body =>
    indented level "else" :: braced (body.flatMap (Stmt.lines (level + 1)))
where
  /-- Lines between braces. -/
  braced (inner : List String) : List String :=
    indented level "\x7b" :: inner ++ [indented level "\x7d"]

end PageScript.CSharp
