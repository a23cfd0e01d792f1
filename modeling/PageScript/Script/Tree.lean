import PageScript.Numeral.Literal
import PageScript.Text.Folding

/-!
# What a script says

The parts of a script that compilation looks at: assignments, single commands with their parameters,
strings, numbers, variables and hashtable literals. Everything else is kept as text. Each part knows
its extent: the text it was read from, and how much of the script was left when it began, which
together with the script gives its place.
-/

namespace PageScript.Script

/-- Where a part of a script stands. -/
structure Extent where
  /-- The text of the part. -/
  text : String
  /-- The number of characters of the script from the part's first one on. -/
  remaining : Nat
deriving DecidableEq, Repr

/-- The extent of what stands between `start` and `stop`, both tails of the script. -/
def Extent.between (start stop : List Char) : Extent :=
  { text := String.ofList (start.take (start.length - stop.length)), remaining := start.length }

/-- The same without the blanks at its end. -/
def Extent.trimmed (start stop : List Char) : Extent :=
  { text := String.ofList (Text.trimEndOf Text.isBlank (start.take (start.length - stop.length)))
    remaining := start.length }

/-- How a constant string was written. -/
inductive Quote where
  | single
  | here
  | bare
deriving DecidableEq, Repr

/-- What an expression that is kept as text is. -/
inductive RawKind where
  | subexpression
  | array
  | paren
  | scriptblock
  | type
  | list
  | member
  | expression
  | pipeline
  | invocation
deriving DecidableEq, Repr

/-- An expression. -/
inductive Expr where
  /-- A string without references, or a bare word. -/
  | string (extent : Extent) (value : String) (quote : Quote)
  /-- A string whose references and escapes are not expanded yet. -/
  | expandable (extent : Extent) (body : String)
  | number (extent : Extent) (value : Numeral.Number)
  /-- A variable, in a drive such as `env` or not, plain or splatted. -/
  | reference (extent : Extent) (name : String) (drive : Option String) (splatted : Bool)
  /-- A hashtable literal with its keys and values in order. -/
  | hashtable (extent : Extent) (entries : List (Expr × Expr))
  /-- Anything kept as text. -/
  | raw (extent : Extent) (kind : RawKind)

def Expr.extent : Expr → Extent
  | .string extent _ _ | .expandable extent _ | .number extent _ | .reference extent _ _ _
  | .hashtable extent _ | .raw extent _ => extent

/-- The name of a variable with its drive. -/
def qualifiedName (name : String) : Option String → String
  | some drive => if drive.isEmpty then name else drive ++ ":" ++ name
  | none => name

/-- The drive of the environment variables, in any letter case. -/
def isEnvDrive : Option String → Bool
  | some drive => Text.fold drive == "env"
  | none => false

/-- A word behind the name of a command. -/
inductive Element where
  /-- A parameter, with the argument that a colon attaches to it. -/
  | parameter (extent : Extent) (name : String) (argument : Option Expr)
  | value (expr : Expr)

def Element.extent : Element → Extent
  | .parameter extent _ _ => extent
  | .value expr => expr.extent

/-- A single command. -/
structure Command where
  extent : Extent
  name : String
  elements : List Element

/-- The operator of an assignment. -/
inductive AssignOp where
  | coalesce
  | add
  | subtract
  | multiply
  | divide
  | remainder
  | set
deriving DecidableEq, Repr

def AssignOp.text : AssignOp → String
  | .coalesce => "??="
  | .add => "+="
  | .subtract => "-="
  | .multiply => "*="
  | .divide => "/="
  | .remainder => "%="
  | .set => "="

/-- The operators in the order in which they are tried. -/
def AssignOp.all : List AssignOp :=
  [.coalesce, .add, .subtract, .multiply, .divide, .remainder, .set]

/-- What a statement that is kept as text is. -/
inductive OtherKind where
  | keyword
  | chain
  | pipeline
  | expression
deriving DecidableEq, Repr

/-- A statement. -/
inductive Statement where
  | assignment (extent : Extent) (target : Expr) (operator : AssignOp) (value : Expr)
  | command (command : Command)
  | other (extent : Extent) (kind : OtherKind)

def Statement.extent : Statement → Extent
  | .assignment extent _ _ _ => extent
  | .command c => c.extent
  | .other extent _ => extent

end PageScript.Script
