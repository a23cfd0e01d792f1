/-!
# Reports to the user

A report says what is wrong, with a code for its category, and where: the page or settings file, the
script block in it, and the line and column in the block. A diagnostic is the part of a report that
reading a script keeps.
-/

namespace PageScript

/-- Where something is wrong; each part may be unknown. -/
structure Place where
  path : Option String := none
  block : Option Int := none
  line : Option Int := none
  column : Option Int := none
deriving DecidableEq, Repr

/-- The known parts of a place, the coarsest first. A column counts only within a line. -/
def Place.parts (place : Place) : List String :=
  let path := place.path.toList.filter (!·.isEmpty)
  let block := place.block.toList.map fun n => s!"block {n}"
  let line := place.line.toList.map fun n =>
    match place.column with
    | some column => s!"line {n}, column {column}"
    | none => s!"line {n}"
  path ++ block ++ line

/-- The place in words; nothing if no part of it is known. -/
def Place.describe (place : Place) : Option String :=
  match place.parts with
  | [] => none
  | parts => some (", ".intercalate parts)

/-- What a report is about. -/
inductive Category where
  | general
  /-- A script block could not be read. -/
  | script
  /-- A plan could not be compiled. -/
  | plan
  /-- A settings file or table is invalid. -/
  | settings
deriving DecidableEq, Repr

/-- The code that reports of a category carry unless they have their own. -/
def Category.code : Category → Option String
  | .general => none
  | .script => some "SYNTAX_ERROR"
  | .plan => some "COMPILE_ERROR"
  | .settings => some "CONFIG_ERROR"

/-- A complaint to the user. -/
structure Report where
  category : Category
  message : String
  place : Place := {}
  code : Option String := category.code
  hint : Option String := none

/-- A text behind `lead`, or nothing if it is missing or empty. -/
def appended (lead tail : String) : Option String → String
  | some text => if text.isEmpty then "" else lead ++ text ++ tail
  | none => ""

/-- The report as one line: message, code, place and hint. -/
def Report.format (report : Report) : String :=
  report.message ++ appended " [" "]" report.code ++ appended " at " "" report.place.describe ++
    appended ". Hint: " "" report.hint

/-- What reading a script complains about. -/
structure Diagnostic where
  message : String
  place : Place := {}
  code : String := "SYNTAX_ERROR"
deriving DecidableEq, Repr

/-- The diagnostic a report becomes; its hint is dropped and a missing code filled in. -/
def Diagnostic.ofReport (report : Report) : Diagnostic :=
  { message := report.message
    place := report.place
    code :=
      match report.code with
      | some code => if code.isEmpty then "SYNTAX_ERROR" else code
      | none => "SYNTAX_ERROR" }

/-- The report that a diagnostic stands for. -/
def Diagnostic.toReport (diagnostic : Diagnostic) : Report :=
  { category := .script
    message := diagnostic.message
    place := diagnostic.place
    code := some diagnostic.code }

/-- The diagnostic as one line. -/
def Diagnostic.format (diagnostic : Diagnostic) : String := diagnostic.toReport.format

/-- A place or a range of lines in a file. -/
structure Location where
  file : String
  line : Int
  column : Int := 0
  endLine : Option Int := none
deriving DecidableEq, Repr

/-- File, line and column; or file and lines if the range covers several. -/
def Location.format (location : Location) : String :=
  let start := s!"{location.file}:{location.line}"
  match location.endLine with
  | some last =>
    if last != 0 && last != location.line then s!"{start}-{last}"
    else s!"{start}:{location.column}"
  | none => s!"{start}:{location.column}"

end PageScript
