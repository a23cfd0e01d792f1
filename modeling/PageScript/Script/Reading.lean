import PageScript.Report
import PageScript.Script.Statement
import PageScript.Text.Position

/-!
# Reading a script

A script is read statement by statement. A fault is recorded with its place, and reading resumes
behind the next line feed, so one broken statement does not hide the others. Only a number that
cannot be converted ends reading without a result.
-/

namespace PageScript.Script

/-- A recorded fault: what is wrong, and how much of the script is left from its place on. -/
structure Complaint where
  what : Problem
  remaining : Nat
deriving DecidableEq, Repr

/-- What was read from a script. -/
structure Reading where
  /-- The script with unified line ends. -/
  text : List Char
  statements : List Statement
  complaints : List Complaint

/-- Skips blanks, comments, line ends and semicolons. -/
def skipSeparators (text : List Char) : Except Fault (List Char) :=
  match _h : skipBlanks text with
  | .ok (';' :: rest) => skipSeparators rest
  | .ok rest => .ok rest
  | .error fault => .error fault
termination_by text.length
decreasing_by
  have := (skipBlanks_suffix _h).length_le
  simp only [List.length_cons] at this
  omega

theorem skipSeparators_suffix {text rest : List Char} (h : skipSeparators text = .ok rest) :
    rest <:+ text := by
  fun_induction skipSeparators text generalizing rest with
  | case1 text r hr ih =>
    exact ((ih h).trans (List.suffix_cons ';' r)).trans (skipBlanks_suffix hr)
  | case2 text r _ hr => cases h; exact skipBlanks_suffix hr
  | case3 => cases h

theorem skipSeparators_next {text rest : List Char} (h : skipBlanks text = .ok (';' :: rest)) :
    skipSeparators text = skipSeparators rest := by
  conv => lhs; unfold skipSeparators
  split
  · rename_i h'
    cases h.symm.trans h'
    rfl
  · rename_i hn h'
    exact absurd (Except.ok.inj (h'.symm.trans h)) (hn rest)
  · rename_i h'
    cases h.symm.trans h'

theorem skipSeparators_stays {text rest : List Char} (h : skipBlanks text = .ok rest)
    (hn : ∀ behind, rest ≠ ';' :: behind) : skipSeparators text = .ok rest := by
  rw [skipSeparators]
  split
  · rename_i h'
    exact absurd (Except.ok.inj (h.symm.trans h')) (hn _)
  · rename_i h'
    exact h'.symm.trans h
  · rename_i h'
    cases h.symm.trans h'

theorem skipSeparators_fails {text : List Char} {fault : Fault}
    (h : skipBlanks text = .error fault) : skipSeparators text = .error fault := by
  rw [skipSeparators]
  split
  · rename_i h'
    cases h.symm.trans h'
  · rename_i h'
    cases h.symm.trans h'
  · rename_i h'
    exact congrArg Except.error (Except.error.inj (h'.symm.trans h))

/-- Where reading resumes after the statement in front of `behind`, its first character apart, has
failed at `reached`: behind the next line feed. -/
def resume (behind reached : List Char) : List Char :=
  let from_ := if reached.length ≤ behind.length then reached else behind
  (from_.dropWhile (· != '\n')).tail

theorem resume_length (behind reached : List Char) :
    (resume behind reached).length ≤ behind.length := by
  unfold resume
  have h (l : List Char) : (l.dropWhile (· != '\n')).tail.length ≤ l.length :=
    ((List.tail_suffix _).trans (List.dropWhile_suffix _)).length_le
  dsimp only
  split
  · exact Nat.le_trans (h _) (by assumption)
  · exact h _

/-- The statements and complaints of a script. -/
def readStatements (text : List Char) :
    Except Numeral.IntegerFault (List Statement × List Complaint) :=
  match _h : skipSeparators text with
  | .ok [] => .ok ([], [])
  | .ok (c :: t) =>
    match statement (c :: t) with
    | .ok found => do
      let (statements, complaints) ← readStatements found.rest
      return (found.value :: statements, complaints)
    | .error (.problem what site reached) => do
      let (statements, complaints) ← readStatements (resume t reached)
      return (statements, ⟨what, site.length⟩ :: complaints)
    | .error (.numeral fault) => .error fault
  | .error (.problem what site _) => .ok ([], [⟨what, site.length⟩])
  | .error (.numeral fault) => .error fault
termination_by text.length
decreasing_by
  · have h1 := (skipSeparators_suffix _h).length_le
    have h2 := found.shorter
    omega
  · have h1 := (skipSeparators_suffix _h).length_le
    have h2 := resume_length t reached
    simp only [List.length_cons] at h1
    omega

/-- Reads a script. -/
def read (source : String) : Except Numeral.IntegerFault Reading := do
  let text := Text.unifyLineEnds source.toList
  let (statements, complaints) ← readStatements text
  return { text, statements, complaints }

/-- The line and column from which on `remaining` characters are left. -/
def Reading.position (reading : Reading) (remaining : Nat) : Text.Position :=
  Text.position reading.text (reading.text.length - remaining)

/-- The place of a part of the script. -/
def Reading.location (reading : Reading) (file : String) (extent : Extent) : Location :=
  let place := reading.position extent.remaining
  { file, line := place.line, column := place.column }

/-- The complaints as diagnostics of the block `block` of the page `path`. -/
def Reading.diagnostics (reading : Reading) (path : String) (block : Option Int) :
    List Diagnostic :=
  reading.complaints.map fun complaint =>
    let place := reading.position complaint.remaining
    { message := complaint.what.message
      place :=
        { path := some path, block, line := some (place.line : Int)
          column := some (place.column : Int) } }

end PageScript.Script
