import PageScript.FoldedTable
import PageScript.Script.Tree
import PageScript.Settings.Basic
import PageScript.Text.Cut

/-!
# What names and strings stand for

A scope is the process environment together with the variables that are known at a place of a block.
A double-quoted string is expanded in one pass from left to right: escapes and doubled quotes are
replaced, and a reference by its value, which is not scanned again; a reference without a value stays
as it is.
-/

namespace PageScript.Compile

/-- The environment and the variables known at a place of a block. -/
structure Scope where
  environ : Environ
  known : FoldedTable String := .empty

/-- The variables every script has. -/
def automaticVariables : FoldedTable String :=
  .ofList [("true", "True"), ("false", "False"), ("null", "")]

/-- The value of a variable, if it is known. -/
def Scope.lookup? (scope : Scope) (name : String) : Option String :=
  (automaticVariables.get? name).or (scope.known.get? name)

/-- The value of a reference in a string; in the environment drive an empty value is none. -/
def Scope.reference? (scope : Scope) (drive name : String) : Option String :=
  if Text.fold drive == "env" then scope.environ.set? name else scope.lookup? name

/-- The characters that a backtick gives a meaning; any other character stands for itself. -/
def escaped : Char → Char
  | '0' => '\x00'
  | 'a' => '\x07'
  | 'b' => '\x08'
  | 'e' => '\x1b'
  | 'f' => '\x0c'
  | 'n' => '\n'
  | 'r' => '\r'
  | 't' => '\t'
  | 'v' => '\x0b'
  | c => c

/-- A character a plain name in a string starts with. -/
def isPlainStart (c : Char) : Bool := c.isAlpha || c == '_'

/-- A character of a plain name. -/
def isPlainChar (c : Char) : Bool := c.isAlphanum || c == '_'

/-- The plain name at the start of a text and what follows it. -/
def plainName? : List Char → Option (List Char × List Char)
  | c :: rest =>
    if isPlainStart c then some (c :: rest.takeWhile isPlainChar, rest.dropWhile isPlainChar)
    else none
  | [] => none

theorem plainName?_suffix {text name rest : List Char} (h : plainName? text = some (name, rest)) :
    rest <:+ text := by
  unfold plainName? at h
  split at h
  · split at h
    · cases h
      exact (List.dropWhile_suffix _).trans (List.suffix_cons _ _)
    · cases h
  · cases h

/-- The drive and the name of the reference behind a dollar sign, and what follows it. In braces
the last colon divides them, elsewhere a colon between two plain names does. -/
def referenceParts? : List Char → Option (List Char × List Char × List Char)
  | '\x7b' :: text =>
    match Text.cut? ['\x7d'] text with
    | some (inner, rest) =>
      let (drive, name) := Text.cutLast ':' inner
      some (drive.getD [], name, rest)
    | none => none
  | text =>
    match plainName? text with
    | some (first, ':' :: rest) =>
      match plainName? rest with
      | some (second, after) => some (first, second, after)
      | none => some ([], first, ':' :: rest)
    | some (name, rest) => some ([], name, rest)
    | none => none

theorem referenceParts?_suffix {text drive name rest : List Char}
    (h : referenceParts? text = some (drive, name, rest)) : rest <:+ text := by
  unfold referenceParts? at h
  split at h
  · rename_i t
    split at h
    · rename_i inner after hc
      simp only [Option.some.injEq, Prod.mk.injEq] at h
      obtain ⟨-, -, rfl⟩ := h
      exact ⟨'\x7b' :: (inner ++ ['\x7d']), by rw [Text.eq_of_cut? hc]; simp⟩
    · cases h
  · split at h
    · rename_i first after hp
      have hs := plainName?_suffix hp
      split at h
      · rename_i second behind hq
        simp only [Option.some.injEq, Prod.mk.injEq] at h
        obtain ⟨-, -, rfl⟩ := h
        exact (plainName?_suffix hq).trans ((List.suffix_cons ':' after).trans hs)
      · simp only [Option.some.injEq, Prod.mk.injEq] at h
        obtain ⟨-, -, rfl⟩ := h
        exact hs
    · rename_i hp
      simp only [Option.some.injEq, Prod.mk.injEq] at h
      obtain ⟨-, -, rfl⟩ := h
      exact plainName?_suffix hp
    · cases h

/-- Expands the body of a double-quoted string. -/
def Scope.expandChars (scope : Scope) (body : List Char) : List Char :=
  match body with
  | [] => []
  | '`' :: c :: rest => escaped c :: scope.expandChars rest
  | '"' :: '"' :: rest => '"' :: scope.expandChars rest
  | '$' :: text =>
    match _h : referenceParts? text with
    | some (drive, name, rest) =>
      match scope.reference? (String.ofList drive) (String.ofList name) with
      | some value => value.toList ++ scope.expandChars rest
      | none => '$' :: scope.expandChars text
    | none => '$' :: scope.expandChars text
  | c :: rest => c :: scope.expandChars rest
termination_by body.length
decreasing_by
  · simp only [List.length_cons]; omega
  · simp only [List.length_cons]; omega
  · have := (referenceParts?_suffix _h).length_le
    simp only [List.length_cons]
    omega
  · simp
  · simp
  · simp

theorem Scope.expandChars_reference {text drive name rest : List Char} (scope : Scope)
    (h : referenceParts? text = some (drive, name, rest)) :
    scope.expandChars ('$' :: text) =
      match scope.reference? (String.ofList drive) (String.ofList name) with
      | some value => value.toList ++ scope.expandChars rest
      | none => '$' :: scope.expandChars text := by
  rw [Scope.expandChars]
  split
  · rename_i hp
    cases h.symm.trans hp
    rfl
  · rename_i hp
    cases h.symm.trans hp

theorem Scope.expandChars_dollar {text : List Char} (scope : Scope)
    (h : referenceParts? text = none) :
    scope.expandChars ('$' :: text) = '$' :: scope.expandChars text := by
  rw [Scope.expandChars]
  split
  · rename_i hp
    cases h.symm.trans hp
  · rfl

theorem Scope.expandChars_plain {c : Char} (hb : c ≠ '`') (hq : c ≠ '"') (hd : c ≠ '$')
    (scope : Scope) (rest : List Char) :
    scope.expandChars (c :: rest) = c :: scope.expandChars rest := by
  rw [Scope.expandChars]
  · exact fun _ _ h => absurd h hb
  · exact fun _ h => absurd h hq
  · exact hd

/-- Expands the body of a double-quoted string. -/
def Scope.expand (scope : Scope) (body : String) : String :=
  String.ofList (scope.expandChars body.toList)

end PageScript.Compile
