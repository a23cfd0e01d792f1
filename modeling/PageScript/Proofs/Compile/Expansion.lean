import PageScript.Proofs.Compile.Quoting
import PageScript.Proofs.Text.Cut

/-!
# What the body of a double-quoted string means

A body is made of segments: characters that stand for themselves, escaped characters, doubled quotes
and references. Each segment has a meaning of its own. If no reference runs into what follows it, the
body expands to the meanings of its segments, one after the other. A value is thus inserted as it is,
even if it reads like a reference itself.
-/

namespace PageScript.Compile

open Script (isExpandMark)

/-! ## References -/

/-- A letter or underscore and the letters, digits and underscores behind it, all of them ASCII. -/
structure Identifier where
  first : Char
  others : List Char
  starts : isPlainStart first = true
  continues : others.all isPlainChar = true

def Identifier.chars (name : Identifier) : List Char := name.first :: name.others

/-- A reference to a variable, with or without a drive and braces. -/
structure Reference where
  drive : Option Identifier := none
  name : Identifier
  braced : Bool := false

namespace Reference

/-- The drive and the name, with a colon between them. -/
def path (r : Reference) : List Char :=
  match r.drive with
  | some drive => drive.chars ++ ':' :: r.name.chars
  | none => r.name.chars

/-- What stands behind the dollar sign. -/
def body (r : Reference) : List Char :=
  if r.braced then '\x7b' :: (r.path ++ ['\x7d']) else r.path

def text (r : Reference) : List Char := '$' :: r.body

def driveName? (r : Reference) : Option String := r.drive.map fun drive => String.ofList drive.chars

/-- The value that a reference has: in the environment drive, in any letter case, that of the
environment unless it is empty, and elsewhere that of the automatic variable or else of the known one. -/
def value? (r : Reference) (scope : Scope) : Option String :=
  let name := String.ofList r.name.chars
  if Script.isEnvDrive r.driveName? then scope.environ.set? name
  else (automaticVariables.get? name).or (scope.known.get? name)

/-- Without braces the reference would take in some of the text behind it: a character of a name or,
if it has no drive yet, a colon and a name. -/
def goesOn (r : Reference) : List Char → Bool
  | ':' :: c :: _ => r.drive.isNone && isPlainStart c
  | c :: _ => isPlainChar c
  | [] => false

/-- The reference does not run into the text behind it. -/
def EndsBefore (r : Reference) (rest : List Char) : Prop :=
  r.braced = true ∨ r.goesOn rest = false

end Reference

theorem isPlainChar_of_isPlainStart {c : Char} (h : isPlainStart c = true) :
    isPlainChar c = true := by
  simp only [isPlainStart, Bool.or_eq_true] at h
  simp only [isPlainChar, Char.isAlphanum, Bool.or_eq_true]
  exact h.imp_left .inl

theorem Identifier.isPlainChar_of_mem {name : Identifier} {c : Char} (h : c ∈ name.chars) :
    isPlainChar c = true := by
  rcases List.mem_cons.1 h with rfl | h
  · exact isPlainChar_of_isPlainStart name.starts
  · exact List.all_eq_true.1 name.continues c h

/-- A character that no name has stands in none. -/
theorem Identifier.not_mem {c : Char} (hc : isPlainChar c = false) (name : Identifier) :
    c ∉ name.chars := by
  intro h
  rw [isPlainChar_of_mem h] at hc
  cases hc

/-- A name ends where no character of a name follows. -/
theorem plainName?_append (name : Identifier) {rest : List Char}
    (h : ∀ c ∈ rest.head?, isPlainChar c = false) :
    plainName? (name.chars ++ rest) = some (name.chars, rest) := by
  have inside := List.all_eq_true.1 name.continues
  rw [Identifier.chars, List.cons_append, plainName?, if_pos name.starts,
    Text.takeWhile_append_stop inside h, Text.dropWhile_append_stop inside h]

theorem Identifier.first_ne {c : Char} (hc : isPlainStart c = false) (name : Identifier) :
    name.first ≠ c := by
  intro h
  rw [← h, name.starts] at hc
  cases hc

namespace Reference

/-! ## Where a reference ends -/

/-- What does not go on with a reference does not go on with its name. -/
theorem stops_of_goesOn {r : Reference} {rest : List Char} (h : r.goesOn rest = false) :
    ∀ c ∈ rest.head?, isPlainChar c = false := by
  intro c hc
  match rest, hc with
  | [d], hc =>
    cases hc
    rw [goesOn] at h
    · exact h
    · simp
  | d :: e :: rest, hc =>
    cases hc
    by_cases hd : c = ':'
    · rw [hd]
      decide
    · rw [goesOn] at h
      · exact h
      · intro _ _ he
        exact absurd he hd

theorem colon_of_goesOn {r : Reference} {rest : List Char} (hd : r.drive = none)
    (h : r.goesOn (':' :: rest) = false) : plainName? rest = none := by
  cases rest with
  | nil => rfl
  | cons c rest =>
    rw [goesOn, hd, Option.isNone_none, Bool.true_and] at h
    rw [plainName?, h, if_neg Bool.false_ne_true]

theorem mem_path {r : Reference} {c : Char} (h : c ∈ r.path) : isPlainChar c = true ∨ c = ':' := by
  unfold path at h
  split at h
  · rcases List.mem_append.1 h with h | h
    · exact .inl (Identifier.isPlainChar_of_mem h)
    · rcases List.mem_cons.1 h with rfl | h
      · exact .inr rfl
      · exact .inl (Identifier.isPlainChar_of_mem h)
  · exact .inl (Identifier.isPlainChar_of_mem h)

theorem brace_not_mem_path (r : Reference) : '\x7d' ∉ r.path := by
  intro h
  rcases mem_path h with h | h
  · exact absurd h (by decide)
  · exact absurd h (by decide)

theorem mem_body {r : Reference} {c : Char} (h : c ∈ r.body) :
    isPlainChar c = true ∨ c = ':' ∨ c = '\x7b' ∨ c = '\x7d' := by
  unfold body at h
  split at h
  · simp only [List.mem_cons, List.mem_append, List.not_mem_nil, or_false] at h
    rcases h with rfl | h | rfl
    · simp
    · exact (mem_path h).imp_right .inl
    · simp
  · exact (mem_path h).imp_right .inl

/-- Nothing behind the dollar sign has a meaning of its own between double quotes. -/
theorem isExpandMark_of_mem_body {r : Reference} {c : Char} (h : c ∈ r.body) :
    isExpandMark c = false := by
  rw [Bool.eq_false_iff]
  intro hm
  simp only [isExpandMark, Bool.or_eq_true, beq_iff_eq] at hm
  rcases hm with (rfl | rfl) | rfl
  · exact absurd (mem_body h) (by decide)
  · exact absurd (mem_body h) (by decide)
  · exact absurd (mem_body h) (by decide)

/-- The characters of the drive; none if there is no drive. -/
def driveChars (r : Reference) : List Char := (r.drive.map Identifier.chars).getD []

theorem cutLast_path (r : Reference) :
    Text.cutLast ':' r.path = (r.drive.map Identifier.chars, r.name.chars) := by
  have colon := r.name.not_mem (show isPlainChar ':' = false by decide)
  unfold path
  cases r.drive with
  | none => exact Text.cutLast_none colon
  | some drive => exact Text.cutLast_mark colon drive.chars

theorem referenceParts?_braces (r : Reference) (rest : List Char) :
    referenceParts? ('\x7b' :: (r.path ++ '\x7d' :: rest)) =
      some (r.driveChars, r.name.chars, rest) := by
  rw [referenceParts?, Text.cut?_mark r.brace_not_mem_path rest]
  simp only [cutLast_path, driveChars]

theorem head?_path (r : Reference) (rest : List Char) : (r.path ++ rest).head? ≠ some '\x7b' := by
  have starts (name : Identifier) : name.first ≠ '\x7b' := name.first_ne (by decide)
  unfold path
  cases r.drive with
  | none => simpa [Identifier.chars] using starts r.name
  | some drive => simpa [Identifier.chars] using starts drive

theorem referenceParts?_path {r : Reference} {rest : List Char} (h : r.goesOn rest = false) :
    referenceParts? (r.path ++ rest) = some (r.driveChars, r.name.chars, rest) := by
  have name := plainName?_append r.name (stops_of_goesOn h)
  have head := r.head?_path rest
  rw [referenceParts?]
  · unfold path driveChars
    cases hd : r.drive with
    | none =>
      simp only [name]
      split
      · rename_i first behind he
        cases he
        rw [colon_of_goesOn hd h]
        rfl
      · rename_i first behind _ he
        cases he
        rfl
      · rename_i he
        cases he
    | some drive =>
      have before : plainName? (drive.chars ++ ':' :: (r.name.chars ++ rest)) =
          some (drive.chars, ':' :: (r.name.chars ++ rest)) := by
        apply plainName?_append
        intro c hc
        cases hc
        decide
      simp only [List.append_assoc, List.cons_append, before, name]
      rfl
  · intro text ht
    rw [ht] at head
    exact head rfl

/-- A reference that ends before `rest` is read as what it is. -/
theorem referenceParts?_body {r : Reference} {rest : List Char} (h : r.EndsBefore rest) :
    referenceParts? (r.body ++ rest) = some (r.driveChars, r.name.chars, rest) := by
  unfold body
  by_cases hb : r.braced = true
  · rw [if_pos hb, List.cons_append, List.append_assoc, List.singleton_append]
    exact r.referenceParts?_braces rest
  · rw [if_neg hb]
    exact referenceParts?_path (h.resolve_left hb)

theorem reference?_eq_value? (r : Reference) (scope : Scope) :
    scope.reference? (String.ofList r.driveChars) (String.ofList r.name.chars) = r.value? scope := by
  unfold Scope.reference? value? driveName? driveChars
  cases r.drive with
  | none => rfl
  | some drive => rfl

end Reference

/-! ## Segments -/

/-- A segment of the body of a double-quoted string. -/
inductive Segment where
  | plain (c : Char) (h : isExpandMark c = false)
  | escape (c : Char)
  | quote
  | reference (r : Reference)

namespace Segment

def text : Segment → List Char
  | plain c _ => [c]
  | escape c => ['`', c]
  | quote => ['"', '"']
  | reference r => r.text

/-- What a segment stands for; a reference without a value stands for itself. -/
def meaning (scope : Scope) : Segment → List Char
  | plain c _ => [c]
  | escape c => [escaped c]
  | quote => ['"']
  | reference r =>
    match r.value? scope with
    | some value => value.toList
    | none => r.text

def EndsBefore : Segment → List Char → Prop
  | reference r, rest => r.EndsBefore rest
  | _, _ => True

/-- No reference among the segments runs into what follows it. -/
def Divided : List Segment → Prop
  | [] => True
  | segment :: rest => segment.EndsBefore (rest.flatMap text) ∧ Divided rest

end Segment

theorem Scope.expandChars_unmarked (scope : Scope) {text : List Char}
    (h : ∀ c ∈ text, isExpandMark c = false) (rest : List Char) :
    scope.expandChars (text ++ rest) = text ++ scope.expandChars rest := by
  induction text with
  | nil => rfl
  | cons c text ih =>
    rw [List.forall_mem_cons] at h
    have hc := h.1
    simp only [isExpandMark, Bool.or_eq_false_iff, beq_eq_false_iff_ne] at hc
    rw [List.cons_append, Scope.expandChars_plain hc.1.1 hc.1.2 hc.2, ih h.2, List.cons_append]

/-- A segment expands to its meaning, and the text behind it as it does alone. -/
theorem Scope.expandChars_segment (scope : Scope) {segment : Segment} {rest : List Char}
    (h : segment.EndsBefore rest) :
    scope.expandChars (segment.text ++ rest) = segment.meaning scope ++ scope.expandChars rest := by
  cases segment with
  | plain c hc =>
    apply scope.expandChars_unmarked
    intro d hd
    rw [List.mem_singleton.1 hd]
    exact hc
  | escape c =>
    show scope.expandChars ('`' :: c :: rest) = escaped c :: scope.expandChars rest
    rw [Scope.expandChars]
  | quote =>
    show scope.expandChars ('"' :: '"' :: rest) = '"' :: scope.expandChars rest
    rw [Scope.expandChars]
  | reference r =>
    have parts := Reference.referenceParts?_body h
    have kept := scope.expandChars_unmarked (fun _ hc => r.isExpandMark_of_mem_body hc) rest
    show scope.expandChars ('$' :: (r.body ++ rest)) = _
    rw [Scope.expandChars_reference scope parts, r.reference?_eq_value?, Segment.meaning]
    cases r.value? scope with
    | some value => rfl
    | none => rw [kept]; rfl

theorem Scope.expandChars_segments (scope : Scope) {segments : List Segment}
    (h : Segment.Divided segments) :
    scope.expandChars (segments.flatMap Segment.text) = segments.flatMap (Segment.meaning scope) := by
  induction segments with
  | nil =>
    rw [List.flatMap_nil, Scope.expandChars]
    rfl
  | cons segment segments ih =>
    rw [List.flatMap_cons, scope.expandChars_segment h.1, ih h.2, List.flatMap_cons]

/-- A body whose references do not run into what follows them expands to the meanings of its
segments, for all variables and every environment. -/
theorem Scope.expand_segments (scope : Scope) {segments : List Segment}
    (h : Segment.Divided segments) :
    scope.expand (String.ofList (segments.flatMap Segment.text)) =
      String.ofList (segments.flatMap (Segment.meaning scope)) := by
  rw [Scope.expand, String.toList_ofList, scope.expandChars_segments h]

/-- A scope whose values read like references and escapes themselves. -/
def nestedScope : Scope where
  environ name := if name = "HOME" then some "$\x7bx\x7d" else if name = "NONE" then some "" else none
  known := .ofList [("x", "$y`n\"\"")]

/-- A body with each kind of segment, and references in all their forms. -/
def nestedBody : List Segment :=
  let x : Identifier := ⟨'X', [], rfl, rfl⟩
  let home : Identifier := ⟨'H', ['O', 'M', 'E'], rfl, rfl⟩
  let environ : Identifier := ⟨'e', ['N', 'v'], rfl, rfl⟩
  [.escape 'n', .reference { name := x }, .plain ':' rfl, .escape '$', .reference { name := x },
    .plain ':' rfl, .plain '-' rfl, .reference { name := x, braced := true }, .plain 'a' rfl, .quote,
    .reference { drive := some environ, name := home, braced := true }, .plain 'b' rfl,
    .reference { drive := some environ, name := ⟨'N', ['O', 'N', 'E'], rfl, rfl⟩ }, .plain ':' rfl,
    .plain 'c' rfl, .reference { drive := some x, name := ⟨'t', ['r', 'u', 'e'], rfl, rfl⟩ },
    .reference { name := home, braced := true }]

theorem Scope.expand_segments_nestedBody :
    Segment.Divided nestedBody ∧
    nestedScope.expand
        "`n$X:`$$X:-$\x7bX\x7da\"\"$\x7beNv:HOME\x7db$eNv:NONE:c$X:true$\x7bHOME\x7d" =
      "\n$y`n\"\":$$y`n\"\":-$y`n\"\"a\"$\x7bx\x7db$eNv:NONE:cTrue$\x7bHOME\x7d" := by
  have divided : Segment.Divided nestedBody :=
    ⟨trivial, .inr rfl, trivial, trivial, .inr rfl, trivial, trivial, .inl rfl, trivial, trivial,
      .inl rfl, trivial, .inr rfl, trivial, trivial, .inr rfl, .inl rfl, trivial⟩
  refine ⟨divided, (nestedScope.expand_segments divided).trans ?_⟩
  decide +kernel

end PageScript.Compile
