import PageScript.Found
import PageScript.Script.Group

/-!
# Text that is passed over

What compilation never looks inside is read item by item up to a stopping character: groups and
strings are passed over whole, so that a stopping character in them does not count, and a closing
bracket without its opener is refused.
-/

namespace PageScript.Script

/-- The characters that end a bare word. -/
def endsWord (c : Char) : Bool :=
  c == ' ' || c == '\t' || c == '\n' || c == ';' || c == '|' || c == '(' || c == ')' ||
    c == '\x7b' || c == '\x7d' || c == ','

/-- The characters that end a command or the value of an assignment. -/
def endsElement (c : Char) : Bool :=
  c == '\n' || c == ';' || c == '|' || c == ')' || c == '\x7d'

/-- The characters that end a statement. -/
def endsStatement (c : Char) : Bool := c == '\n' || c == ';'

/-- The characters that end the value of a hashtable entry. -/
def endsEntry (c : Char) : Bool := c == '\n' || c == ';' || c == '\x7d'

/-- The text is over or stands at a stopping character. -/
def stopped (stops : Char → Bool) : List Char → Bool
  | [] => true
  | c :: _ => stops c

/-- Passes over one item. -/
def rawItem (c : Char) (rest : List Char) : Except Fault (List Char) :=
  match closerOf? c with
  | some closer => groupRest closer (c :: rest)
  | none =>
    if isCloser c then .error (.unexpected (c :: rest))
    else if c = '"' then doubleQuotedRest (c :: rest)
    else flatItem c rest

theorem rawItem_suffix {c : Char} {rest after : List Char} (h : rawItem c rest = .ok after) :
    after <:+ rest := by
  unfold rawItem at h
  split at h
  · exact groupRest_suffix h
  · split at h
    · cases h
    · split at h
      · exact doubleQuotedRest_suffix h
      · exact flatItem_suffix h

/-- Passes over items up to a stopping character. -/
def rawRest (stops : Char → Bool) : List Char → Except Fault (List Char)
  | [] => .ok []
  | c :: rest =>
    if stops c then .ok (c :: rest)
    else
      match _h : rawItem c rest with
      | .ok after => rawRest stops after
      | .error fault => .error fault
termination_by text => text.length
decreasing_by
  have := (rawItem_suffix _h).length_le
  simp only [List.length_cons]
  omega

theorem rawRest_stop {stops : Char → Bool} {c : Char} (hs : stops c = true) (rest : List Char) :
    rawRest stops (c :: rest) = .ok (c :: rest) := by
  rw [rawRest, if_pos hs]

theorem rawRest_step {stops : Char → Bool} {c : Char} {rest after : List Char}
    (hs : stops c = false) (h : rawItem c rest = .ok after) :
    rawRest stops (c :: rest) = rawRest stops after := by
  conv => lhs; unfold rawRest
  rw [if_neg (ne_true_of_eq_false hs)]
  split
  · rename_i h'
    cases h.symm.trans h'
    rfl
  · rename_i h'
    cases h.symm.trans h'

theorem rawRest_fails {stops : Char → Bool} {c : Char} {rest : List Char} {fault : Fault}
    (hs : stops c = false) (h : rawItem c rest = .error fault) :
    rawRest stops (c :: rest) = .error fault := by
  rw [rawRest, if_neg (ne_true_of_eq_false hs)]
  split
  · rename_i h'
    cases h.symm.trans h'
  · rename_i h'
    cases h.symm.trans h'
    rfl

theorem rawRest_suffix {stops : Char → Bool} {text rest : List Char}
    (h : rawRest stops text = .ok rest) : rest <:+ text := by
  fun_induction rawRest stops text with
  | case1 => cases h; exact List.suffix_rfl
  | case2 => cases h; exact List.suffix_rfl
  | case3 c t _ after ha ih => exact ((ih h).trans (rawItem_suffix ha)).trans (List.suffix_cons c t)
  | case4 => cases h

/-- Passes over the item at `c` and the items behind it. -/
def rawBehind (stops : Char → Bool) (c : Char) (rest : List Char) : Except Fault (List Char) := do
  rawRest stops (← rawItem c rest)

theorem rawBehind_suffix {stops : Char → Bool} {c : Char} {rest after : List Char}
    (h : rawBehind stops c rest = .ok after) : after <:+ rest := by
  unfold rawBehind at h
  cases hi : rawItem c rest with
  | error => simp [hi, bind, Except.bind] at h
  | ok r =>
    simp only [hi, bind, Except.bind] at h
    exact (rawRest_suffix h).trans (rawItem_suffix hi)

end PageScript.Script
