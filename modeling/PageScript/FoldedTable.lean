import PageScript.Text.Folding

/-!
# Tables whose names ignore letter case

An ordered table from names to values in which two names are the same when they fold alike. A name
keeps the place of its first insertion and shows the spelling of its last write; removing it and
writing it again moves it to the end. Variables, bindings and parameters are all kept this way.
-/

namespace PageScript

/-- Two names that fold alike. -/
def sameName (a b : String) : Bool := Text.fold a == Text.fold b

theorem sameName_self (name : String) : sameName name name = true := beq_self_eq_true _

/-- What a table keeps under a folded name: the spelling of the last write, and the value. -/
structure FoldedTable.Entry (α : Type) where
  folded : String
  spelling : String
  value : α
  isFolded : folded = Text.fold spelling

/-- An ordered table; `entries` are in order of insertion. -/
structure FoldedTable (α : Type) where
  entries : List (FoldedTable.Entry α) := []

namespace FoldedTable

variable {α : Type}

/-- The entry that a write makes. -/
def Entry.of (name : String) (value : α) : Entry α := ⟨Text.fold name, name, value, rfl⟩

/-- The name as it is spelled, and the value. -/
def Entry.pair (entry : Entry α) : String × α := (entry.spelling, entry.value)

/-- The table without entries. -/
def empty : FoldedTable α := {}

instance : EmptyCollection (FoldedTable α) := ⟨empty⟩

instance : Inhabited (FoldedTable α) := ⟨empty⟩

/-- The names as they are spelled and their values, in order. -/
def toList (t : FoldedTable α) : List (String × α) := t.entries.map Entry.pair

/-- How many names the table holds. -/
def size (t : FoldedTable α) : Nat := t.entries.length

/-- The spelling and the value of `name`. -/
def entry? (t : FoldedTable α) (name : String) : Option (String × α) :=
  (t.entries.find? (Text.fold name == ·.folded)).map Entry.pair

/-- The value of `name`. -/
def get? (t : FoldedTable α) (name : String) : Option α := (t.entry? name).map (·.2)

/-- `name` is in the table. -/
def contains (t : FoldedTable α) (name : String) : Bool :=
  t.entries.any (Text.fold name == ·.folded)

/-- Replaces the entry with the same folded name in place, or adds one at the end. -/
def insertInto (entry : Entry α) : List (Entry α) → List (Entry α)
  | [] => [entry]
  | e :: rest => if entry.folded == e.folded then entry :: rest else e :: insertInto entry rest

/-- Writes `value` under `name`, in this spelling. -/
def insert (t : FoldedTable α) (name : String) (value : α) : FoldedTable α :=
  ⟨insertInto (.of name value) t.entries⟩

/-- Removes `name`; nothing happens if it is missing. -/
def erase (t : FoldedTable α) (name : String) : FoldedTable α :=
  ⟨t.entries.filter (Text.fold name != ·.folded)⟩

/-- Writes all `pairs` in order. -/
def insertAll (t : FoldedTable α) (pairs : List (String × α)) : FoldedTable α :=
  pairs.foldl (fun t p => t.insert p.1 p.2) t

/-- The table that results from writing `pairs` in order. -/
def ofList (pairs : List (String × α)) : FoldedTable α := empty.insertAll pairs

/-- The value of `name`, and the table without it. -/
def pop? (t : FoldedTable α) (name : String) : Option (α × FoldedTable α) :=
  (t.get? name).map fun value => (value, t.erase name)

/-- The first entry, and the table without it. -/
def popFirst? (t : FoldedTable α) : Option ((String × α) × FoldedTable α) :=
  match t.entries with
  | [] => none
  | e :: _ => some (e.pair, t.erase e.spelling)

theorem popFirst?_size {t rest : FoldedTable α} {entry : String × α}
    (h : t.popFirst? = some (entry, rest)) : rest.size < t.size := by
  unfold popFirst? at h
  split at h
  · cases h
  · rename_i first others he
    cases h
    rw [size, size, erase, he]
    dsimp only
    rw [List.filter_cons, first.isFolded, bne_self_eq_false]
    exact Nat.lt_succ_of_le (List.length_filter_le _ _)

/-- Takes out the first entry until none is left. -/
def clear (t : FoldedTable α) : FoldedTable α :=
  match _h : t.popFirst? with
  | some (_, rest) => rest.clear
  | none => t
termination_by t.size
decreasing_by exact popFirst?_size _h

/-- A table of its own with the same entries. -/
def copy (t : FoldedTable α) : FoldedTable α := ofList t.toList

/-- The value of `name`, writing `value` first if it has none. -/
def getOrInsert (t : FoldedTable α) (name : String) (value : α) : α × FoldedTable α :=
  match t.get? name with
  | some found => (found, t)
  | none => (value, t.insert name value)

/-- What can be done to a table. -/
inductive Operation (α : Type) where
  | set (name : String) (value : α)
  | delete (name : String)
  /-- Takes a name out; without the name the answer is the default. -/
  | pop (name : String) (default? : Option α)
  /-- Takes out the first entry. -/
  | popFirst
  /-- Gives the value of a name, which is written first if there is none. -/
  | setDefault (name : String) (value : α)
  | update (pairs : List (String × α))
  | clear

/-- What is answered to an operation. -/
inductive Answer (α : Type) where
  | done
  | value (value : α)
  | entry (entry : String × α)
  /-- There is nothing to take out. -/
  | missing

/-- Carries out an operation. -/
def apply (t : FoldedTable α) : Operation α → Answer α × FoldedTable α
  | .set name value => (.done, t.insert name value)
  | .delete name => if t.contains name then (.done, t.erase name) else (.missing, t)
  | .pop name default? =>
    match t.pop? name, default? with
    | some (value, rest), _ => (.value value, rest)
    | none, some value => (.value value, t)
    | none, none => (.missing, t)
  | .popFirst =>
    match t.popFirst? with
    | some (entry, rest) => (.entry entry, rest)
    | none => (.missing, t)
  | .setDefault name value =>
    let (found, changed) := t.getOrInsert name value
    (.value found, changed)
  | .update pairs => (.done, t.insertAll pairs)
  | .clear => (.done, t.clear)

/-- The folded names with their values, in order. -/
def foldedEntries (t : FoldedTable α) : List (String × α) :=
  t.entries.map fun e => (e.folded, e.value)

/-- The same folded names with equal values as a table made of the pairs of the other one, whatever
their order and spelling. -/
def equiv [BEq α] (t u : FoldedTable α) : Bool :=
  t.size == u.copy.size &&
    t.foldedEntries.all fun e => match u.copy.foldedEntries.lookup e.1 with
      | some value => e.2 == value
      | none => false

/-- The table written out, each entry rendered by `entry`. -/
def render (entry : String × α → String) (t : FoldedTable α) : String :=
  "CaseInsensitiveDict(\x7b" ++ ", ".intercalate (t.toList.map entry) ++ "\x7d)"

end FoldedTable

end PageScript
