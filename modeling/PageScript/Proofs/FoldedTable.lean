import PageScript.FoldedTable

/-!
# Reading a table after it has changed

What `get?` gives after a write and after a removal: the entry of the name that was changed, in any
spelling, and every other entry as it was. A table is told by its pairs of names and values
(`toList_inj`), so a write and a removal are followed on these.
-/

namespace PageScript

theorem sameName_comm (a b : String) : sameName a b = sameName b a := by
  rw [sameName, sameName, Bool.beq_comm]

/-- Names that fold alike are told apart from any other name in the same way. -/
theorem sameName_congr {a b : String} (h : sameName a b = true) (c : String) :
    sameName a c = sameName b c := by
  rw [sameName, beq_iff_eq] at h
  rw [sameName, sameName, h]

namespace FoldedTable

variable {α : Type}

/-! ## The pairs of a table -/

theorem Entry.eq_of_pair {entry other : Entry α} (h : entry.pair = other.pair) : entry = other := by
  obtain ⟨folded, spelling, value, rfl⟩ := entry
  obtain ⟨folded', spelling', value', rfl⟩ := other
  cases h
  rfl

theorem toList_inj {table other : FoldedTable α} : table.toList = other.toList ↔ table = other := by
  refine ⟨fun h => ?_, congrArg toList⟩
  exact congrArg mk ((List.map_inj_right fun _ _ => Entry.eq_of_pair).1 h)

theorem Entry.fold_beq (entry : Entry α) (name : String) :
    (Text.fold name == entry.folded) = sameName name entry.pair.1 := by
  rw [entry.isFolded]
  rfl

theorem entry?_eq_find? (table : FoldedTable α) (name : String) :
    table.entry? name = table.toList.find? (sameName name ·.1) := by
  rw [toList, List.find?_map]
  refine congrArg (fun p => (table.entries.find? p).map Entry.pair) (funext fun entry => ?_)
  exact entry.fold_beq name

/-- Replaces the pair of `name` in place, or adds one at the end. -/
def writeInto (name : String) (value : α) : List (String × α) → List (String × α)
  | [] => [(name, value)]
  | e :: rest => if sameName name e.1 then (name, value) :: rest else e :: writeInto name value rest

theorem toList_insert (table : FoldedTable α) (name : String) (value : α) :
    (table.insert name value).toList = writeInto name value table.toList := by
  obtain ⟨entries⟩ := table
  show (insertInto _ entries).map Entry.pair = writeInto name value (entries.map Entry.pair)
  induction entries with
  | nil => rfl
  | cons entry rest ih =>
    rw [insertInto, List.map_cons, writeInto, ← ih, ← entry.fold_beq]
    show (if Text.fold name == entry.folded then _ else _ : List (Entry α)).map Entry.pair = _
    cases Text.fold name == entry.folded <;> rfl

theorem toList_erase (table : FoldedTable α) (name : String) :
    (table.erase name).toList = table.toList.filter (!sameName name ·.1) := by
  rw [toList, toList, erase, List.filter_map]
  refine congrArg (fun p => (table.entries.filter p).map Entry.pair) (funext fun entry => ?_)
  exact congrArg (!·) (entry.fold_beq name)

theorem popFirst?_eq (table : FoldedTable α) :
    table.popFirst? = table.toList.head?.map fun entry => (entry, table.erase entry.1) := by
  rw [popFirst?, toList]
  cases table.entries <;> rfl

/-- The folded names that are kept are those of the spellings that are shown. -/
theorem foldedEntries_eq (table : FoldedTable α) :
    table.foldedEntries = table.toList.map fun entry => (Text.fold entry.1, entry.2) := by
  rw [foldedEntries, toList, List.map_map]
  refine List.map_congr_left fun entry _ => ?_
  rw [entry.isFolded]
  rfl

/-! ## Lookups -/

theorem find?_writeInto (name other : String) (value : α) (entries : List (String × α)) :
    (writeInto name value entries).find? (sameName other ·.1) =
      if sameName other name then some (name, value)
      else entries.find? (sameName other ·.1) := by
  induction entries with
  | nil =>
    rw [writeInto, List.find?_cons]
    cases sameName other name <;> rfl
  | cons entry rest ih =>
    rw [writeInto]
    cases hn : sameName name entry.1 with
    | true =>
      have ho : sameName other entry.1 = sameName other name := by
        rw [sameName_comm other, sameName_comm other, sameName_congr hn]
      rw [if_pos rfl, List.find?_cons, List.find?_cons, ho]
      cases sameName other name <;> rfl
    | false =>
      rw [if_neg Bool.false_ne_true, List.find?_cons, List.find?_cons]
      cases ho : sameName other entry.1 with
      | true =>
        have hne : sameName other name = false := by
          cases hs : sameName other name with
          | false => rfl
          | true => rw [← hn, ← sameName_congr hs, ho]
        rw [hne]
        rfl
      | false => exact ih

theorem get?_congr {name other : String} (h : sameName name other = true) (table : FoldedTable α) :
    table.get? name = table.get? other := by
  rw [get?, get?, entry?_eq_find?, entry?_eq_find?,
    funext fun entry : String × α => sameName_congr h entry.1]

theorem get?_insert (table : FoldedTable α) (name other : String) (value : α) :
    (table.insert name value).get? other =
      if sameName other name then some value else table.get? other := by
  rw [get?, entry?_eq_find?, toList_insert, find?_writeInto, ← entry?_eq_find?]
  split <;> rfl

theorem find?_filter_names (name other : String) (entries : List (String × α)) :
    (entries.filter (!sameName name ·.1)).find? (sameName other ·.1) =
      if sameName other name then none else entries.find? (sameName other ·.1) := by
  rw [List.find?_filter]
  cases ho : sameName other name with
  | true =>
    rw [if_pos rfl, List.find?_eq_none]
    intro entry _
    rw [← sameName_congr ho]
    cases sameName other entry.1 <;> decide
  | false =>
    rw [if_neg Bool.false_ne_true]
    congr 1
    funext entry
    cases he : sameName other entry.1 with
    | true =>
      have hn : sameName name entry.1 = false := by
        cases hs : sameName name entry.1 with
        | false => rfl
        | true => rw [← ho, sameName_comm other name, sameName_congr hs, sameName_comm, he]
      rw [hn]
      rfl
    | false => simp

theorem get?_erase (table : FoldedTable α) (name other : String) :
    (table.erase name).get? other = if sameName other name then none else table.get? other := by
  rw [get?, entry?_eq_find?, toList_erase, find?_filter_names, ← entry?_eq_find?]
  split <;> rfl

theorem contains_eq_isSome_get? (table : FoldedTable α) (name : String) :
    table.contains name = (table.get? name).isSome := by
  rw [get?, Option.isSome_map, entry?, Option.isSome_map, Bool.eq_iff_iff, List.find?_isSome, contains,
    List.any_eq_true]

theorem writeInto_eq_self_iff {name : String} {value : α} {entries : List (String × α)} :
    writeInto name value entries = entries ↔
      entries.find? (sameName name ·.1) = some (name, value) := by
  induction entries with
  | nil => simp [writeInto]
  | cons entry rest ih =>
    rw [writeInto, List.find?_cons]
    cases sameName name entry.1 with
    | true => simp [eq_comm]
    | false => simp [ih]

/-- A write changes nothing if the table holds the value already, in the same spelling. -/
theorem insert_eq_self_iff {table : FoldedTable α} {name : String} {value : α} :
    table.insert name value = table ↔ table.entry? name = some (name, value) := by
  rw [← toList_inj, toList_insert, entry?_eq_find?, writeInto_eq_self_iff]

/-- A removal changes nothing if there is nothing to remove. -/
theorem erase_eq_self_iff {table : FoldedTable α} {name : String} :
    table.erase name = table ↔ table.get? name = none := by
  constructor
  · intro h
    rw [← h, get?_erase, if_pos (by rw [sameName, beq_self_eq_true])]
  · intro h
    rw [get?, Option.map_eq_none_iff, entry?_eq_find?] at h
    have absent := List.find?_eq_none.1 h
    refine toList_inj.1 ((toList_erase table name).trans (List.filter_eq_self.2 fun entry he => ?_))
    rw [Bool.not_eq_true', Bool.eq_false_iff]
    exact absent entry he

/-! ## Distinct names -/

/-- No two entries have the same name. -/
def Distinct (table : FoldedTable α) : Prop :=
  table.toList.Pairwise fun first second => sameName first.1 second.1 = false

theorem distinct_empty : Distinct (empty : FoldedTable α) := List.Pairwise.nil

theorem mem_writeInto {name : String} {value : α} {entries : List (String × α)}
    {entry : String × α} (h : entry ∈ writeInto name value entries) :
    entry = (name, value) ∨ entry ∈ entries := by
  induction entries with
  | nil => exact .inl (List.mem_singleton.1 h)
  | cons first rest ih =>
    rw [writeInto] at h
    split at h
    · rcases List.mem_cons.1 h with rfl | h
      · exact .inl rfl
      · exact .inr (List.mem_cons_of_mem _ h)
    · rcases List.mem_cons.1 h with rfl | h
      · exact .inr List.mem_cons_self
      · exact (ih h).imp_right (List.mem_cons_of_mem _)

theorem pairwise_writeInto {name : String} {value : α} {entries : List (String × α)}
    (h : entries.Pairwise fun first second => sameName first.1 second.1 = false) :
    (writeInto name value entries).Pairwise fun first second =>
      sameName first.1 second.1 = false := by
  induction entries with
  | nil => exact List.pairwise_singleton _ _
  | cons first rest ih =>
    obtain ⟨head, tail⟩ := List.pairwise_cons.1 h
    rw [writeInto]
    cases hn : sameName name first.1 with
    | true =>
      refine List.pairwise_cons.2 ⟨fun entry he => ?_, tail⟩
      rw [sameName_congr hn]
      exact head entry he
    | false =>
      refine List.pairwise_cons.2 ⟨fun entry he => ?_, ih tail⟩
      rcases mem_writeInto he with rfl | he
      · rw [sameName_comm]
        exact hn
      · exact head entry he

theorem Distinct.insert {table : FoldedTable α} (h : table.Distinct) (name : String) (value : α) :
    (table.insert name value).Distinct := by
  rw [Distinct, toList_insert]
  exact pairwise_writeInto h

/-- A new name goes to the end. -/
theorem writeInto_of_absent {name : String} {entries : List (String × α)}
    (h : entries.find? (sameName name ·.1) = none) (value : α) :
    writeInto name value entries = entries ++ [(name, value)] := by
  induction entries with
  | nil => rfl
  | cons entry rest ih =>
    rw [List.find?_cons] at h
    cases hn : sameName name entry.1 with
    | true =>
      rw [hn] at h
      cases h
    | false =>
      rw [hn] at h
      rw [writeInto, hn, if_neg Bool.false_ne_true, ih h, List.cons_append]

/-- A name that is there keeps its place. -/
theorem writeInto_of_present {name : String} {entries : List (String × α)}
    (hd : entries.Pairwise fun first second => sameName first.1 second.1 = false)
    (h : entries.find? (sameName name ·.1) ≠ none) (value : α) :
    writeInto name value entries =
      entries.map fun entry => if sameName name entry.1 then (name, value) else entry := by
  induction entries with
  | nil => exact absurd rfl h
  | cons entry rest ih =>
    obtain ⟨head, tail⟩ := List.pairwise_cons.1 hd
    rw [List.find?_cons] at h
    rw [writeInto, List.map_cons]
    cases hn : sameName name entry.1 with
    | true =>
      -- The names behind it are other ones, so nothing else is replaced.
      have same : rest.map (fun entry => if sameName name entry.1 then (name, value) else entry) =
          rest := by
        conv => rhs; rw [← List.map_id rest]
        refine List.map_congr_left fun other ho => if_neg ?_
        rw [sameName_congr hn, head other ho]
        exact Bool.false_ne_true
      rw [if_pos rfl, if_pos rfl, same]
    | false =>
      rw [hn] at h
      rw [if_neg Bool.false_ne_true, if_neg Bool.false_ne_true, ih tail h]

/-- Entries with different names are written one behind the other. -/
theorem insertAll_of_distinct {table : FoldedTable α} {pairs : List (String × α)}
    (h : (table.toList ++ pairs).Pairwise fun first second => sameName first.1 second.1 = false) :
    (table.insertAll pairs).toList = table.toList ++ pairs := by
  induction pairs generalizing table with
  | nil => exact (List.append_nil _).symm
  | cons pair pairs ih =>
    have absent : table.toList.find? (sameName pair.1 ·.1) = none := by
      rw [List.find?_eq_none]
      intro entry he
      have := (List.pairwise_append.1 h).2.2 entry he pair List.mem_cons_self
      rw [sameName_comm, this]
      exact Bool.false_ne_true
    have inserted : (table.insert pair.1 pair.2).toList = table.toList ++ [pair] := by
      rw [toList_insert, writeInto_of_absent absent]
    rw [insertAll, List.foldl_cons, ← insertAll, ih, inserted, List.append_assoc]
    · rfl
    · rw [inserted, List.append_assoc]
      exact h

/-- A table is what its entries make. -/
theorem copy_eq {table : FoldedTable α} (h : table.Distinct) : table.copy = table :=
  toList_inj.1 (@insertAll_of_distinct _ empty _ h)

/-- Nothing is left of a table that is cleared. -/
theorem clear_eq (table : FoldedTable α) : table.clear = empty := by
  fun_induction clear table with
  | case1 table entry rest h ih => exact ih
  | case2 table h =>
    rw [popFirst?_eq, Option.map_eq_none_iff, List.head?_eq_none_iff] at h
    exact toList_inj.1 h

/-- Changing the values of a table by their names goes with a write. -/
theorem map_writeInto {β : Type} (change : String → α → β) (name : String) (value : α)
    (entries : List (String × α)) :
    (writeInto name value entries).map (fun entry => (entry.1, change entry.1 entry.2)) =
      writeInto name (change name value)
        (entries.map fun entry => (entry.1, change entry.1 entry.2)) := by
  induction entries with
  | nil => rfl
  | cons first rest ih =>
    rw [writeInto, List.map_cons, writeInto]
    cases sameName name first.1 with
    | true => rfl
    | false =>
      rw [if_neg Bool.false_ne_true, if_neg Bool.false_ne_true, List.map_cons, ih]

end FoldedTable

end PageScript
