import Mathlib.Data.List.Nodup
import Mathlib.Data.List.Perm.Subperm
import PageScript.Proofs.FoldedTable

/-!
# Tables and what has been done to them

What a table holds is told by the changes that were made to it: a name has the value written last under
it, unless it has been removed since, and the names stand in the order in which they came.
`History.listing` says so on the list of changes alone. The tables of a program, copies among them, and
their histories answer every operation alike, step by step and so over whole runs.
-/

namespace PageScript

/-- A change of a table. -/
inductive Change (α : Type) where
  | write (name : String) (value : α)
  | remove (name : String)

/-- The name that a change is about. -/
def Change.name {α : Type} : Change α → String
  | .write name _ => name
  | .remove name => name

/-- What has been done to a table, the latest change first. -/
abbrev History (α : Type) := List (Change α)

namespace History

variable {α : Type}

/-- The last write under a name, if it has not been removed since: the spelling and the value. -/
def written? (history : History α) (name : String) : Option (String × α) :=
  match history.find? (sameName name ·.name) with
  | some (.write spelling value) => some (spelling, value)
  | _ => none

/-- When a name came, if it is still there: how many changes there had been before the first write under
it since its last removal. -/
def arrival? (name : String) : History α → Option Nat
  | [] => none
  | .remove other :: earlier => if sameName name other then none else arrival? name earlier
  | .write other _ :: earlier =>
    if sameName name other then (arrival? name earlier).or (some earlier.length)
    else arrival? name earlier

/-- The last write under the name that came with a change; nothing if no name came with it, or if the
name is gone. -/
def entryOf? (history : History α) (change : Change α) (time : Nat) : Option (String × α) :=
  if arrival? change.name history = some time then history.written? change.name else none

/-- The names that are there, in the order in which they came, each as it was written last. -/
def listing (history : History α) : List (String × α) :=
  history.reverse.zipIdx.filterMap fun numbered => history.entryOf? numbered.1 numbered.2

/-! ## One change -/

theorem written?_cons_write (history : History α) (name other : String) (value : α) :
    written? (.write name value :: history) other =
      if sameName other name then some (name, value) else history.written? other := by
  rw [written?, List.find?_cons]
  cases h : sameName other name with
  | true => rw [Change.name, h]; rfl
  | false => rw [Change.name, h]; rfl

theorem written?_cons_remove (history : History α) (name other : String) :
    written? (.remove name :: history) other =
      if sameName other name then none else history.written? other := by
  rw [written?, List.find?_cons]
  cases h : sameName other name with
  | true => rw [Change.name, h]; rfl
  | false => rw [Change.name, h]; rfl

/-- A name is there exactly if it has come. -/
theorem isSome_arrival? (history : History α) (name : String) :
    (arrival? name history).isSome = (history.written? name).isSome := by
  induction history with
  | nil => rfl
  | cons change earlier ih =>
    cases change with
    | write other value =>
      rw [arrival?, written?_cons_write]
      split
      · rw [Option.isSome_or, Option.isSome_some, Bool.or_true, Option.isSome_some]
      · exact ih
    | remove other =>
      rw [arrival?, written?_cons_remove]
      split
      · rfl
      · exact ih

theorem arrival?_lt {history : History α} {name : String} {time : Nat}
    (h : arrival? name history = some time) : time < history.length := by
  induction history with
  | nil => cases h
  | cons change earlier ih =>
    rw [List.length_cons]
    cases change with
    | write other value =>
      rw [arrival?] at h
      split at h
      · cases ha : arrival? name earlier with
        | none =>
          rw [ha] at h
          cases h
          exact Nat.lt_succ_self _
        | some found =>
          rw [ha] at h
          cases h
          exact Nat.lt_succ_of_lt (ih ha)
      · exact Nat.lt_succ_of_lt (ih h)
    | remove other =>
      rw [arrival?] at h
      split at h
      · cases h
      · exact Nat.lt_succ_of_lt (ih h)

theorem arrival?_congr {name other : String} (h : sameName name other = true) (history : History α) :
    arrival? name history = arrival? other history := by
  induction history with
  | nil => rfl
  | cons change earlier ih =>
    cases change <;> rw [arrival?, arrival?, sameName_congr h, ih]

theorem written?_congr {name other : String} (h : sameName name other = true) (history : History α) :
    history.written? name = history.written? other := by
  rw [written?, written?, funext fun change : Change α => sameName_congr h change.name]

theorem sameName_of_written? {history : History α} {name : String} {entry : String × α}
    (h : history.written? name = some entry) : sameName name entry.1 = true := by
  unfold written? at h
  split at h
  · rename_i hf
    cases h
    have := List.find?_some hf
    exact this
  · cases h

/-! ## The listing after a change -/

/-- The entry of a change has a name that folds like that of the change. -/
theorem sameName_entryOf? {history : History α} {change : Change α} {time : Nat} {entry : String × α}
    (h : history.entryOf? change time = some entry) (name : String) :
    sameName name entry.1 = sameName change.name name := by
  rw [entryOf?] at h
  split at h
  · rw [sameName_congr (sameName_of_written? h), sameName_comm]
  · cases h

theorem listing_cons (change : Change α) (history : History α) :
    listing (change :: history) =
      history.reverse.zipIdx.filterMap (fun numbered =>
        entryOf? (change :: history) numbered.1 numbered.2) ++
      (entryOf? (change :: history) change history.length).toList := by
  rw [listing, List.reverse_cons, List.zipIdx_append, List.filterMap_append, List.length_reverse,
    Nat.zero_add, List.zipIdx_singleton, List.filterMap_cons, List.filterMap_nil]
  cases entryOf? (change :: history) change history.length <;> rfl

theorem entryOf?_remove (history : History α) (name : String) (change : Change α) (time : Nat) :
    entryOf? (.remove name :: history) change time =
      (history.entryOf? change time).filter (!sameName name ·.1) := by
  have after : entryOf? (.remove name :: history) change time =
      if sameName change.name name then none else history.entryOf? change time := by
    rw [entryOf?, entryOf?, arrival?, written?_cons_remove]
    cases sameName change.name name <;> rfl
  rw [after]
  cases he : history.entryOf? change time with
  | none => rw [ite_self]; rfl
  | some entry =>
    rw [Option.filter_some, sameName_entryOf? he]
    cases sameName change.name name <;> rfl

/-- A removal takes the name out of the listing. -/
theorem listing_remove (history : History α) (name : String) :
    listing (.remove name :: history) = history.listing.filter (!sameName name ·.1) := by
  have gone : entryOf? (.remove name :: history) (.remove name) history.length = none := by
    rw [entryOf?, arrival?, Change.name, sameName_self, if_pos rfl]
    rfl
  rw [listing_cons, gone, Option.toList_none, List.append_nil, listing, List.filter_filterMap]
  exact congrArg (List.filterMap · _) (funext fun numbered => entryOf?_remove history name _ _)

theorem entryOf?_write (history : History α) (name : String) (value : α) (change : Change α)
    (time : Nat) :
    entryOf? (.write name value :: history) change time =
      if sameName change.name name then
        if (arrival? name history).or (some history.length) = some time then some (name, value)
        else none
      else history.entryOf? change time := by
  rw [entryOf?, entryOf?, arrival?, written?_cons_write]
  cases hs : sameName change.name name with
  | true => rw [if_pos rfl, if_pos rfl, if_pos rfl, arrival?_congr hs]
  | false => rfl

/-- Under a name that is there the new spelling and value take the place of the old ones. -/
theorem listing_write_present {history : History α} {name : String} {arrived : Nat}
    (h : arrival? name history = some arrived) (value : α) :
    listing (.write name value :: history) =
      history.listing.map fun entry => if sameName name entry.1 then (name, value) else entry := by
  have replaced (change : Change α) (time : Nat) :
      entryOf? (.write name value :: history) change time =
        (history.entryOf? change time).map fun entry =>
          if sameName name entry.1 then (name, value) else entry := by
    rw [entryOf?_write, h, Option.some_or]
    cases hs : sameName change.name name with
    | true =>
      obtain ⟨entry, hw⟩ : ∃ entry, history.written? name = some entry := by
        rw [← Option.isSome_iff_exists, ← isSome_arrival?, h]
        rfl
      rw [entryOf?, arrival?_congr hs, written?_congr hs, h, hw, if_pos rfl]
      split
      · rw [Option.map_some, if_pos (sameName_of_written? hw)]
      · rfl
    | false =>
      cases he : history.entryOf? change time with
      | none => rfl
      | some entry => rw [Option.map_some, sameName_entryOf? he, hs]; rfl
  have last : entryOf? (.write name value :: history) (.write name value) history.length = none := by
    rw [entryOf?_write, h, Option.some_or, Change.name, sameName_self, if_pos rfl, if_neg]
    intro he
    exact absurd (arrival?_lt h) (Option.some.inj he ▸ Nat.lt_irrefl _)
  rw [listing_cons, last, Option.toList_none, List.append_nil, listing, List.map_filterMap]
  exact congrArg (List.filterMap · _) (funext fun numbered => replaced _ _)

/-- A new name comes last. -/
theorem listing_write_absent {history : History α} {name : String}
    (h : arrival? name history = none) (value : α) :
    listing (.write name value :: history) = history.listing ++ [(name, value)] := by
  have last : entryOf? (.write name value :: history) (.write name value) history.length =
      some (name, value) := by
    rw [entryOf?_write, h, Option.none_or, Change.name, sameName_self, if_pos rfl, if_pos rfl]
  rw [listing_cons, last, Option.toList_some, listing]
  congr 1
  refine List.filterMap_congr fun numbered hm => ?_
  have htime := List.snd_lt_of_mem_zipIdx hm
  rw [entryOf?_write, h, Option.none_or]
  cases hs : sameName numbered.1.name name with
  | false => rfl
  | true =>
    rw [List.length_reverse, Nat.add_zero] at htime
    have later : some history.length ≠ some numbered.2 := by
      intro he
      exact absurd htime (Option.some.inj he ▸ Nat.lt_irrefl _)
    have never : (none : Option Nat) ≠ some numbered.2 := by
      intro he
      cases he
    rw [if_pos rfl, if_neg later, entryOf?, arrival?_congr hs, h, if_neg never]

theorem listing_write_eq {history : History α} {name : String}
    (hf : history.listing.find? (sameName name ·.1) = history.written? name)
    (hd : history.listing.Pairwise fun first second => sameName first.1 second.1 = false) (value : α) :
    listing (.write name value :: history) = FoldedTable.writeInto name value history.listing := by
  have there := isSome_arrival? history name
  cases ha : arrival? name history with
  | none =>
    rw [ha, ← hf, Option.isSome_none, eq_comm, Option.isSome_eq_false_iff, Option.isNone_iff_eq_none]
      at there
    rw [listing_write_absent ha, FoldedTable.writeInto_of_absent there]
  | some arrived =>
    rw [ha, ← hf, Option.isSome_some, eq_comm] at there
    rw [listing_write_present ha,
      FoldedTable.writeInto_of_present hd (Option.isSome_iff_ne_none.1 there)]

/-- A listing has one entry for each name that is there: the last write under it. -/
theorem listing_spec (history : History α) :
    (∀ name, history.listing.find? (sameName name ·.1) = history.written? name) ∧
      history.listing.Pairwise fun first second => sameName first.1 second.1 = false := by
  induction history with
  | nil => exact ⟨fun _ => rfl, List.Pairwise.nil⟩
  | cons change history ih =>
    obtain ⟨hf, hd⟩ := ih
    cases change with
    | write name value =>
      rw [listing_write_eq (hf name) hd]
      refine ⟨fun other => ?_, FoldedTable.pairwise_writeInto hd⟩
      rw [FoldedTable.find?_writeInto, written?_cons_write, hf]
    | remove name =>
      rw [listing_remove]
      refine ⟨fun other => ?_, hd.filter _⟩
      rw [FoldedTable.find?_filter_names, written?_cons_remove, hf]

/-- A write goes into the listing as it goes into a table. -/
theorem listing_write (history : History α) (name : String) (value : α) :
    listing (.write name value :: history) = FoldedTable.writeInto name value history.listing :=
  listing_write_eq ((listing_spec history).1 name) (listing_spec history).2 value

theorem listing_removals (history : History α) (names : List String) :
    listing (names.map .remove ++ history) =
      history.listing.filter fun entry => !names.any (sameName · entry.1) := by
  induction names with
  | nil => exact (List.filter_eq_self.2 fun _ _ => rfl).symm
  | cons name names ih =>
    rw [List.map_cons, List.cons_append, listing_remove, ih, List.filter_filter]
    refine congrArg (List.filter · _) (funext fun entry => ?_)
    rw [List.any_cons, Bool.not_or]

/-! ## Operations on histories -/

/-- The writes of some pairs, the last one first. -/
def writes (pairs : List (String × α)) : History α :=
  (pairs.map fun pair => Change.write pair.1 pair.2).reverse

/-- What is answered to an operation after these changes. -/
def answer (history : History α) : FoldedTable.Operation α → FoldedTable.Answer α
  | .delete name => if (history.written? name).isSome then .done else .missing
  | .pop name default? =>
    match ((history.written? name).map (·.2)).or default? with
    | some value => .value value
    | none => .missing
  | .popFirst =>
    match history.listing.head? with
    | some entry => .entry entry
    | none => .missing
  | .setDefault name value => .value (((history.written? name).map (·.2)).getD value)
  | .set .. | .update _ | .clear => .done

/-- What an operation changes. -/
def changes (history : History α) : FoldedTable.Operation α → History α
  | .set name value => [.write name value]
  | .delete name => [.remove name]
  | .pop name _ => [.remove name]
  | .popFirst => (history.listing.head?.map fun entry => Change.remove entry.1).toList
  | .setDefault name value =>
    if (history.written? name).isSome then [] else [.write name value]
  | .update pairs => writes pairs
  | .clear => (history.listing.map (·.1)).map .remove

/-- The answer to an operation, and the history with its changes. -/
def apply (history : History α) (operation : FoldedTable.Operation α) :
    FoldedTable.Answer α × History α :=
  (history.answer operation, history.changes operation ++ history)

end History

namespace FoldedTable

variable {α : Type}

/-! ## Tables follow their histories -/

/-- The table shows the names and values that its history lists. -/
def Follows (table : FoldedTable α) (history : History α) : Prop := table.toList = history.listing

theorem follows_empty : Follows (empty : FoldedTable α) [] := rfl

section

variable {table : FoldedTable α} {history : History α}

theorem Follows.distinct (h : table.Follows history) : table.Distinct := by
  rw [Distinct, h]
  exact history.listing_spec.2

theorem Follows.entry? (h : table.Follows history) (name : String) :
    table.entry? name = history.written? name := by
  rw [entry?_eq_find?, h]
  exact history.listing_spec.1 name

theorem Follows.get? (h : table.Follows history) (name : String) :
    table.get? name = (history.written? name).map (·.2) := by
  rw [FoldedTable.get?, h.entry?]

theorem Follows.contains (h : table.Follows history) (name : String) :
    table.contains name = (history.written? name).isSome := by
  rw [contains_eq_isSome_get?, h.get?, Option.isSome_map]

theorem Follows.insert (h : table.Follows history) (name : String) (value : α) :
    (table.insert name value).Follows (.write name value :: history) := by
  rw [Follows, toList_insert, h, History.listing_write]

theorem Follows.erase (h : table.Follows history) (name : String) :
    (table.erase name).Follows (.remove name :: history) := by
  rw [Follows, toList_erase, h, History.listing_remove]

theorem Follows.insertAll (h : table.Follows history) (pairs : List (String × α)) :
    (table.insertAll pairs).Follows (History.writes pairs ++ history) := by
  induction pairs generalizing table history with
  | nil => exact h
  | cons pair pairs ih =>
    have next := ih (h.insert pair.1 pair.2)
    rw [History.writes, List.map_cons, List.reverse_cons, List.append_assoc]
    exact next

/-- Removing a name that is not there changes nothing. -/
theorem Follows.remove_absent (h : table.Follows history) {name : String}
    (hw : history.written? name = none) : table.Follows (.remove name :: history) := by
  have same : table.erase name = table := erase_eq_self_iff.2 (by rw [h.get?, hw]; rfl)
  have := h.erase name
  rwa [same] at this

theorem follows_clear (table : FoldedTable α) (history : History α) :
    table.clear.Follows ((history.listing.map (·.1)).map .remove ++ history) := by
  rw [clear_eq, Follows, History.listing_removals]
  refine (List.filter_eq_nil_iff.2 fun entry he => ?_).symm
  have found : (history.listing.map (·.1)).any (sameName · entry.1) = true :=
    List.any_eq_true.2 ⟨entry.1, List.mem_map_of_mem he, sameName_self _⟩
  rw [found]
  exact Bool.false_ne_true

/-- A table answers an operation as its history does, and follows it afterwards. -/
theorem Follows.apply (h : table.Follows history) (operation : Operation α) :
    (table.apply operation).1 = (history.apply operation).1 ∧
      (table.apply operation).2.Follows (history.apply operation).2 := by
  cases operation with
  | set name value => exact ⟨rfl, h.insert name value⟩
  | update pairs => exact ⟨rfl, h.insertAll pairs⟩
  | clear => exact ⟨rfl, follows_clear table history⟩
  | delete name =>
    rw [FoldedTable.apply, h.contains, History.apply, History.answer, History.changes]
    cases hw : history.written? name with
    | none => exact ⟨rfl, h.remove_absent hw⟩
    | some entry => exact ⟨rfl, h.erase name⟩
  | pop name default? =>
    have taken : table.pop? name =
        ((history.written? name).map (·.2)).map fun value => (value, table.erase name) := by
      rw [FoldedTable.pop?, h.get?]
    unfold FoldedTable.apply
    dsimp only
    rw [taken, History.apply, History.answer, History.changes]
    cases hw : history.written? name with
    | none => cases default? <;> exact ⟨rfl, h.remove_absent hw⟩
    | some entry => exact ⟨rfl, h.erase name⟩
  | popFirst =>
    rw [FoldedTable.apply, popFirst?_eq, h, History.apply, History.answer, History.changes]
    cases hl : history.listing with
    | nil => exact ⟨rfl, h⟩
    | cons entry rest => exact ⟨rfl, h.erase entry.1⟩
  | setDefault name value =>
    rw [FoldedTable.apply, getOrInsert, h.get?, History.apply, History.answer, History.changes]
    cases hw : history.written? name with
    | none => exact ⟨rfl, h.insert name value⟩
    | some entry => exact ⟨rfl, h⟩

end

end FoldedTable

/-! ## Runs -/

/-- A step of a program that has some tables, numbered in the order in which they are made. -/
inductive TableStep (α : Type) where
  | act (number : Nat) (operation : FoldedTable.Operation α)
  /-- Makes a new table, the copy of another one. -/
  | copy (number : Nat)

/-- The number of the table that a step may change. -/
def TableStep.changed? {α : Type} : TableStep α → Option Nat
  | .act number _ => some number
  | .copy _ => none

/-- How stores of some kind are worked with. -/
structure StoreKind (α σ : Type) where
  apply : σ → FoldedTable.Operation α → FoldedTable.Answer α × σ
  copy : σ → σ

namespace StoreKind

variable {α σ : Type}

/-- Takes a step; nothing happens if there is no store with its number. -/
def step (kind : StoreKind α σ) (stores : List σ) : TableStep α → FoldedTable.Answer α × List σ
  | .act number operation =>
    match stores[number]? with
    | some store =>
      ((kind.apply store operation).1, stores.set number (kind.apply store operation).2)
    | none => (.missing, stores)
  | .copy number =>
    match stores[number]? with
    | some store => (.done, stores ++ [kind.copy store])
    | none => (.missing, stores)

/-- Takes the steps one after the other: the answers, and the stores in the end. -/
def run (kind : StoreKind α σ) (stores : List σ) :
    List (TableStep α) → List (FoldedTable.Answer α) × List σ
  | [] => ([], stores)
  | step :: steps =>
    ((kind.step stores step).1 :: (kind.run (kind.step stores step).2 steps).1,
      (kind.run (kind.step stores step).2 steps).2)

theorem run_append (kind : StoreKind α σ) (stores : List σ) (first second : List (TableStep α)) :
    (kind.run stores (first ++ second)).2 = (kind.run (kind.run stores first).2 second).2 := by
  induction first generalizing stores with
  | nil => rfl
  | cons step steps ih => exact ih _

/-- A step leaves every store alone but the one that it is about. -/
theorem step_frame (kind : StoreKind α σ) {stores : List σ} {step : TableStep α} {number : Nat}
    {store : σ} (h : stores[number]? = some store) (hs : step.changed? ≠ some number) :
    (kind.step stores step).2[number]? = some store := by
  cases step with
  | act other operation =>
    rw [StoreKind.step]
    split
    · rw [List.getElem?_set_ne (fun he => hs (congrArg some he)), h]
    · exact h
  | copy other =>
    rw [StoreKind.step]
    split
    · rw [List.getElem?_append_left (List.getElem?_eq_some_iff.1 h).1, h]
    · exact h

theorem run_frame (kind : StoreKind α σ) {stores : List σ} {steps : List (TableStep α)} {number : Nat}
    {store : σ} (h : stores[number]? = some store)
    (hs : ∀ step ∈ steps, step.changed? ≠ some number) :
    (kind.run stores steps).2[number]? = some store := by
  induction steps generalizing stores with
  | nil => exact h
  | cons step steps ih =>
    obtain ⟨first, others⟩ := List.forall_mem_cons.1 hs
    exact ih (kind.step_frame h first) others

end StoreKind

namespace FoldedTable

variable {α : Type}

/-- Tables as a kind of store. -/
def kind : StoreKind α (FoldedTable α) := ⟨apply, copy⟩

/-- Histories as a kind of store; a copy has the history of its original. -/
def historyKind : StoreKind α (History α) := ⟨History.apply, id⟩

/-- Each table follows the history with its number. -/
def AllFollow (tables : List (FoldedTable α)) (histories : List (History α)) : Prop :=
  tables.map toList = histories.map History.listing

theorem AllFollow.at {tables : List (FoldedTable α)} {histories : List (History α)}
    (h : AllFollow tables histories) (number : Nat) :
    (tables[number]? = none ∧ histories[number]? = none) ∨
      ∃ table history, tables[number]? = some table ∧ histories[number]? = some history ∧
        table.Follows history := by
  have hn : tables[number]?.map toList = histories[number]?.map History.listing := by
    rw [← List.getElem?_map, h, List.getElem?_map]
  cases ht : tables[number]? with
  | none =>
    rw [ht, Option.map_none, eq_comm, Option.map_eq_none_iff] at hn
    exact .inl ⟨rfl, hn⟩
  | some table =>
    rw [ht, Option.map_some, eq_comm, Option.map_eq_some_iff] at hn
    obtain ⟨history, hh, he⟩ := hn
    exact .inr ⟨table, history, rfl, hh, he.symm⟩

theorem step_follows {tables : List (FoldedTable α)} {histories : List (History α)}
    (h : AllFollow tables histories) (step : TableStep α) :
    (kind.step tables step).1 = (historyKind.step histories step).1 ∧
      AllFollow (kind.step tables step).2 (historyKind.step histories step).2 := by
  cases step with
  | act number operation =>
    rw [StoreKind.step, StoreKind.step]
    rcases h.at number with ⟨ht, hh⟩ | ⟨table, history, ht, hh, hf⟩
    · rw [ht, hh]
      exact ⟨rfl, h⟩
    · obtain ⟨answer, follows⟩ := hf.apply operation
      rw [ht, hh]
      refine ⟨answer, ?_⟩
      rw [AllFollow, List.map_set, List.map_set, h]
      exact congrArg _ follows
  | copy number =>
    rw [StoreKind.step, StoreKind.step]
    rcases h.at number with ⟨ht, hh⟩ | ⟨table, history, ht, hh, hf⟩
    · rw [ht, hh]
      exact ⟨rfl, h⟩
    · rw [ht, hh]
      refine ⟨rfl, ?_⟩
      have same : kind.copy table = table := copy_eq hf.distinct
      rw [AllFollow, List.map_append, List.map_append, h, same]
      exact congrArg (histories.map History.listing ++ [·]) hf

theorem run_follows {tables : List (FoldedTable α)} {histories : List (History α)}
    (h : AllFollow tables histories) (steps : List (TableStep α)) :
    (kind.run tables steps).1 = (historyKind.run histories steps).1 ∧
      AllFollow (kind.run tables steps).2 (historyKind.run histories steps).2 := by
  induction steps generalizing tables histories with
  | nil => exact ⟨rfl, h⟩
  | cons step steps ih =>
    obtain ⟨answer, next⟩ := step_follows h step
    obtain ⟨answers, last⟩ := ih next
    exact ⟨congrArg₂ List.cons answer answers, last⟩

/-- A run that starts with one table, made of some pairs. -/
def runFrom (initial : List (String × α)) (steps : List (TableStep α)) :
    List (Answer α) × List (FoldedTable α) := kind.run [ofList initial] steps

/-- The same run on histories. -/
def historiesFrom (initial : List (String × α)) (steps : List (TableStep α)) :
    List (Answer α) × List (History α) := historyKind.run [History.writes initial] steps

/-- A table that some run makes. -/
def Made (table : FoldedTable α) : Prop :=
  ∃ initial steps, table ∈ (runFrom initial steps).2

theorem runFrom_follows (initial : List (String × α)) (steps : List (TableStep α)) :
    (runFrom initial steps).1 = (historiesFrom initial steps).1 ∧
      AllFollow (runFrom initial steps).2 (historiesFrom initial steps).2 := by
  have start : AllFollow [ofList initial] [History.writes initial] := by
    have made := follows_empty.insertAll initial
    rw [List.append_nil] at made
    exact congrArg ([·]) made
  exact run_follows start steps

theorem Made.distinct {table : FoldedTable α} (h : table.Made) : table.Distinct := by
  obtain ⟨initial, steps, hm⟩ := h
  obtain ⟨number, hn⟩ := List.mem_iff_getElem?.1 hm
  rcases (runFrom_follows initial steps).2.at number with ⟨ht, -⟩ | ⟨found, history, ht, -, hf⟩
  · cases ht.symm.trans hn
  · cases ht.symm.trans hn
    exact hf.distinct

/-! ## Equality -/

theorem Distinct.nodup {table : FoldedTable α} (h : table.Distinct) :
    (table.foldedEntries.map (·.1)).Nodup := by
  rw [foldedEntries_eq, List.map_map, List.Nodup, List.pairwise_map]
  refine h.imp fun {first second} hn he => ?_
  rw [sameName, beq_eq_false_iff_ne] at hn
  exact hn he

theorem length_names (table : FoldedTable α) :
    (table.foldedEntries.map (·.1)).length = table.size := by
  rw [List.length_map, foldedEntries, List.length_map, size]

/-- Looking up a folded name among the folded entries is looking up the name. -/
theorem lookup_foldedEntries (table : FoldedTable α) (name : String) :
    table.foldedEntries.lookup (Text.fold name) = table.get? name := by
  obtain ⟨entries⟩ := table
  rw [FoldedTable.get?, FoldedTable.entry?, Option.map_map, foldedEntries]
  induction entries with
  | nil => rfl
  | cons entry rest ih =>
    rw [List.map_cons, List.lookup_cons, List.find?_cons]
    cases Text.fold name == entry.folded with
    | true => rfl
    | false => exact ih

theorem mem_of_get? {table : FoldedTable α} {name : String} {value : α}
    (h : table.get? name = some value) : (Text.fold name, value) ∈ table.foldedEntries := by
  obtain ⟨entry, he, rfl⟩ := Option.map_eq_some_iff.1 h
  rw [entry?_eq_find?] at he
  have same := List.find?_some he
  rw [sameName, beq_iff_eq] at same
  rw [same, foldedEntries_eq]
  exact List.mem_map_of_mem (List.mem_of_find?_eq_some he)

theorem Distinct.get?_of_mem {table : FoldedTable α} (h : table.Distinct) {name : String} {value : α}
    (hm : (Text.fold name, value) ∈ table.foldedEntries) : table.get? name = some value := by
  cases hg : table.get? name with
  | none =>
    rw [foldedEntries_eq] at hm
    obtain ⟨entry, he, hp⟩ := List.mem_map.1 hm
    rw [FoldedTable.get?, Option.map_eq_none_iff, entry?_eq_find?] at hg
    have absent := List.find?_eq_none.1 hg entry he
    rw [sameName, beq_iff_eq] at absent
    exact absurd (congrArg Prod.fst hp).symm absent
  | some found =>
    have same := List.inj_on_of_nodup_map h.nodup (mem_of_get? hg) hm rfl
    exact congrArg some (congrArg Prod.snd same)

section

variable [BEq α]

/-- Each folded name of one table is in the other, with an equal value. -/
def Within (first second : FoldedTable α) : Prop :=
  ∀ pair ∈ first.foldedEntries, ∃ other ∈ second.foldedEntries,
    pair.1 = other.1 ∧ (pair.2 == other.2) = true

/-- Two tables with the same folded names, and equal values under them. -/
def SamePairs (first second : FoldedTable α) : Prop := first.Within second ∧ second.Within first

theorem Within.names {first second : FoldedTable α} (h : first.Within second) :
    first.foldedEntries.map (·.1) ⊆ second.foldedEntries.map (·.1) := by
  intro name hn
  obtain ⟨pair, hp, rfl⟩ := List.mem_map.1 hn
  obtain ⟨other, ho, same, -⟩ := h pair hp
  exact same ▸ List.mem_map_of_mem ho

theorem Within.refl [ReflBEq α] (table : FoldedTable α) : table.Within table :=
  fun pair hp => ⟨pair, hp, rfl, BEq.rfl⟩

theorem Within.trans [EquivBEq α] {first second third : FoldedTable α} (h : first.Within second)
    (h' : second.Within third) : first.Within third := by
  intro pair hp
  obtain ⟨middle, hm, name, value⟩ := h pair hp
  obtain ⟨other, ho, name', value'⟩ := h' middle hm
  exact ⟨other, ho, name.trans name', BEq.trans value value'⟩

/-- Of two tables of one size the first cannot be a proper part of the second. -/
theorem Within.reverse [EquivBEq α] {first second : FoldedTable α} (hf : first.Distinct)
    (hs : second.Distinct) (size : first.size = second.size) (h : first.Within second) :
    second.Within first := by
  intro other ho
  have part := List.subperm_of_subset hf.nodup h.names
  have whole := part.perm_of_length_le (by rw [length_names, length_names]; exact Nat.le_of_eq size.symm)
  obtain ⟨pair, hp, name⟩ := List.mem_map.1 (whole.symm.subset (List.mem_map_of_mem ho))
  obtain ⟨found, hm, name', value⟩ := h pair hp
  have same : found = other := List.inj_on_of_nodup_map hs.nodup hm ho (name'.symm.trans name)
  exact ⟨pair, hp, name.symm, BEq.symm (same ▸ value)⟩

theorem SamePairs.size_eq {first second : FoldedTable α} (hf : first.Distinct) (hs : second.Distinct)
    (h : SamePairs first second) : first.size = second.size := by
  have part := (List.subperm_of_subset hf.nodup h.1.names).length_le
  have whole := (List.subperm_of_subset hs.nodup h.2.names).length_le
  rw [length_names, length_names] at part whole
  exact Nat.le_antisymm part whole

theorem equiv_iff_within {first second : FoldedTable α} (hs : second.Distinct) :
    first.equiv second = true ↔ first.size = second.size ∧ first.Within second := by
  rw [equiv, copy_eq hs, Bool.and_eq_true, beq_iff_eq, List.all_eq_true, Within, first.foldedEntries_eq,
    List.forall_mem_map, List.forall_mem_map]
  refine and_congr_right fun _ => forall₂_congr fun entry _ => ?_
  rw [lookup_foldedEntries]
  constructor
  · intro h
    split at h
    · rename_i value hg
      exact ⟨_, mem_of_get? hg, rfl, h⟩
    · cases h
  · rintro ⟨⟨name, value⟩, hm, rfl, hv⟩
    rw [hs.get?_of_mem hm]
    exact hv

/-- Comparing sizes and looking up the names of one table in the other finds out whether the two have
the same pairs. -/
theorem equiv_iff [EquivBEq α] {first second : FoldedTable α} (hf : first.Distinct)
    (hs : second.Distinct) : first.equiv second = true ↔ SamePairs first second := by
  rw [equiv_iff_within hs]
  constructor
  · rintro ⟨size, within⟩
    exact ⟨within, within.reverse hf hs size⟩
  · intro same
    exact ⟨same.size_eq hf hs, same.1⟩

theorem equivalence_equiv [EquivBEq α] :
    Equivalence fun first second : {table : FoldedTable α // table.Made} =>
      first.1.equiv second.1 = true where
  refl table := (equiv_iff table.2.distinct table.2.distinct).2 ⟨.refl _, .refl _⟩
  symm {first second} h := by
    have same := (equiv_iff first.2.distinct second.2.distinct).1 h
    exact (equiv_iff second.2.distinct first.2.distinct).2 ⟨same.2, same.1⟩
  trans {first second third} h h' := by
    have same := (equiv_iff first.2.distinct second.2.distinct).1 h
    have same' := (equiv_iff second.2.distinct third.2.distinct).1 h'
    exact (equiv_iff first.2.distinct third.2.distinct).2
      ⟨same.1.trans same'.1, same'.2.trans same.2⟩

end

/-! ## What a table shows after a run -/

/-- A table shows what its history says. -/
structure Shows (table : FoldedTable α) (history : History α) : Prop where
  /-- No folded name is there twice. -/
  distinct : (table.foldedEntries.map (·.1)).Nodup
  /-- The folded names are those of the spellings kept. -/
  spelled : table.foldedEntries.map (·.1) = table.toList.map fun entry => Text.fold entry.1
  /-- The names come in the order of their first insertions since their last removals, each in the
  spelling and with the value written last. -/
  listed : table.toList = history.listing
  /-- A name has the value written last under it, if it has not been removed since. -/
  value : ∀ name, table.get? name = (history.written? name).map (·.2)
  present : ∀ name, table.contains name = (history.written? name).isSome
  /-- The entry taken out is the first one, and the others stay. -/
  first : ∀ entry rest, table.popFirst? = some (entry, rest) ↔ table.toList = entry :: rest.toList

theorem Distinct.popFirst?_iff {table : FoldedTable α} (h : table.Distinct) (entry : String × α)
    (rest : FoldedTable α) :
    table.popFirst? = some (entry, rest) ↔ table.toList = entry :: rest.toList := by
  rw [popFirst?_eq]
  unfold Distinct at h
  cases he : table.toList with
  | nil => exact ⟨fun hn => (nomatch hn), fun hn => (nomatch hn)⟩
  | cons first others =>
    rw [he, List.pairwise_cons] at h
    have left : (table.erase first.1).toList = others := by
      rw [toList_erase, he, List.filter_cons, sameName_self]
      exact List.filter_eq_self.2 fun other ho => by rw [h.1 other ho]; rfl
    rw [List.head?_cons, Option.map_some, Option.some.injEq, Prod.mk.injEq, List.cons.injEq,
      ← toList_inj, left]

theorem Follows.shows {table : FoldedTable α} {history : History α} (h : table.Follows history) :
    table.Shows history where
  distinct := h.distinct.nodup
  spelled := by
    rw [foldedEntries_eq, List.map_map]
    rfl
  listed := h
  value := h.get?
  present := h.contains
  first := h.distinct.popFirst?_iff

/-- The copy of a table has the next number, and keeps what the table had when no later step is about
it. -/
theorem copy_kept {tables : List (FoldedTable α)} {number : Nat} {table : FoldedTable α}
    (h : tables[number]? = some table) (hd : table.Distinct) {later : List (TableStep α)}
    (hs : ∀ step ∈ later, step.changed? ≠ some tables.length) :
    (kind.run tables (.copy number :: later)).2[tables.length]? = some table := by
  have stepped : (kind.step tables (.copy number)).2 = tables ++ [table] := by
    rw [StoreKind.step, h]
    exact congrArg (tables ++ [·]) (copy_eq hd)
  have first : (kind.step tables (.copy number)).2[tables.length]? = some table := by
    rw [stepped, List.getElem?_concat_length]
  have kept := kind.run_frame first hs
  exact kept

/-- Over every run from any pairs the tables answer as their histories do and show what these say, a copy
is left alone by what is done to its original afterwards, and two tables are equal exactly when they have
the same pairs. -/
theorem runs_follow_histories [BEq α] [EquivBEq α] (initial : List (String × α))
    (steps : List (TableStep α)) :
    (runFrom initial steps).1 = (historiesFrom initial steps).1 ∧
    (runFrom initial steps).2.length = (historiesFrom initial steps).2.length ∧
    (∀ number table, (runFrom initial steps).2[number]? = some table →
      (∃ history, (historiesFrom initial steps).2[number]? = some history ∧ table.Shows history) ∧
      ∀ later, (∀ step ∈ later, step.changed? ≠ some (runFrom initial steps).2.length) →
        ∃ copied, (runFrom initial (steps ++ .copy number :: later)).2[
            (runFrom initial steps).2.length]? = some copied ∧
          copied.equiv table = true ∧ copied.toList = table.toList) ∧
    Equivalence (fun first second : {table : FoldedTable α // table.Made} =>
      first.1.equiv second.1 = true) ∧
    ∀ first second : FoldedTable α, first.Made → second.Made →
      (first.equiv second = true ↔ SamePairs first second) := by
  obtain ⟨answers, follow⟩ := runFrom_follows initial steps
  refine ⟨answers, ?_, fun number table ht => ⟨?_, fun later hl => ?_⟩, equivalence_equiv,
    fun first second hf hs => equiv_iff hf.distinct hs.distinct⟩
  · have := congrArg List.length follow
    rwa [List.length_map, List.length_map] at this
  · rcases follow.at number with ⟨hn, -⟩ | ⟨found, history, hf, hh, hs⟩
    · cases hn.symm.trans ht
    · cases hf.symm.trans ht
      exact ⟨history, hh, hs.shows⟩
  · have made : table.Made := ⟨initial, steps, List.mem_of_getElem? ht⟩
    refine ⟨table, ?_, equivalence_equiv.refl ⟨table, made⟩, rfl⟩
    rw [runFrom, StoreKind.run_append]
    exact copy_kept ht made.distinct hl

/-- A name written in another spelling keeps its place, and taking it out of the original leaves it in
the copy. -/
theorem runs_follow_histories_respelled :
    ∃ copied, (runFrom [("Ab", 1), ("c", 2)]
        [.act 0 (.set "aB" 3), .copy 0, .act 0 .popFirst]).2[1]? = some copied ∧
      copied.toList = [("aB", 3), ("c", 2)] := by
  have facts := runs_follow_histories [("Ab", 1), ("c", 2)] [.act 0 (.set "aB" 3)]
  have other : ∀ step ∈ [TableStep.act 0 (.popFirst : Operation Nat)], step.changed? ≠ some 1 := by
    intro step hs
    rw [List.mem_singleton.1 hs]
    decide
  obtain ⟨copied, there, -, same⟩ :=
    (facts.2.2.1 0 ((ofList [("Ab", 1), ("c", 2)]).insert "aB" 3) rfl).2 _ other
  exact ⟨copied, there, same.trans (by decide +kernel)⟩

end FoldedTable

end PageScript
