import Mathlib.Data.List.Forall2
import PageScript.Proofs.Compile.Secrecy

/-!
# The writes of a command

The words of a command fall into clauses: a parameter with its argument, a splatted variable, or a
hashtable literal. Each clause stands for a list of writes, and collecting parameters comes to carrying
out all writes in order: of every name the parameters keep what its last write says, the value and the
environment variable it comes from (`Shows`). A hashtable is merged as its own table, in which each name
is left once; what it does is still the effect of its writes.
-/

namespace PageScript.Compile

open Script (Expr Element)

/-! ## Two computations over lists -/

theorem Both.symm {α β : Type} {R : α → β → Prop} {x : Except Numeral.IntegerFault α}
    {y : Except Numeral.IntegerFault β} (h : Both R x y) : Both (fun b a => R a b) y x := by
  cases h with
  | ok hab => exact .ok hab
  | error fault => exact .error fault

theorem Both.of_ok {α β : Type} {R : α → β → Prop} {a : α} {y : Except Numeral.IntegerFault β}
    (h : Both R (.ok a) y) : ∃ b, y = .ok b ∧ R a b := by
  cases h with
  | ok hab => exact ⟨_, rfl, hab⟩

theorem Both.imp {α β : Type} {R S : α → β → Prop} {x : Except Numeral.IntegerFault α}
    {y : Except Numeral.IntegerFault β} (h : Both R x y) (hrs : ∀ a b, R a b → S a b) :
    Both S x y := by
  cases h with
  | ok hab => exact .ok (hrs _ _ hab)
  | error fault => exact .error fault

theorem Both.trans {α β γ : Type} {R : α → β → Prop} {S : β → γ → Prop} {T : α → γ → Prop}
    {x : Except Numeral.IntegerFault α} {y : Except Numeral.IntegerFault β}
    {z : Except Numeral.IntegerFault γ} (hxy : Both R x y) (hyz : Both S y z)
    (h : ∀ a b c, R a b → S b c → T a c) : Both T x z := by
  cases hxy with
  | ok hab =>
    cases hyz with
    | ok hbc => exact .ok (h _ _ _ hab hbc)
  | error fault =>
    cases hyz with
    | error => exact .error fault

theorem Both.forall₂_mapM {α β γ δ : Type} {P : γ → δ → Prop} {R : α → β → Prop}
    {f : γ → Except Numeral.IntegerFault α} {g : δ → Except Numeral.IntegerFault β}
    {items : List γ} {others : List δ} (hstep : ∀ item other, P item other → Both R (f item) (g other))
    (h : List.Forall₂ P items others) : Both (List.Forall₂ R) (items.mapM f) (others.mapM g) := by
  induction h with
  | nil => exact .ok .nil
  | cons hp _ ih =>
    rw [List.mapM_cons, List.mapM_cons]
    refine (hstep _ _ hp).bind fun a b hab => ?_
    exact ih.bind fun more rest hrest => .ok (.cons hab hrest)

theorem Both.forall₂_foldlM {α β γ δ : Type} {P : γ → δ → Prop} {R : α → β → Prop}
    {f : α → γ → Except Numeral.IntegerFault α} {g : β → δ → Except Numeral.IntegerFault β}
    {items : List γ} {others : List δ} {a : α} {b : β}
    (hstep : ∀ item other a b, P item other → R a b → Both R (f a item) (g b other))
    (h : List.Forall₂ P items others) (hab : R a b) :
    Both R (items.foldlM f a) (others.foldlM g b) := by
  induction h generalizing a b with
  | nil => exact .ok hab
  | cons hp _ ih =>
    rw [List.foldlM_cons, List.foldlM_cons]
    exact (hstep _ _ a b hp hab).bind fun a b hab => ih hab

/-- A run that changes a state item by item, beside one that notes something about each item. -/
theorem Both.foldlM_mapM {α γ δ : Type} {R : α → List δ → Prop}
    {f : α → γ → Except Numeral.IntegerFault α} {g : γ → Except Numeral.IntegerFault δ}
    {items : List γ} {a : α} {noted : List δ}
    (hstep : ∀ item ∈ items, ∀ a noted, R a noted →
      Both (fun a d => R a (noted ++ [d])) (f a item) (g item)) (h : R a noted) :
    Both (fun a more => R a (noted ++ more)) (items.foldlM f a) (items.mapM g) := by
  induction items generalizing a noted with
  | nil =>
    rw [List.mapM_nil]
    exact .ok (by rwa [List.append_nil])
  | cons item rest ih =>
    rw [List.foldlM_cons, List.mapM_cons]
    refine (hstep item List.mem_cons_self a noted h).bind fun a d had => ?_
    rw [← bind_pure (rest.foldlM f a)]
    refine (ih (fun item hi => hstep item (List.mem_cons_of_mem _ hi)) had).bind fun a more ham => ?_
    exact .ok (by rwa [List.append_cons])

theorem mapM_congr {α β ε : Type} {f g : α → Except ε β} {items : List α}
    (h : ∀ item ∈ items, f item = g item) : items.mapM f = items.mapM g := by
  induction items with
  | nil => rfl
  | cons item rest ih =>
    rw [List.forall_mem_cons] at h
    rw [List.mapM_cons, List.mapM_cons, h.1, ih h.2]

/-! ## Clauses -/

/-- What some words of a command say together. -/
inductive Clause where
  /-- A parameter with its argument, or a switch without one. -/
  | named (name : String) (argument : Option Expr)
  /-- A splatted variable. -/
  | splat (name : String)
  /-- A hashtable literal in the place of an argument. -/
  | table (entries : List (Expr × Expr))

/-- The clauses of the words of a command. A parameter takes the next word unless that is a parameter
too; other words than splats and hashtable literals say nothing by themselves. -/
def clauses : List Element → List Clause
  | [] => []
  | .parameter _ name (some argument) :: rest =>
    if name.isEmpty then clauses rest else .named name (some argument) :: clauses rest
  | .parameter _ name none :: .value argument :: rest =>
    if name.isEmpty then clauses (.value argument :: rest)
    else .named name (some argument) :: clauses rest
  | .parameter _ name none :: rest =>
    if name.isEmpty then clauses rest else .named name none :: clauses rest
  | .value (.reference _ name _ true) :: rest => .splat name :: clauses rest
  | .value (.hashtable _ entries) :: rest => .table entries :: clauses rest
  | .value _ :: rest => clauses rest

theorem clauses_switch {rest : List Element}
    (h : ∀ argument more, rest = .value argument :: more → False) (extent : Script.Extent)
    (name : String) :
    clauses (.parameter extent name none :: rest) =
      if name.isEmpty then clauses rest else .named name none :: clauses rest := by
  rw [clauses]
  exact h

/-- The parameters after a clause. -/
def Scope.take (scope : Scope) (bindings : FoldedTable Parameters) (parameters : Parameters) :
    Clause → Except Numeral.IntegerFault Parameters
  | .named name argument => return parameters.write (← scope.argumentWrite name argument)
  | .splat name => .ok ((bindings.get? name).elim parameters parameters.merge)
  | .table entries => return parameters.merge (← scope.table entries)

theorem Scope.collectFrom_eq_foldlM (scope : Scope) (bindings : FoldedTable Parameters)
    (parameters : Parameters) (elements : List Element) :
    scope.collectFrom bindings parameters elements =
      (clauses elements).foldlM (scope.take bindings) parameters := by
  fun_induction clauses elements generalizing parameters with
  | case1 => rw [Scope.collectFrom]; rfl
  | case2 extent name argument rest he ih =>
    rw [Scope.collectFrom, if_pos he, ih]
  | case3 extent name argument rest he ih =>
    rw [Scope.collectFrom, if_neg he, List.foldlM_cons]
    simp only [Scope.take, bind_assoc, pure_bind, ih]
  | case4 extent name argument rest he ih =>
    rw [Scope.collectFrom, if_pos he, ih]
  | case5 extent name argument rest he ih =>
    rw [Scope.collectFrom, if_neg he, List.foldlM_cons]
    simp only [Scope.take, bind_assoc, pure_bind, ih]
  | case6 extent name rest hr he ih =>
    rw [Scope.collectFrom_switch hr, if_pos he, ih]
  | case7 extent name rest hr he ih =>
    rw [Scope.collectFrom_switch hr, if_neg he, List.foldlM_cons]
    simp only [Scope.take, bind_assoc, pure_bind, ih]
  | case8 extent name drive rest ih =>
    rw [Scope.collectFrom, List.foldlM_cons]
    cases hb : bindings.get? name with
    | none =>
      rw [Scope.take, hb]
      exact ih parameters
    | some binding =>
      rw [Scope.take, hb]
      exact ih (parameters.merge binding)
  | case9 extent entries rest ih =>
    rw [Scope.collectFrom, List.foldlM_cons]
    simp only [Scope.take, bind_assoc, pure_bind, ih]
  | case10 value rest hsplat htable ih =>
    rw [Scope.collectFrom]
    · exact ih parameters
    · exact hsplat
    · exact htable

/-! ## Writes -/

/-- The last write to a name, in any spelling. -/
def lastWrite? (name : String) (writes : List Write) : Option Write :=
  writes.reverse.find? (sameName name ·.name)

/-- What the writes leave of a name: the value and the source of the last write to it. -/
def effect (writes : List Write) (name : String) : Option (String × Option String) :=
  (lastWrite? name writes).map fun w => (w.value, w.source)

theorem lastWrite?_append (name : String) (writes more : List Write) :
    lastWrite? name (writes ++ more) = (lastWrite? name more).or (lastWrite? name writes) := by
  rw [lastWrite?, List.reverse_append, List.find?_append]
  rfl

theorem effect_append (writes more : List Write) (name : String) :
    effect (writes ++ more) name = (effect more name).or (effect writes name) := by
  rw [effect, lastWrite?_append, Option.map_or]
  rfl

theorem effect_cons (w : Write) (writes : List Write) (name : String) :
    effect (w :: writes) name = (effect writes name).or (effect [w] name) :=
  effect_append [w] writes name

theorem effect_singleton (w : Write) (name : String) :
    effect [w] name = if sameName name w.name then some (w.value, w.source) else none := by
  rw [effect, lastWrite?, List.reverse_singleton, List.find?_singleton]
  split <;> rfl

/-- The parameters are what the writes leave: of each name, what its last write says. -/
structure Shows (parameters : Parameters) (writes : List Write) : Prop where
  value : ∀ name, parameters.values.get? name = (effect writes name).map (·.1)
  source : ∀ name, parameters.sources.get? name = (effect writes name).bind (·.2)

theorem shows_empty : Shows {} [] where
  value _ := rfl
  source _ := rfl

theorem Shows.congr {parameters : Parameters} {writes others : List Write}
    (h : Shows parameters writes) (he : effect writes = effect others) :
    Shows parameters others where
  value name := by rw [h.value, he]
  source name := by rw [h.source, he]

/-- Parameters that a write has changed, whatever happened to the places of the sources. -/
theorem Shows.changed {parameters after : Parameters} {writes : List Write} {w : Write}
    (h : Shows parameters writes) (hv : after.values = parameters.values.insert w.name w.value)
    (hs : ∀ name, after.sources.get? name =
      if sameName name w.name then w.source else parameters.sources.get? name) :
    Shows after (writes ++ [w]) where
  value name := by
    rw [hv, FoldedTable.get?_insert, h.value, effect_append, effect_singleton]
    cases sameName name w.name <;> rfl
  source name := by
    rw [hs, h.source, effect_append, effect_singleton]
    cases sameName name w.name <;> rfl

theorem Shows.put {parameters : Parameters} {writes : List Write} (h : Shows parameters writes)
    (w : Write) : Shows (parameters.put w) (writes ++ [w]) :=
  h.changed rfl (put_sources_get? parameters w)

theorem Shows.write {parameters : Parameters} {writes : List Write} (h : Shows parameters writes)
    (w : Write) : Shows (parameters.write w) (writes ++ [w]) :=
  h.changed rfl (write_sources_get? parameters w)

theorem Shows.foldl_put {parameters : Parameters} {writes : List Write} (h : Shows parameters writes)
    (more : List Write) : Shows (more.foldl Parameters.put parameters) (writes ++ more) := by
  induction more generalizing parameters writes with
  | nil => rwa [List.append_nil]
  | cons w more ih =>
    rw [List.foldl_cons, List.append_cons]
    exact ih (h.put w)

theorem Shows.merge {parameters : Parameters} {writes : List Write} (h : Shows parameters writes)
    (others : Parameters) : Shows (parameters.merge others) (writes ++ others.writes) :=
  h.foldl_put others.writes

/-! ## Hashtables -/

/-- Among names that differ, the last entry of a name is its first. -/
theorem find?_reverse_of_pairwise {entries : List (String × String)}
    (h : entries.Pairwise fun first second => sameName first.1 second.1 = false) (name : String) :
    entries.reverse.find? (sameName name ·.1) = entries.find? (sameName name ·.1) := by
  induction entries with
  | nil => rfl
  | cons entry rest ih =>
    obtain ⟨head, tail⟩ := List.pairwise_cons.1 h
    rw [List.reverse_cons, List.find?_append, ih tail, List.find?_cons]
    cases hn : sameName name entry.1 with
    | true =>
      have hrest : rest.find? (sameName name ·.1) = none := by
        rw [List.find?_eq_none]
        intro later hl
        rw [sameName_congr hn, head later hl]
        exact Bool.false_ne_true
      rw [hrest, List.find?_cons, hn]
      rfl
    | false =>
      rw [List.find?_cons, hn]
      exact Option.or_none

/-- The writes that a table gives have the effect of those it was made by. -/
theorem effect_writes {table : Parameters} {writes : List Write} (h : Shows table writes)
    (hd : table.values.Distinct) : effect table.writes = effect writes := by
  funext name
  have hl : effect table.writes name =
      (table.values.get? name).map fun value => (value, table.sources.get? name) := by
    have hv : table.values.get? name =
      (table.values.toList.find? (sameName name ·.1)).map (·.2) := by
      rw [FoldedTable.get?, FoldedTable.entry?_eq_find?]
    rw [effect, lastWrite?, Parameters.writes, ← List.map_reverse, List.find?_map, Option.map_map, hv,
      Option.map_map, ← find?_reverse_of_pairwise hd]
    refine Option.map_congr fun entry he => ?_
    have hs : sameName name entry.1 = true := by simpa using List.find?_some he
    exact congrArg (entry.2, ·) (FoldedTable.get?_congr hs table.sources).symm
  rw [hl, h.value, h.source]
  cases effect writes name <;> rfl

/-- A hashtable literal makes the table that its entries write, with each name once. -/
theorem Scope.table_shows (scope : Scope) (entries : List (Expr × Expr)) :
    Both (fun table writes => Shows table writes ∧ table.values.Distinct) (scope.table entries)
      (entries.mapM fun entry => scope.entryWrite entry.1 entry.2) := by
  have start : Shows {} [] ∧ FoldedTable.Distinct (.empty : FoldedTable String) :=
    ⟨shows_empty, FoldedTable.distinct_empty⟩
  refine Both.foldlM_mapM (R := fun table writes => Shows table writes ∧ table.values.Distinct)
    (fun entry _ table writes h => ?_) start
  rw [← bind_pure (scope.entryWrite entry.1 entry.2)]
  refine (Both.of_eq rfl).bind fun w v hw => ?_
  subst hw
  exact .ok ⟨h.1.write w, h.2.insert w.name w.value⟩

/-! ## All writes of a command -/

/-- The writes of a clause; `entry` tells what an entry of a hashtable literal writes, and `splatted`
what a splatted variable writes. -/
def Scope.clauseWrites (scope : Scope) (entry : Expr → Expr → Except Numeral.IntegerFault Write)
    (splatted : String → Except Numeral.IntegerFault (List Write)) :
    Clause → Except Numeral.IntegerFault (List Write)
  | .named name argument => return [← scope.argumentWrite name argument]
  | .splat name => splatted name
  | .table entries => entries.mapM fun (key, value) => entry key value

/-- The writes of the words of a command, from left to right. -/
def Scope.wordWrites (scope : Scope) (entry : Expr → Expr → Except Numeral.IntegerFault Write)
    (splatted : String → Except Numeral.IntegerFault (List Write)) (elements : List Element) :
    Except Numeral.IntegerFault (List Write) := do
  return (← (clauses elements).mapM (scope.clauseWrites entry splatted)).flatten

/-- What is said of the splatted variables is what the recorded tables do. -/
def SplatsAs (bindings : FoldedTable Parameters)
    (splatted : String → Except Numeral.IntegerFault (List Write)) : Prop :=
  ∀ name, ∃ writes, splatted name = .ok writes ∧
    effect ((bindings.get? name).elim [] Parameters.writes) = effect writes

/-- What is said of the entries of a clause is what they do in this scope. -/
def Clause.EntriesAs (scope : Scope) (entry : Expr → Expr → Except Numeral.IntegerFault Write)
    (clause : Clause) : Prop :=
  ∀ entries, clause = .table entries → ∀ item ∈ entries,
    scope.entryWrite item.1 item.2 = entry item.1 item.2

section

variable {scope : Scope} {bindings : FoldedTable Parameters}
  {entry : Expr → Expr → Except Numeral.IntegerFault Write}
  {splatted : String → Except Numeral.IntegerFault (List Write)}

/-- One clause: the parameters after it are what its writes add to those before. -/
theorem Scope.take_shows (hsplat : SplatsAs bindings splatted) {clause : Clause}
    (hentry : clause.EntriesAs scope entry) {parameters : Parameters} {writes : List Write}
    (h : Shows parameters writes) :
    Both (fun after more => Shows after (writes ++ more)) (scope.take bindings parameters clause)
      (scope.clauseWrites entry splatted clause) := by
  cases clause with
  | named name argument =>
    rw [Scope.take, Scope.clauseWrites]
    refine (Both.of_eq rfl).bind fun w v hw => ?_
    subst hw
    exact .ok (h.write w)
  | splat name =>
    obtain ⟨more, hm, he⟩ := hsplat name
    rw [Scope.take, Scope.clauseWrites, hm]
    refine .ok ?_
    cases hb : bindings.get? name with
    | none =>
      rw [hb] at he
      refine h.congr ?_
      funext name
      rw [effect_append, ← he]
      rfl
    | some binding =>
      rw [hb] at he
      refine (h.merge binding).congr ?_
      funext name
      rw [effect_append, effect_append, ← he]
      rfl
  | table entries =>
    have hm : entries.mapM (fun item => scope.entryWrite item.1 item.2) =
        entries.mapM fun item => entry item.1 item.2 :=
      mapM_congr fun item hi => hentry entries rfl item hi
    rw [Scope.take, Scope.clauseWrites]
    show Both _ _ (entries.mapM fun item => entry item.1 item.2)
    rw [← hm, ← bind_pure (entries.mapM _)]
    refine (scope.table_shows entries).bind fun table more ht => .ok ?_
    refine (h.merge table).congr ?_
    funext name
    rw [effect_append, effect_append, effect_writes ht.1 ht.2]

/-- All words of a command. -/
theorem Scope.collect_shows (hsplat : SplatsAs bindings splatted) {elements : List Element}
    (hentry : ∀ clause ∈ clauses elements, clause.EntriesAs scope entry) :
    Both Shows (scope.collect bindings elements) (scope.wordWrites entry splatted elements) := by
  rw [Scope.collect, Scope.collectFrom_eq_foldlM, Scope.wordWrites,
    ← bind_pure ((clauses elements).foldlM _ _)]
  have run : Both (fun parameters groups => Shows parameters ([] ++ groups).flatten)
      ((clauses elements).foldlM (scope.take bindings) {})
      ((clauses elements).mapM (scope.clauseWrites entry splatted)) := by
    refine Both.foldlM_mapM (R := fun parameters groups => Shows parameters groups.flatten)
      (fun clause hc parameters groups h => ?_) shows_empty
    simp only [List.flatten_append, List.flatten_singleton]
    exact Scope.take_shows hsplat (hentry clause hc) h
  exact run.bind fun parameters groups h => .ok h

end

/-- The writes of the recorded table of a variable, or none. -/
def splatWrites (bindings : FoldedTable Parameters) (name : String) :
    Except Numeral.IntegerFault (List Write) :=
  .ok ((bindings.get? name).elim [] Parameters.writes)

/-- The writes of the words of a command, as they are carried out. -/
def Scope.writesOf (scope : Scope) (bindings : FoldedTable Parameters) (elements : List Element) :
    Except Numeral.IntegerFault (List Write) :=
  scope.wordWrites scope.entryWrite (splatWrites bindings) elements

theorem Scope.collect_writesOf (scope : Scope) (bindings : FoldedTable Parameters)
    (elements : List Element) :
    Both Shows (scope.collect bindings elements) (scope.writesOf bindings elements) :=
  Scope.collect_shows (fun _ => ⟨_, rfl, rfl⟩) fun _ _ _ _ _ _ => rfl

end PageScript.Compile
