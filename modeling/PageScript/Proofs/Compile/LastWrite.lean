import PageScript.Proofs.Compile.EnvMark

/-!
# The last write of a parameter wins

A command of a script writes its parameters from left to right, those of a splatted variable and of a
hashtable literal entry by entry. What the command is compiled with is what the last write of each name
leaves: its value, and beside it the environment variable if the value was written as one and not put
into a string. A splatted variable may have any table that is made from a literal of a script, as those
of the first pass are (`bindAll_recorded`, `collect_bindAll`).
-/

namespace PageScript.Compile

open Script (Expr Element Statement)

/-! ## Recorded tables -/

/-- A hashtable literal that a script assigns to a variable has these entries. -/
def Assigned (entries : List (Expr × Expr)) : Prop :=
  ∃ source reading extent target operator whole, Script.read source = .ok reading ∧
    .assignment extent target operator (.hashtable whole entries) ∈ reading.statements

/-- The tables of the variables are made from these literals, each in the scope in which it was met. -/
structure Recorded (bindings : FoldedTable Parameters)
    (literals : String → Option (Scope × List (Expr × Expr))) : Prop where
  unbound : ∀ name, literals name = none → bindings.get? name = none
  bound : ∀ name scope entries, literals name = some (scope, entries) →
    Assigned entries ∧ ∃ table, bindings.get? name = some table ∧ scope.table entries = .ok table

/-- The writes of a splatted variable: those of the literal that is recorded for it. -/
def literalWrites (literals : String → Option (Scope × List (Expr × Expr))) (name : String) :
    Except Numeral.IntegerFault (List Write) :=
  match literals name with
  | none => .ok []
  | some (scope, entries) => entries.mapM fun (key, value) => scope.plainWrite key value

theorem honest_of_assigned {entries : List (Expr × Expr)} (h : Assigned entries) :
    ∀ entry ∈ entries, Honest entry.2 := by
  obtain ⟨source, reading, extent, target, operator, whole, hr, hm⟩ := h
  exact honestTables_of_read hr _ hm

theorem mapM_plainWrite (scope : Scope) {entries : List (Expr × Expr)}
    (h : ∀ entry ∈ entries, Honest entry.2) :
    (entries.mapM fun entry => scope.entryWrite entry.1 entry.2) =
      entries.mapM fun entry => scope.plainWrite entry.1 entry.2 :=
  mapM_congr fun entry he => scope.entryWrite_eq_plainWrite entry.1 (h entry he)

theorem Recorded.splatsAs {bindings : FoldedTable Parameters}
    {literals : String → Option (Scope × List (Expr × Expr))} (h : Recorded bindings literals) :
    SplatsAs bindings (literalWrites literals) := by
  intro name
  cases hl : literals name with
  | none =>
    refine ⟨[], ?_, ?_⟩
    · rw [literalWrites, hl]
    · rw [h.unbound name hl]
      rfl
  | some literal =>
    obtain ⟨scope, entries⟩ := literal
    obtain ⟨ha, table, hb, ht⟩ := h.bound name scope entries hl
    have made := scope.table_shows entries
    rw [ht, mapM_plainWrite scope (honest_of_assigned ha)] at made
    rw [literalWrites, hl, hb]
    generalize hw : entries.mapM (fun entry => scope.plainWrite entry.1 entry.2) = out at made
    cases made with
    | ok hs => exact ⟨_, hw, effect_writes hs.1 hs.2⟩

theorem recorded_empty : Recorded .empty fun _ => none where
  unbound _ _ := rfl
  bound _ _ _ h := by cases h

theorem Recorded.insert {bindings : FoldedTable Parameters}
    {literals : String → Option (Scope × List (Expr × Expr))} (h : Recorded bindings literals)
    {scope : Scope} {entries : List (Expr × Expr)} {table : Parameters} (ha : Assigned entries)
    (ht : scope.table entries = .ok table) (name : String) :
    Recorded (bindings.insert name table)
      fun asked => if sameName asked name then some (scope, entries) else literals asked where
  unbound asked hn := by
    rw [FoldedTable.get?_insert]
    cases hs : sameName asked name with
    | true =>
      rw [hs] at hn
      cases hn
    | false =>
      rw [hs] at hn
      exact h.unbound asked hn
  bound asked scope others hf := by
    rw [FoldedTable.get?_insert]
    cases hs : sameName asked name with
    | true =>
      rw [hs] at hf
      cases hf
      exact ⟨ha, table, rfl, ht⟩
    | false =>
      rw [hs] at hf
      exact h.bound asked scope others hf

theorem Recorded.erase {bindings : FoldedTable Parameters}
    {literals : String → Option (Scope × List (Expr × Expr))} (h : Recorded bindings literals)
    (name : String) :
    Recorded (bindings.erase name)
      fun asked => if sameName asked name then none else literals asked where
  unbound asked hn := by
    rw [FoldedTable.get?_erase]
    cases hs : sameName asked name with
    | true => rfl
    | false =>
      rw [hs] at hn
      exact h.unbound asked hn
  bound asked scope others hf := by
    rw [FoldedTable.get?_erase]
    cases hs : sameName asked name with
    | true =>
      rw [hs] at hf
      cases hf
    | false =>
      rw [hs] at hf
      exact h.bound asked scope others hf

/-- One statement of the first pass records a literal, drops one, or leaves all as they were. -/
theorem bindStatement_recorded {environ : Environ} {statement : Statement} {bound after : Bound}
    (hs : ∀ extent target operator whole entries,
      statement = .assignment extent target operator (.hashtable whole entries) → Assigned entries)
    (hr : ∃ literals, Recorded bound.bindings literals)
    (h : bindStatement environ bound statement = .ok after) :
    ∃ literals, Recorded after.bindings literals := by
  obtain ⟨literals, hr⟩ := hr
  unfold bindStatement at h
  split at h
  · obtain ⟨bindings, hb, h⟩ := ok_of_bind h
    obtain ⟨known, -, h⟩ := ok_of_bind h
    cases h
    unfold Scope.rebind at hb
    split at hb
    · obtain ⟨table, ht, hb⟩ := ok_of_bind hb
      cases hb
      exact ⟨_, hr.insert (hs _ _ _ _ _ rfl) ht _⟩
    · cases hb
      exact ⟨_, hr.erase _⟩
  · cases h
    exact ⟨literals, hr⟩

/-- The hashtables that the first pass over a script records are made from its literals. -/
theorem bindAll_recorded {source : String} {reading : Script.Reading} {environ : Environ}
    {bound : Bound} (hread : Script.read source = .ok reading)
    (h : bindAll environ reading.statements = .ok bound) :
    ∃ literals, Recorded bound.bindings literals := by
  have run (statements : List Statement) (hm : ∀ s ∈ statements, s ∈ reading.statements)
      (start : Bound) (hr : ∃ literals, Recorded start.bindings literals)
      (h : statements.foldlM (bindStatement environ) start = .ok bound) :
      ∃ literals, Recorded bound.bindings literals := by
    induction statements generalizing start with
    | nil =>
      cases h
      exact hr
    | cons statement rest ih =>
      rw [List.forall_mem_cons] at hm
      obtain ⟨next, hb, h⟩ := ok_of_bind h
      refine ih hm.2 next (bindStatement_recorded ?_ hr hb) h
      rintro extent target operator whole entries rfl
      exact ⟨source, reading, extent, target, operator, whole, hread, hm.1⟩
  exact run reading.statements (fun _ => id) {} ⟨_, recorded_empty⟩ h

/-! ## The words of a command -/

theorem mem_of_table_mem_clauses {elements : List Element} {entries : List (Expr × Expr)}
    (h : .table entries ∈ clauses elements) :
    ∃ extent, .value (.hashtable extent entries) ∈ elements := by
  fun_induction clauses elements with
  | case1 => cases h
  | case2 _ _ _ _ _ ih => exact (ih h).imp fun _ => List.mem_cons_of_mem _
  | case3 _ _ _ _ _ ih =>
    have hr := List.mem_of_ne_of_mem (by intro he; cases he) h
    exact (ih hr).imp fun _ => List.mem_cons_of_mem _
  | case4 _ _ _ _ _ ih => exact (ih h).imp fun _ => List.mem_cons_of_mem _
  | case5 _ _ _ _ _ ih =>
    have hr := List.mem_of_ne_of_mem (by intro he; cases he) h
    exact (ih hr).imp fun _ hm => List.mem_cons_of_mem _ (List.mem_cons_of_mem _ hm)
  | case6 _ _ _ _ _ ih => exact (ih h).imp fun _ => List.mem_cons_of_mem _
  | case7 _ _ _ _ _ ih =>
    have hr := List.mem_of_ne_of_mem (by intro he; cases he) h
    exact (ih hr).imp fun _ => List.mem_cons_of_mem _
  | case8 _ _ _ _ ih =>
    have hr := List.mem_of_ne_of_mem (by intro he; cases he) h
    exact (ih hr).imp fun _ => List.mem_cons_of_mem _
  | case9 extent _ _ ih =>
    rcases List.mem_cons.1 h with he | hr
    · cases he
      exact ⟨extent, List.mem_cons_self⟩
    · exact (ih hr).imp fun _ => List.mem_cons_of_mem _
  | case10 _ _ _ _ ih => exact (ih h).imp fun _ => List.mem_cons_of_mem _

theorem entriesAs_of_read {source : String} {reading : Script.Reading} {command : Script.Command}
    (hr : Script.read source = .ok reading) (hc : .command command ∈ reading.statements)
    (scope : Scope) :
    ∀ clause ∈ clauses command.elements, clause.EntriesAs scope scope.plainWrite := by
  intro clause hm entries he item hi
  subst he
  obtain ⟨extent, hv⟩ := mem_of_table_mem_clauses hm
  have honest : HonestTables (.command command) := honestTables_of_read hr _ hc
  exact scope.entryWrite_eq_plainWrite item.1 (honest _ hv _ rfl item hi)

/-- In a block, the parameters of a command are what its writes leave, where those of a splatted
variable are the writes of a literal that the first pass over the block has recorded. -/
theorem collect_bindAll {source : String} {reading : Script.Reading} {command : Script.Command}
    {environ : Environ} {bound : Bound} (hread : Script.read source = .ok reading)
    (hcommand : .command command ∈ reading.statements)
    (hbound : bindAll environ reading.statements = .ok bound) :
    ∃ literals, Recorded bound.bindings literals ∧ ∀ scope : Scope,
      Both Shows (scope.collect bound.bindings command.elements)
        (scope.wordWrites scope.plainWrite (literalWrites literals) command.elements) := by
  obtain ⟨literals, recorded⟩ := bindAll_recorded hread hbound
  refine ⟨literals, recorded, fun scope => ?_⟩
  exact Scope.collect_shows recorded.splatsAs (entriesAs_of_read hread hcommand scope)

/-- A command of a script, in any scope and with tables that are made from literals of scripts: if its
writes can be listed, its parameters are those that the last write of each name leaves, in the value and
in the environment variable it comes from, and if not, collecting them fails in the same way. -/
theorem collect_lastWrite {source : String} {reading : Script.Reading} {command : Script.Command}
    {bindings : FoldedTable Parameters} {literals : String → Option (Scope × List (Expr × Expr))}
    (hread : Script.read source = .ok reading) (hcommand : .command command ∈ reading.statements)
    (hrecorded : Recorded bindings literals) (scope : Scope) :
    (∀ fault,
      scope.wordWrites scope.plainWrite (literalWrites literals) command.elements = .error fault →
        scope.collect bindings command.elements = .error fault) ∧
    ∀ writes,
      scope.wordWrites scope.plainWrite (literalWrites literals) command.elements = .ok writes →
        ∃ parameters, scope.collect bindings command.elements = .ok parameters ∧ ∀ name,
          parameters.values.get? name = (lastWrite? name writes).map (·.value) ∧
          parameters.sources.get? name = (lastWrite? name writes).bind (·.source) ∧
          (parameters.sources.contains name = true → parameters.values.contains name = true) := by
  have both := Scope.collect_shows hrecorded.splatsAs (entriesAs_of_read hread hcommand scope)
  generalize scope.wordWrites scope.plainWrite (literalWrites literals) command.elements = listed,
    scope.collect bindings command.elements = collected at both ⊢
  cases both with
  | error fault =>
    refine ⟨fun other he => ?_, nofun⟩
    cases he
    rfl
  | @ok parameters writes hs =>
    refine ⟨nofun, fun others he => ?_⟩
    cases he
    refine ⟨parameters, rfl, fun name => ?_⟩
    have hv := hs.value name
    have hsource := hs.source name
    rw [effect, Option.map_map] at hv
    rw [effect, Option.bind_map] at hsource
    refine ⟨hv, hsource, ?_⟩
    rw [FoldedTable.contains_eq_isSome_get?, FoldedTable.contains_eq_isSome_get?, hv, hsource]
    cases lastWrite? name writes with
    | none => exact id
    | some w => exact fun _ => rfl

/-- A hashtable of a variable, and a command that writes each parameter in more than one way. -/
def overwritingSource : String :=
  "$p = @\x7bTop=$env:N\x7d\nRead-A -top 1 @P -K $env:A -k:'a;b' @\x7bq='x'; Q=$env:Q\x7d -V -D $env:D"

/-- A script that assigns a hashtable and then gives a command. -/
def assignedThenUsed? : List Statement → Option (List (Expr × Expr) × Script.Command)
  | [.assignment _ _ _ (.hashtable _ entries), .command command] => some (entries, command)
  | _ => none

def bareScope : Scope where
  environ _ := none

/-- The literal of the variable `p`, in whatever spelling. -/
def literalOfP (entries : List (Expr × Expr)) (name : String) :
    Option (Scope × List (Expr × Expr)) :=
  if sameName name "p" then some (bareScope, entries) else none

theorem mem_of_assignedThenUsed? {statements : List Statement} {entries : List (Expr × Expr)}
    {command : Script.Command} (h : assignedThenUsed? statements = some (entries, command)) :
    (∃ extent target operator whole,
      .assignment extent target operator (.hashtable whole entries) ∈ statements) ∧
      .command command ∈ statements := by
  unfold assignedThenUsed? at h
  split at h
  · cases h
    exact ⟨⟨_, _, _, _, List.mem_cons_self⟩, List.mem_cons_of_mem _ List.mem_cons_self⟩
  · cases h

theorem collect_lastWrite_overwritingSource :
    ∃ reading entries command table parameters,
      Script.read overwritingSource = .ok reading ∧ .command command ∈ reading.statements ∧
      Recorded (FoldedTable.empty.insert "p" table) (literalOfP entries) ∧
      bareScope.collect (FoldedTable.empty.insert "p" table) command.elements = .ok parameters ∧
      (["Top", "K", "q", "V", "D", "p"].map fun name =>
        (parameters.values.get? name, parameters.sources.get? name)) =
        [(some "N", some "N"), (some "a;b", none), (some "Q", some "Q"), (some "true", none),
          (some "D", some "D"), (none, none)] := by
  have run : ((Script.read overwritingSource).toOption.bind fun reading =>
      (assignedThenUsed? reading.statements).bind fun (entries, command) =>
        (bareScope.table entries).toOption.bind fun _ =>
          (bareScope.wordWrites bareScope.plainWrite (literalWrites (literalOfP entries))
            command.elements).toOption.map fun writes =>
              ["Top", "K", "q", "V", "D", "p"].map fun name =>
                ((lastWrite? name writes).map (·.value), (lastWrite? name writes).bind (·.source))) =
      some [(some "N", some "N"), (some "a;b", none), (some "Q", some "Q"), (some "true", none),
        (some "D", some "D"), (none, none)] := by
    decide +kernel
  obtain ⟨reading, hr, run⟩ := ok_of_toOption_bind run
  obtain ⟨⟨entries, command⟩, hp, run⟩ := Option.bind_eq_some_iff.1 run
  obtain ⟨table, ht, run⟩ := ok_of_toOption_bind run
  obtain ⟨writes, hw, hlast⟩ := ok_of_toOption run
  obtain ⟨⟨extent, target, operator, whole, ha⟩, hc⟩ := mem_of_assignedThenUsed? hp
  have recorded : Recorded (FoldedTable.empty.insert "p" table) (literalOfP entries) :=
    recorded_empty.insert ⟨_, reading, extent, target, operator, whole, hr, ha⟩ ht "p"
  obtain ⟨parameters, hcollect, hall⟩ := (collect_lastWrite hr hc recorded bareScope).2 writes hw
  refine ⟨reading, entries, command, table, parameters, hr, hc, recorded, hcollect, ?_⟩
  rw [← hlast]
  refine List.map_congr_left fun name _ => ?_
  rw [(hall name).1, (hall name).2.1]

end PageScript.Compile
