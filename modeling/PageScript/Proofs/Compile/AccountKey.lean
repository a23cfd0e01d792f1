import PageScript.Found
import PageScript.Proofs.Compile.Writes
import PageScript.Run

/-!
# Account keys in the script and in the environment

A command that reads an item can be given its account key as it is, or as a variable of the
environment. In the first case the connection string is put together when the command is compiled, in
the second when the query is asked. Where the variable holds the same key by then, both ask the same:
the same requests are sent and the same line is given.

The two commands are one command with another argument in the places of the account key (`withKey`).
Their writes differ in that place only (`Write.Rekeyed`), so that all other parameters read the same.
The account key itself is what its last write says, so it has to be given as an argument there
(`Scope.KeyGiven`); a splatted variable behind it could bring another one.
-/

namespace PageScript.Compile

open Script (Expr Element)

/-! ## One command with two account keys -/

/-- An entry of a hashtable literal, with the value `key` if it is the account key. -/
def entryWithKey (key : Expr) (entry : Expr × Expr) : Expr × Expr :=
  (entry.1, if isKeyConstant entry.1 then key else entry.2)

/-- The words of a command with the argument `key` wherever an account key is given. -/
def withKey (key : Expr) : List Element → List Element
  | [] => []
  | .parameter extent name (some argument) :: rest =>
    .parameter extent name (some (if sameName keyParameter name then key else argument)) ::
      withKey key rest
  | .parameter extent name none :: .value argument :: rest =>
    if name.isEmpty then .parameter extent name none :: withKey key (.value argument :: rest)
    else .parameter extent name none ::
      .value (if sameName keyParameter name then key else argument) :: withKey key rest
  | .parameter extent name none :: rest => .parameter extent name none :: withKey key rest
  | .value (.hashtable extent entries) :: rest =>
    .value (.hashtable extent (entries.map (entryWithKey key))) :: withKey key rest
  | .value value :: rest => .value value :: withKey key rest

/-- A clause with the argument `key` wherever an account key is given. -/
def Clause.withKey (key : Expr) : Clause → Clause
  | .named name argument =>
    .named name (argument.map fun argument => if sameName keyParameter name then key else argument)
  | .splat name => .splat name
  | .table entries => .table (entries.map (entryWithKey key))

theorem clauses_nameless {extent : Script.Extent} {name : String} (h : name.isEmpty = true)
    {rest : List Element} : clauses (.parameter extent name none :: rest) = clauses rest := by
  cases rest with
  | nil =>
    rw [clauses_switch, if_pos h]
    nofun
  | cons word more =>
    cases word with
    | parameter =>
      rw [clauses_switch, if_pos h]
      nofun
    | value => rw [clauses, if_pos h]

theorem not_value_withKey {rest : List Element} (key : Expr)
    (h : ∀ argument more, rest = .value argument :: more → False) :
    ∀ argument more, withKey key rest = .value argument :: more → False := by
  intro argument more he
  unfold withKey at he
  split at he
  · cases he
  · cases he
  · split at he <;> cases he
  · cases he
  · exact h _ _ rfl
  · exact h _ _ rfl

theorem clauses_withKey (key : Expr) (words : List Element) :
    clauses (withKey key words) = (clauses words).map (Clause.withKey key) := by
  fun_induction withKey key words with
  | case1 => rfl
  | case2 extent name argument rest ih =>
    rw [clauses, clauses, ih]
    split <;> rfl
  | case3 extent name argument rest he ih =>
    rw [clauses_nameless he, clauses_nameless he, ih]
  | case4 extent name argument rest he ih =>
    rw [clauses, clauses, if_neg he, if_neg he, ih]
    rfl
  | case5 extent name rest hr ih =>
    rw [clauses_switch hr, clauses_switch (not_value_withKey key hr), ih]
    split <;> rfl
  | case6 extent entries rest ih =>
    rw [clauses, clauses, ih]
    rfl
  | case7 value rest hr ih =>
    cases value with
    | reference extent name drive splatted =>
      cases splatted with
      | true => exact congrArg (.splat name :: ·) ih
      | false => exact ih
    | hashtable extent entries => exact (hr _ _ rfl).elim
    | _ => exact ih

/-! ## Writes that differ in the account key -/

/-- Two writes of one parameter: the same, or an account key as it is and one from the environment. -/
inductive Write.Rekeyed (key variableName : String) : Write → Write → Prop where
  | same (w : Write) : Write.Rekeyed key variableName w w
  | account {name : String} (h : sameName keyParameter name = true) (value : String) :
      Write.Rekeyed key variableName ⟨name, key, none⟩ ⟨name, value, some variableName⟩

section

variable {scope : Scope} {literal reference : Expr} {key variableName : String}

/-- The key as it is written in the script, and the variable of the environment in its place. -/
structure KeyForms (scope : Scope) (literal reference : Expr) (key variableName : String) : Prop where
  resolved : scope.resolve literal = .ok key
  plain : envSource? literal = none
  named : envSource? reference = some variableName
  nonblank : Text.allBlank key = false
  nonempty : variableName ≠ ""

theorem KeyForms.key_nonempty (h : KeyForms scope literal reference key variableName) :
    key.isEmpty = false := by
  cases he : key.isEmpty with
  | false => rfl
  | true =>
    have hb := h.nonblank
    rw [String.isEmpty_iff.1 he] at hb
    exact absurd hb (by decide)

/-- Where the account key is given as this argument, this value and this source are written. -/
structure Scope.Gives (scope : Scope) (argument : Expr) (value : String) (source : Option String) :
    Prop where
  argumentWrite : ∀ name, scope.argumentWrite name (some argument) = .ok ⟨name, value, source⟩
  entryWrite : ∀ key name, scope.keyName key = .ok name →
    scope.entryWrite key argument = .ok ⟨name, value, source⟩

theorem KeyForms.literal_gives (h : KeyForms scope literal reference key variableName) :
    scope.Gives literal key none where
  argumentWrite name := by
    rw [Scope.argumentWrite, h.resolved, h.plain]
    rfl
  entryWrite _ name hn := by
    simp only [Scope.entryWrite, hn, h.resolved, h.plain, bind, Except.bind, h.key_nonempty,
      Bool.false_eq_true, if_false]
    rfl

theorem KeyForms.reference_gives (h : KeyForms scope literal reference key variableName) :
    scope.Gives reference (scope.envValue variableName) (some variableName) where
  argumentWrite name := by
    rw [Scope.argumentWrite, resolve_of_envSource? scope h.named, h.named]
    rfl
  entryWrite _ name hn := by
    have hempty := envValue_isEmpty scope h.nonempty
    simp only [Scope.entryWrite, hn, resolve_of_envSource? scope h.named, h.named, bind, Except.bind,
      hempty, Bool.false_eq_true, if_false]
    rfl

theorem KeyForms.argumentWrite (h : KeyForms scope literal reference key variableName) (name : String)
    (argument : Option Expr) :
    Both (Write.Rekeyed key variableName)
      (scope.argumentWrite name (argument.map fun argument =>
        if sameName keyParameter name then literal else argument))
      (scope.argumentWrite name (argument.map fun argument =>
        if sameName keyParameter name then reference else argument)) := by
  cases argument with
  | none => exact .ok (.same _)
  | some argument =>
    rw [Option.map_some, Option.map_some]
    cases hn : sameName keyParameter name with
    | false => exact Both.refl .same _
    | true =>
      rw [if_pos rfl, if_pos rfl, h.literal_gives.argumentWrite, h.reference_gives.argumentWrite]
      exact .ok (.account hn _)

theorem KeyForms.entryWrite (h : KeyForms scope literal reference key variableName)
    (entry : Expr × Expr) :
    Both (Write.Rekeyed key variableName)
      (scope.entryWrite (entryWithKey literal entry).1 (entryWithKey literal entry).2)
      (scope.entryWrite (entryWithKey reference entry).1 (entryWithKey reference entry).2) := by
  rw [entryWithKey, entryWithKey]
  cases hk : isKeyConstant entry.1 with
  | false => exact Both.refl .same _
  | true =>
    obtain ⟨name, hsame, hname⟩ := keyName_of_isKeyConstant hk
    rw [if_pos rfl, if_pos rfl, h.literal_gives.entryWrite _ _ (hname scope),
      h.reference_gives.entryWrite _ _ (hname scope)]
    exact .ok (.account hsame _)

theorem KeyForms.clauseWrites (h : KeyForms scope literal reference key variableName)
    (splatted : String → Except Numeral.IntegerFault (List Write)) (clause : Clause) :
    Both (List.Forall₂ (Write.Rekeyed key variableName))
      (scope.clauseWrites scope.entryWrite splatted (clause.withKey literal))
      (scope.clauseWrites scope.entryWrite splatted (clause.withKey reference)) := by
  have same (writes : List Write) : List.Forall₂ (Write.Rekeyed key variableName) writes writes :=
    List.forall₂_same.2 fun w _ => .same w
  cases clause with
  | named name argument =>
    exact (h.argumentWrite name argument).bind fun w v hw => .ok (.cons hw .nil)
  | splat name =>
    show Both _ (splatted name) (splatted name)
    exact Both.refl same _
  | table entries =>
    refine Both.forall₂_mapM (P := fun first second => ∃ entry,
      first = entryWithKey literal entry ∧ second = entryWithKey reference entry) ?_ ?_
    · rintro _ _ ⟨entry, rfl, rfl⟩
      exact h.entryWrite entry
    · rw [List.forall₂_map_left_iff, List.forall₂_map_right_iff]
      exact List.forall₂_same.2 fun entry _ => ⟨entry, rfl, rfl⟩

theorem KeyForms.writesOf (h : KeyForms scope literal reference key variableName)
    (bindings : FoldedTable Parameters) (words : List Element) :
    Both (List.Forall₂ (Write.Rekeyed key variableName))
      (scope.writesOf bindings (withKey literal words))
      (scope.writesOf bindings (withKey reference words)) := by
  rw [Scope.writesOf, Scope.writesOf, Scope.wordWrites, Scope.wordWrites, clauses_withKey,
    clauses_withKey]
  refine (Both.forall₂_mapM (P := fun first second => ∃ clause : Clause,
    first = clause.withKey literal ∧ second = clause.withKey reference) ?_ ?_).bind
    fun groups others hg => .ok (List.rel_flatten hg)
  · rintro _ _ ⟨clause, rfl, rfl⟩
    exact h.clauseWrites _ clause
  · rw [List.forall₂_map_left_iff, List.forall₂_map_right_iff]
    exact List.forall₂_same.2 fun clause _ => ⟨clause, rfl, rfl⟩

/-- What the writes leave of another name than the account key is the same. -/
theorem effect_rekeyed {writes others : List Write}
    (h : List.Forall₂ (Write.Rekeyed key variableName) writes others) {name : String}
    (hn : sameName keyParameter name = false) : effect writes name = effect others name := by
  induction h with
  | nil => rfl
  | @cons w v writes others hw _ ih =>
    rw [effect_cons w writes, effect_cons v others, ih]
    cases hw with
    | same w => rfl
    | @account other hk value =>
      have hs : sameName name other = false := by
        rw [sameName_comm, ← sameName_congr hk, hn]
      rw [effect_singleton, effect_singleton, hs]
      rfl

/-! ## The last write of the account key -/

/-- The entry of a hashtable literal has another name than the account key. -/
def Scope.SparesKey (scope : Scope) (entry : Expr × Expr) : Prop :=
  ∀ name, scope.keyName entry.1 = .ok name → sameName keyParameter name = false

/-- The clause does not write the account key. -/
def Clause.SparesKey (scope : Scope) (bindings : FoldedTable Parameters) : Clause → Prop
  | .named name _ => sameName keyParameter name = false
  | .splat name => ∀ table, bindings.get? name = some table → table.values.get? keyParameter = none
  | .table entries => ∀ entry ∈ entries, scope.SparesKey entry

/-- The clause gives the account key as an argument, and does not write it again. -/
inductive Clause.GivesKey (scope : Scope) : Clause → Prop where
  | named {name : String} (h : sameName keyParameter name = true) (argument : Expr) :
    GivesKey scope (.named name (some argument))
  | table {before after : List (Expr × Expr)} {entry : Expr × Expr}
    (h : isKeyConstant entry.1 = true) (hafter : ∀ later ∈ after, scope.SparesKey later) :
    GivesKey scope (.table (before ++ entry :: after))

/-- The last words of a command that write the account key give it as an argument. -/
def Scope.KeyGiven (scope : Scope) (bindings : FoldedTable Parameters) (words : List Element) : Prop :=
  ∃ before clause after, clauses words = before ++ clause :: after ∧ clause.GivesKey scope ∧
    ∀ later ∈ after, later.SparesKey scope bindings

theorem effect_eq_none {writes : List Write} {name : String}
    (h : ∀ w ∈ writes, sameName name w.name = false) : effect writes name = none := by
  rw [effect, lastWrite?, Option.map_eq_none_iff, List.find?_eq_none]
  intro w hw
  rw [h w (List.mem_reverse.1 hw)]
  exact Bool.false_ne_true

theorem name_of_entryWrite {entry value : Expr} {w : Write}
    (h : scope.entryWrite entry value = .ok w) : scope.keyName entry = .ok w.name := by
  obtain ⟨name, hn, h⟩ := ok_of_bind h
  obtain ⟨text, -, h⟩ := ok_of_bind h
  rw [hn]
  split at h
  · split at h <;> cases h <;> rfl
  · cases h
    rfl

variable {argument : Expr} {value : String} {source : Option String}
  {bindings : FoldedTable Parameters}

theorem spared_of_entries {entries : List (Expr × Expr)} {writes : List Write}
    (h : ∀ entry ∈ entries, scope.SparesKey entry)
    (hw : ((entries.map (entryWithKey argument)).mapM fun entry =>
      scope.entryWrite entry.1 entry.2) = .ok writes) :
    ∀ w ∈ writes, sameName keyParameter w.name = false := by
  intro w hm
  obtain ⟨item, hi, he⟩ := mem_of_mapM_ok hw hm
  obtain ⟨entry, hentry, rfl⟩ := List.mem_map.1 hi
  exact h entry hentry _ (name_of_entryWrite he)

theorem name_of_argumentWrite {name : String} {given : Option Expr} {w : Write}
    (h : scope.argumentWrite name given = .ok w) : w.name = name := by
  cases given with
  | none =>
    cases h
    rfl
  | some given =>
    obtain ⟨text, -, h⟩ := ok_of_bind h
    cases h
    rfl

theorem spared_of_absent {table : Parameters} (h : table.values.get? keyParameter = none) :
    ∀ w ∈ table.writes, sameName keyParameter w.name = false := by
  intro w hm
  obtain ⟨entry, he, rfl⟩ := List.mem_map.1 hm
  rw [FoldedTable.get?, Option.map_eq_none_iff, FoldedTable.entry?_eq_find?, List.find?_eq_none] at h
  exact Bool.eq_false_iff.2 (h entry he)

theorem Clause.SparesKey.spared {clause : Clause} {writes : List Write}
    (h : clause.SparesKey scope bindings)
    (hw : scope.clauseWrites scope.entryWrite (splatWrites bindings) (clause.withKey argument) =
      .ok writes) : ∀ w ∈ writes, sameName keyParameter w.name = false := by
  cases clause with
  | named name given =>
    obtain ⟨w, ha, hw⟩ := ok_of_bind hw
    cases hw
    rw [List.forall_mem_singleton, name_of_argumentWrite ha]
    exact h
  | splat name =>
    cases hw
    intro w hm
    cases hb : bindings.get? name with
    | none =>
      rw [hb] at hm
      cases hm
    | some table =>
      rw [hb] at hm
      exact spared_of_absent (h table hb) w hm
  | table entries => exact spared_of_entries h hw

theorem Clause.GivesKey.effect_eq {clause : Clause} {writes : List Write} (h : clause.GivesKey scope)
    (hg : scope.Gives argument value source)
    (hw : scope.clauseWrites scope.entryWrite (splatWrites bindings) (clause.withKey argument) =
      .ok writes) : effect writes keyParameter = some (value, source) := by
  cases h with
  | @named name hn given =>
    obtain ⟨w, ha, hw⟩ := ok_of_bind hw
    cases hw
    rw [Option.map_some, if_pos hn, hg.argumentWrite] at ha
    cases ha
    rw [effect_singleton, if_pos hn]
  | @table before after entry hk hafter =>
    obtain ⟨name, hsame, hname⟩ := keyName_of_isKeyConstant hk
    change ((before ++ entry :: after).map (entryWithKey argument)).mapM _ = _ at hw
    rw [List.map_append, List.map_cons] at hw
    obtain ⟨first, w, last, he, hl, rfl⟩ := ok_of_mapM_append_cons hw
    dsimp only [entryWithKey] at he
    rw [if_pos hk, hg.entryWrite _ _ (hname scope)] at he
    cases he
    rw [effect_append, effect_cons, effect_eq_none (spared_of_entries hafter hl), effect_singleton,
      if_pos hsame]
    rfl

/-- The last write of the account key is the one that its argument makes. -/
theorem Scope.KeyGiven.effect_eq {words : List Element} {writes : List Write}
    (h : scope.KeyGiven bindings words) (hg : scope.Gives argument value source)
    (hw : scope.writesOf bindings (withKey argument words) = .ok writes) :
    effect writes keyParameter = some (value, source) := by
  obtain ⟨before, clause, after, hc, given, spared⟩ := h
  rw [Scope.writesOf, Scope.wordWrites, clauses_withKey, hc, List.map_append, List.map_cons] at hw
  obtain ⟨groups, hm, hw⟩ := ok_of_bind hw
  cases hw
  obtain ⟨first, middle, last, hmiddle, hlast, rfl⟩ := ok_of_mapM_append_cons hm
  have none : effect last.flatten keyParameter = none := by
    refine effect_eq_none fun w hw => ?_
    obtain ⟨group, hgroup, hw⟩ := List.mem_flatten.1 hw
    obtain ⟨item, hi, he⟩ := mem_of_mapM_ok hlast hgroup
    obtain ⟨later, hl, rfl⟩ := List.mem_map.1 hi
    exact (spared later hl).spared he w hw
  rw [List.flatten_append, List.flatten_cons, effect_append, effect_append, none,
    given.effect_eq hg hmiddle]
  rfl

/-- Both commands give the same parameters, but for the account key: that is the key itself in the
first command and comes from the variable in the second. -/
theorem KeyForms.collect (h : KeyForms scope literal reference key variableName) {words : List Element}
    (hgiven : scope.KeyGiven bindings words) {parameters : Parameters}
    (hp : scope.collect bindings (withKey literal words) = .ok parameters) :
    parameters.values.get? keyParameter = some key ∧ parameters.sources.get? keyParameter = none ∧
    ∃ others, scope.collect bindings (withKey reference words) = .ok others ∧
      others.sources.get? keyParameter = some variableName ∧
      ∀ name, sameName keyParameter name = false →
        parameters.values.get? name = others.values.get? name := by
  have first := scope.collect_writesOf bindings (withKey literal words)
  have second := scope.collect_writesOf bindings (withKey reference words)
  rw [hp] at first
  obtain ⟨writes, hw, hs⟩ := first.of_ok
  have compared := h.writesOf bindings words
  rw [hw] at compared
  obtain ⟨more, hm, hr⟩ := compared.of_ok
  rw [hm] at second
  obtain ⟨others, ho, hso⟩ := second.symm.of_ok
  have fixed := hgiven.effect_eq h.literal_gives hw
  have dynamic := hgiven.effect_eq h.reference_gives hm
  refine ⟨?_, ?_, others, ho, ?_, fun name hn => ?_⟩
  · rw [hs.value, fixed, Option.map_some]
  · rw [hs.source, fixed, Option.bind_some]
  · rw [hso.source, dynamic, Option.bind_some]
  · rw [hs.value, hso.value, effect_rekeyed hr hn]

/-! ## What is asked -/

/-- The value of a parameter that is more than blanks. -/
def Parameters.present? (parameters : Parameters) (name : String) : Option String :=
  (parameters.values.get? name).filter (!Text.allBlank ·)

/-- The parameters of a command, without its account key, ask this query of this account. -/
structure Asks (parameters : Parameters) (account : String) (query : Query) : Prop where
  account : parameters.present? "AccountName" = some account
  database : parameters.present? "DatabaseName" = some query.database
  container : parameters.present? "ContainerName" = some query.container
  text : ∃ top, topOf (parameters.values.get? "Top") = .ok top ∧
    (parameters.values.get? "Query").getD s!"SELECT TOP {top} * FROM c" = query.text
  partitionKey : (parameters.values.get? "PartitionKey").getD "" = query.partitionKey

/-- Only the account key may differ between two sets of parameters that ask the same. -/
theorem Asks.congr {parameters others : Parameters} {account : String} {query : Query}
    (h : Asks parameters account query)
    (hsame : ∀ name, sameName keyParameter name = false →
      parameters.values.get? name = others.values.get? name) : Asks others account query := by
  obtain ⟨haccount, hdatabase, hcontainer, htext, hpartition⟩ := h
  rw [Parameters.present?, hsame "AccountName" (by decide +kernel)] at haccount
  rw [Parameters.present?, hsame "DatabaseName" (by decide +kernel)] at hdatabase
  rw [Parameters.present?, hsame "ContainerName" (by decide +kernel)] at hcontainer
  rw [hsame "Top" (by decide +kernel), hsame "Query" (by decide +kernel)] at htext
  rw [hsame "PartitionKey" (by decide +kernel)] at hpartition
  exact ⟨haccount, hdatabase, hcontainer, htext, hpartition⟩

theorem Asks.readOperation_eq {parameters : Parameters} {account : String} {query : Query}
    (h : Asks parameters account query) (settings : Settings) :
    readOperation settings parameters = .ok
      (match (keyVariable? parameters).filter (!·.isEmpty) with
      | some source => .readFirstItemFromEnv source (settings.endpointFor account) query
      | none =>
        match connectionOf? settings parameters with
        | some connection => .readFirstItem connection query
        | none => .emitText Message.missingAccountKey) := by
  obtain ⟨haccount, hdatabase, hcontainer, ⟨top, htop, htext⟩, hpartition⟩ := h
  rw [Parameters.present?] at haccount hdatabase hcontainer
  simp only [readOperation, hdatabase, hcontainer, htop, hpartition, haccount, bind, Except.bind, htext]
  cases (keyVariable? parameters).filter (!·.isEmpty) with
  | some source => rfl
  | none => cases connectionOf? settings parameters <;> rfl

/-- An account key that is given as it is becomes part of the operation. -/
theorem Asks.readFirstItem {parameters : Parameters} {account : String} {query : Query}
    (h : Asks parameters account query) (hvalue : parameters.values.get? keyParameter = some key)
    (hsource : parameters.sources.get? keyParameter = none) (hkey : Text.allBlank key = false)
    (hname : looksLikeEnvName key = false) (settings : Settings) :
    readOperation settings parameters =
      .ok (.readFirstItem (connectionWith (settings.endpointFor account) key) query) := by
  rw [keyParameter] at hvalue hsource
  have hvariable : keyVariable? parameters = none := by
    rw [keyVariable?, hsource, hvalue]
    exact Option.filter_eq_none_iff.2 (by simp [hname])
  have hconnection : connectionOf? settings parameters =
      some (connectionWith (settings.endpointFor account) key) := by
    have haccount := h.account
    rw [Parameters.present?] at haccount
    simp only [connectionOf?, haccount, hvalue, Option.filter_some, hkey, Bool.not_false, if_true]
    rfl
  rw [h.readOperation_eq settings, hvariable, hconnection]
  rfl

/-- An account key from the environment is left to the run. -/
theorem Asks.readFirstItemFromEnv {parameters : Parameters} {account : String} {query : Query}
    (h : Asks parameters account query)
    (hsource : parameters.sources.get? keyParameter = some variableName) (hname : variableName ≠ "")
    (settings : Settings) :
    readOperation settings parameters =
      .ok (.readFirstItemFromEnv variableName (settings.endpointFor account) query) := by
  have hvariable : keyVariable? parameters = some variableName := by
    rw [keyParameter] at hsource
    rw [keyVariable?, hsource]
  rw [h.readOperation_eq settings, hvariable, Option.filter_some]
  simp [hname]

theorem accountKey?_of_filled {settings : Settings} {environ : Environ}
    (h : environ variableName = some key) (hkey : Text.allBlank key = false) :
    accountKey? settings environ variableName = some key := by
  rw [accountKey?, Environ.filled?, h, Option.filter_some, hkey]
  rfl

end

theorem commandOperations_of_readOperation {scope : Scope} {bindings : FoldedTable Parameters}
    {command : Script.Command} {words : List Element} {parameters : Parameters}
    {operation : Operation} {settings : Settings} (hcommand : Text.fold command.name = readCommand)
    (hcollect : scope.collect bindings words = .ok parameters)
    (hread : readOperation settings parameters = .ok operation) :
    scope.commandOperations settings bindings { command with elements := words } =
      .ok [operation] := by
  have hwrite : (readCommand == writeCommand) = false := by decide
  simp only [Scope.commandOperations, hcommand, hwrite, Bool.false_eq_true, if_false,
    beq_self_eq_true, if_true, hcollect, bind, Except.bind, hread]
  rfl

theorem runOperation_readFirstItem {σ : Type} (backend : Backend σ) (settings : Settings)
    (environ : Environ) (connection : String) (query : Query) (state : σ) :
    runOperation backend settings environ (.readFirstItem connection query) state =
      .ok ((backend.read connection query state).1, (backend.read connection query state).2) := rfl

/-- One command with an account key as it is, and with a variable of the environment in its place,
given as an argument by the last words that write the key. The second is compiled in any scope in
which the other words of the command read as in that of the first. Run where the variable holds the
key, both send the same requests and give the same line. -/
theorem runOperation_withKey {here there : Scope} {bindings tables : FoldedTable Parameters}
    {command : Script.Command} {literal reference : Expr}
    {key variableName account : String} {query : Query} {parameters : Parameters}
    (hcommand : Text.fold command.name = readCommand)
    (hforms : KeyForms there literal reference key variableName) (hname : looksLikeEnvName key = false)
    (hhere : here.collect bindings (withKey literal command.elements) = .ok parameters)
    (hthere : there.collect tables (withKey literal command.elements) = .ok parameters)
    (hasks : Asks parameters account query)
    (hgiven : there.KeyGiven tables command.elements) (settings : Settings) :
    here.commandOperations settings bindings
        { command with elements := withKey literal command.elements } =
      .ok [.readFirstItem (connectionWith (settings.endpointFor account) key) query] ∧
    there.commandOperations settings tables
        { command with elements := withKey reference command.elements } =
      .ok [.readFirstItemFromEnv variableName (settings.endpointFor account) query] ∧
    ∀ (moment : Calendar.Moment) (elsewhere environ : Environ) (session : Cosmos.Session),
      environ variableName = some key → ∃ line after,
        runOperation (Cosmos.Session.backend moment) settings elsewhere
          (.readFirstItem (connectionWith (settings.endpointFor account) key) query) session =
          .ok (line, after) ∧
        runOperation (Cosmos.Session.backend moment) settings environ
          (.readFirstItemFromEnv variableName (settings.endpointFor account) query) session =
          .ok (line, after) := by
  obtain ⟨hvalue, hliteral, others, hothers, hsource, hsame⟩ := hforms.collect hgiven hthere
  have fixed := hasks.readFirstItem hvalue hliteral hforms.nonblank hname settings
  have dynamic := (hasks.congr hsame).readFirstItemFromEnv hsource hforms.nonempty settings
  refine ⟨commandOperations_of_readOperation hcommand hhere fixed,
    commandOperations_of_readOperation hcommand hothers dynamic, ?_⟩
  intro moment elsewhere environ session henv
  refine ⟨_, _, runOperation_readFirstItem .., ?_⟩
  rw [runOperation, accountKey?_of_filled henv hforms.nonblank]

/-- A command with its parameters given in several ways. -/
def keyedCommand : Script.Command where
  extent := ⟨"", 9⟩
  name := "READ-AzCosmosItems"
  elements :=
    [.parameter ⟨"", 8⟩ "AccountName" none, .value (.string ⟨"a", 7⟩ "a" .bare),
      .parameter ⟨"", 6⟩ "accountkey" (some (.string ⟨"x", 5⟩ "x" .bare)),
      .value (.hashtable ⟨"", 4⟩
        [(.string ⟨"DatabaseName", 3⟩ "DatabaseName" .bare, .string ⟨"d", 3⟩ "d" .bare),
          (.string ⟨"ContainerName", 2⟩ "ContainerName" .bare, .string ⟨"c", 2⟩ "c" .bare)]),
      .parameter ⟨"", 1⟩ "PartitionKey" (some (.string ⟨"p", 1⟩ "p" .bare))]

/-- An account key with all that a connection string could mistake. -/
def markedKey : Expr := .string ⟨"'==a;b ='", 5⟩ "==a;b =" .single

def keyInEnvironment : Expr := .reference ⟨"$ENV:V", 5⟩ "V" (some "ENV") false

/-- A scope in which the variable of the key has an old value. -/
def staleScope : Scope where
  environ name := if name == "V" then some "stale" else none
  known := FoldedTable.empty.insert "x" "y"

def markedParameters : Parameters where
  values := .ofList [("AccountName", "a"), ("accountkey", "==a;b ="), ("DatabaseName", "d"),
    ("ContainerName", "c"), ("PartitionKey", "p")]

theorem collect_markedParameters {scope : Scope}
    (h : (scope.collect .empty (withKey markedKey keyedCommand.elements)).toOption.map
      (fun parameters => (parameters.values.toList, parameters.sources.toList)) =
        some (markedParameters.values.toList, [])) :
    scope.collect .empty (withKey markedKey keyedCommand.elements) = .ok markedParameters := by
  obtain ⟨⟨values, sources⟩, hc, he⟩ := ok_of_toOption h
  obtain ⟨hv, hs⟩ := Prod.mk.inj he
  have values : values = markedParameters.values := FoldedTable.toList_inj.1 hv
  have sources : sources = markedParameters.sources := FoldedTable.toList_inj.1 hs
  rw [hc, values, sources]

theorem runOperation_withKey_markedKey :
    Scope.commandOperations { environ := fun _ => none } {} .empty
        { keyedCommand with elements := withKey markedKey keyedCommand.elements } =
      .ok [.readFirstItem "AccountEndpoint=https://a.documents.azure.com:443/;AccountKey=a;b =;"
        ⟨"d", "c", "SELECT TOP 1 * FROM c", "p"⟩] ∧
    staleScope.commandOperations {} .empty
        { keyedCommand with elements := withKey keyInEnvironment keyedCommand.elements } =
      .ok [.readFirstItemFromEnv "V" "https://a.documents.azure.com:443/"
        ⟨"d", "c", "SELECT TOP 1 * FROM c", "p"⟩] ∧
    ∀ (moment : Calendar.Moment) (elsewhere environ : Environ) (session : Cosmos.Session),
      environ "V" = some "==a;b =" → ∃ line after,
        runOperation (Cosmos.Session.backend moment) {} elsewhere
          (.readFirstItem "AccountEndpoint=https://a.documents.azure.com:443/;AccountKey=a;b =;"
            ⟨"d", "c", "SELECT TOP 1 * FROM c", "p"⟩) session = .ok (line, after) ∧
        runOperation (Cosmos.Session.backend moment) {} environ
          (.readFirstItemFromEnv "V" "https://a.documents.azure.com:443/"
            ⟨"d", "c", "SELECT TOP 1 * FROM c", "p"⟩) session = .ok (line, after) := by
  have forms : KeyForms staleScope markedKey keyInEnvironment "==a;b =" "V" :=
    ⟨rfl, rfl, by decide +kernel, by decide +kernel, by decide⟩
  have asks : Asks markedParameters "a" ⟨"d", "c", "SELECT TOP 1 * FROM c", "p"⟩ :=
    ⟨by decide +kernel, by decide +kernel, by decide +kernel, ⟨1, rfl, by decide +kernel⟩,
      by decide +kernel⟩
  have given : staleScope.KeyGiven .empty keyedCommand.elements := by
    have other : sameName keyParameter "PartitionKey" = false := by decide +kernel
    refine ⟨[_], _, _, rfl, .named (by decide +kernel) _, List.forall_mem_cons.2 ⟨?_,
      List.forall_mem_cons.2 ⟨other, List.forall_mem_nil _⟩⟩⟩
    refine List.forall_mem_cons.2 ⟨?_, List.forall_mem_cons.2 ⟨?_, List.forall_mem_nil _⟩⟩
    · rintro name ⟨⟩
      decide +kernel
    · rintro name ⟨⟩
      decide +kernel
  have connection : connectionWith (Settings.endpointFor {} "a") "==a;b =" =
      "AccountEndpoint=https://a.documents.azure.com:443/;AccountKey=a;b =;" := by
    decide +kernel
  have endpoint : Settings.endpointFor {} "a" = "https://a.documents.azure.com:443/" := by
    decide +kernel
  rw [← connection, ← endpoint]
  exact runOperation_withKey (by decide +kernel) forms (by decide +kernel)
    (collect_markedParameters (by decide +kernel)) (collect_markedParameters (by decide +kernel)) asks
    given {}

end PageScript.Compile
