import PageScript.Found
import PageScript.Proofs.Compile.Writes
import PageScript.Proofs.Text.Folding

/-!
# Names in any letter case

Two blocks that differ in the letter case of names compile to the same operations. The tables of the two
compilations are not the same, since they keep the spelling that was written last; what they have in
common is what every name reads as (`SameReads`), and of the tables of variables what splatting them
does (`SameSplats`). No step looks at more.
-/

namespace PageScript

namespace FoldedTable

variable {α : Type} {table other : FoldedTable α} {name spelled : String}

/-- Every name reads the same in both tables. -/
def SameReads (table other : FoldedTable α) : Prop := ∀ name, table.get? name = other.get? name

theorem SameReads.refl (table : FoldedTable α) : SameReads table table := fun _ => rfl

theorem sameName_asked (h : sameName name spelled = true) (asked : String) :
    sameName asked name = sameName asked spelled := by
  rw [sameName_comm asked, sameName_comm asked, sameName_congr h]

theorem SameReads.insert (h : SameReads table other) (hn : sameName name spelled = true) (value : α) :
    SameReads (table.insert name value) (other.insert spelled value) := by
  intro asked
  rw [get?_insert, get?_insert, h, sameName_asked hn]

theorem SameReads.erase (h : SameReads table other) (hn : sameName name spelled = true) :
    SameReads (table.erase name) (other.erase spelled) := by
  intro asked
  rw [get?_erase, get?_erase, h, sameName_asked hn]

theorem SameReads.get? (h : SameReads table other) (hn : sameName name spelled = true) :
    table.get? name = other.get? spelled := by
  rw [h, get?_congr hn]

end FoldedTable

namespace Compile

open Script (Expr Element Statement Command Extent)
open FoldedTable (SameReads)

/-! ## Spellings -/

mutual

/-- Two expressions that differ in the spelling of names at most: of variables outside of the
environment, of drives, and of the constant keys of hashtable literals. -/
inductive Respelled : Expr → Expr → Prop where
  | string {first second : Extent} (htext : first.text = second.text) (value : String)
      (quote : Script.Quote) : Respelled (.string first value quote) (.string second value quote)
  | expandable {first second : Extent} (htext : first.text = second.text) (body : String) :
      Respelled (.expandable first body) (.expandable second body)
  | number {first second : Extent} (htext : first.text = second.text) (value : Numeral.Number) :
      Respelled (.number first value) (.number second value)
  | reference {first second : Extent} (htext : first.text = second.text) {name spelled : String}
      {drive other : Option String} {splatted : Bool} (hname : sameName name spelled = true)
      (hdrive : drive.map Text.fold = other.map Text.fold)
      (henv : Script.isEnvDrive drive = true → splatted = false → name = spelled) :
      Respelled (.reference first name drive splatted) (.reference second spelled other splatted)
  | hashtable {first second : Extent} (htext : first.text = second.text)
      {entries others : List (Expr × Expr)} (h : List.Forall₂ RespelledEntry entries others) :
      Respelled (.hashtable first entries) (.hashtable second others)
  | raw {first second : Extent} (htext : first.text = second.text) (kind : Script.RawKind) :
      Respelled (.raw first kind) (.raw second kind)

/-- Two entries of a hashtable literal; a constant key may be spelled in another way, also in the text
it was read from. -/
inductive RespelledEntry : Expr × Expr → Expr × Expr → Prop where
  | constant {first second : Extent} (htext : sameName first.text second.text = true)
      {key spelled : String} (hkey : sameName key spelled = true) {quote : Script.Quote}
      {value other : Expr} (h : Respelled value other) :
      RespelledEntry (.string first key quote, value) (.string second spelled quote, other)
  | computed {key spelled value other : Expr} (hkey : Respelled key spelled)
      (h : Respelled value other) : RespelledEntry (key, value) (spelled, other)

end

/-- Two words of a command that differ in the spelling of names at most. -/
inductive RespelledWord : Element → Element → Prop where
  | parameter (first second : Extent) {name spelled : String} (hname : sameName name spelled = true)
      {argument other : Option Expr} (h : Option.Rel Respelled argument other) :
      RespelledWord (.parameter first name argument) (.parameter second spelled other)
  | value {expr other : Expr} (h : Respelled expr other) : RespelledWord (.value expr) (.value other)

/-- Two statements that differ in the spelling of names at most. -/
inductive RespelledStatement : Statement → Statement → Prop where
  | assignment (first second : Extent) {target spelled : Expr} (htarget : Respelled target spelled)
      (operator : Script.AssignOp) {value other : Expr} (h : Respelled value other) :
      RespelledStatement (.assignment first target operator value)
        (.assignment second spelled operator other)
  | command {command other : Command} (hname : sameName command.name other.name = true)
      (h : List.Forall₂ RespelledWord command.elements other.elements) :
      RespelledStatement (.command command) (.command other)
  | other (first second : Extent) (kind : Script.OtherKind) :
      RespelledStatement (.other first kind) (.other second kind)

theorem isEmpty_of_sameName {name spelled : String} (h : sameName name spelled = true) :
    name.isEmpty = spelled.isEmpty :=
  Text.isEmpty_of_fold (beq_iff_eq.1 h)

theorem Respelled.text_eq {expr other : Expr} (h : Respelled expr other) :
    expr.extent.text = other.extent.text := by
  cases h <;> assumption

theorem isEnvDrive_congr {drive other : Option String}
    (h : drive.map Text.fold = other.map Text.fold) :
    Script.isEnvDrive drive = Script.isEnvDrive other := by
  have hd (drive : Option String) : Script.isEnvDrive drive = (drive.map Text.fold == some "env") := by
    cases drive <;> rfl
  rw [hd, hd, h]

theorem Respelled.envSource?_eq {expr other : Expr} (h : Respelled expr other) :
    envSource? expr = envSource? other := by
  cases h with
  | @reference _ _ _ name spelled drive another splatted hname hdrive henv =>
    cases splatted with
    | true => rfl
    | false =>
      rw [envSource?, envSource?, ← isEnvDrive_congr hdrive]
      cases hd : Script.isEnvDrive drive with
      | true => rw [henv hd rfl]
      | false => rfl
  | _ => rfl

/-! ## Values -/

section

variable {environ : Environ} {known others : FoldedTable String}

theorem lookup?_sameReads (hk : SameReads known others) {name spelled : String}
    (hn : sameName name spelled = true) :
    Scope.lookup? { environ, known } name = Scope.lookup? { environ, known := others } spelled := by
  rw [Scope.lookup?, Scope.lookup?, hk.get? hn, (SameReads.refl automaticVariables).get? hn]

theorem expandChars_sameReads (hk : SameReads known others) (body : List Char) :
    Scope.expandChars { environ, known } body =
      Scope.expandChars { environ, known := others } body := by
  have hr (drive name : String) : Scope.reference? { environ, known } drive name =
      Scope.reference? { environ, known := others } drive name := by
    rw [Scope.reference?, Scope.reference?, lookup?_sameReads hk (beq_self_eq_true _)]
  fun_induction Scope.expandChars { environ, known } body with
  | case1 => rw [Scope.expandChars]
  | case2 c rest ih => rw [Scope.expandChars, ih]
  | case3 rest ih => rw [Scope.expandChars, ih]
  | case4 text drive name rest hp value hv ih =>
    rw [Scope.expandChars_reference _ hp, ← hr, hv, ih]
  | case5 text drive name rest hp hv ih =>
    rw [Scope.expandChars_reference _ hp, ← hr, hv, ih]
  | case6 text hp ih => rw [Scope.expandChars_dollar _ hp, ih]
  | case7 c rest hescape hquote hdollar ih =>
    rw [Scope.expandChars, ih]
    · exact hescape
    · exact hquote
    · exact hdollar

theorem Respelled.resolve_eq {expr other : Expr} (h : Respelled expr other)
    (hk : SameReads known others) :
    Scope.resolve { environ, known } expr = Scope.resolve { environ, known := others } other := by
  cases h with
  | string htext value quote => rfl
  | expandable htext body =>
    rw [Scope.resolve, Scope.resolve, Scope.expand, Scope.expand, expandChars_sameReads hk]
  | number htext value => rfl
  | @reference _ _ htext name spelled drive another splatted hname hdrive henv =>
    rw [Scope.resolve, Scope.resolve, htext, ← isEnvDrive_congr hdrive, lookup?_sameReads hk hname]
    cases splatted with
    | true => rfl
    | false =>
      cases hd : Script.isEnvDrive drive with
      | true =>
        rw [henv hd rfl]
        rfl
      | false => rfl
  | hashtable htext h => rw [Scope.resolve, Scope.resolve, htext]
  | raw htext kind => rw [Scope.resolve, Scope.resolve, htext]

/-! ## Writes -/

/-- Two writes of one parameter, in any spelling of its name. -/
structure Write.Respelled (w v : Write) : Prop where
  name : sameName w.name v.name = true
  value : w.value = v.value
  source : w.source = v.source

theorem effect_respelled {writes others : List Write}
    (h : List.Forall₂ Write.Respelled writes others) : effect writes = effect others := by
  funext name
  induction h with
  | nil => rfl
  | @cons w v writes others hw _ ih =>
    rw [effect_cons w writes, effect_cons v others, ih, effect_singleton, effect_singleton,
      FoldedTable.sameName_asked hw.name, hw.value, hw.source]

theorem Respelled.keyName_eq {key spelled : Expr} (h : Respelled key spelled)
    (hk : SameReads known others) :
    Scope.keyName { environ, known } key = Scope.keyName { environ, known := others } spelled := by
  have hr : Scope.resolve { environ, known } key =
      Scope.resolve { environ, known := others } spelled := h.resolve_eq hk
  cases h with
  | string htext value quote =>
    rw [Scope.keyName, Scope.keyName, Scope.keyName.named, Scope.keyName.named, hr, htext]
  | expandable htext body =>
    rw [Scope.keyName, Scope.keyName, Scope.keyName.named, Scope.keyName.named, hr, htext]
  | number htext value =>
    rw [Scope.keyName, Scope.keyName, Scope.keyName.named, Scope.keyName.named, hr, htext]
  | reference htext => exact congrArg Except.ok htext
  | hashtable htext => exact congrArg Except.ok htext
  | raw htext => exact congrArg Except.ok htext

/-- A key that has no value goes by its text, so that a constant key needs both to be spelled alike. -/
theorem RespelledEntry.keyName_sameName {entry other : Expr × Expr} (h : RespelledEntry entry other)
    (hk : SameReads known others) :
    Both (fun name spelled => sameName name spelled = true)
      (Scope.keyName { environ, known } entry.1)
      (Scope.keyName { environ, known := others } other.1) := by
  cases h with
  | constant htext hkey h =>
    refine .ok ?_
    rw [← isEmpty_of_sameName hkey]
    split
    · exact htext
    · exact hkey
  | computed hkey h =>
    rw [hkey.keyName_eq hk]
    exact Both.refl (fun name => beq_self_eq_true _) _

theorem RespelledEntry.value {entry other : Expr × Expr} (h : RespelledEntry entry other) :
    Respelled entry.2 other.2 := by
  cases h <;> assumption

theorem RespelledEntry.entryWrite {entry other : Expr × Expr} (h : RespelledEntry entry other)
    (hk : SameReads known others) :
    Both Write.Respelled (Scope.entryWrite { environ, known } entry.1 entry.2)
      (Scope.entryWrite { environ, known := others } other.1 other.2) := by
  rw [Scope.entryWrite, Scope.entryWrite, h.value.resolve_eq hk, h.value.envSource?_eq,
    h.value.text_eq]
  refine (h.keyName_sameName hk).bind fun name spelled hn => ?_
  refine (Both.of_eq rfl).bind fun text _ he => ?_
  subst he
  split
  · split
    · exact .ok ⟨hn, rfl, rfl⟩
    · exact .ok ⟨hn, rfl, rfl⟩
  · exact .ok ⟨hn, rfl, rfl⟩

theorem argumentWrite_respelled {argument other : Option Expr}
    (h : Option.Rel Respelled argument other) (hk : SameReads known others) {name spelled : String}
    (hn : sameName name spelled = true) :
    Both Write.Respelled (Scope.argumentWrite { environ, known } name argument)
      (Scope.argumentWrite { environ, known := others } spelled other) := by
  cases h with
  | none => exact .ok ⟨hn, rfl, rfl⟩
  | some h =>
    rw [Scope.argumentWrite, Scope.argumentWrite, h.resolve_eq hk, h.envSource?_eq]
    refine (Both.of_eq rfl).bind fun text _ he => ?_
    subst he
    exact .ok ⟨hn, rfl, rfl⟩

/-! ## Commands -/

/-- Two clauses that differ in the spelling of names at most. -/
inductive RespelledClause : Clause → Clause → Prop where
  | named {name spelled : String} (hname : sameName name spelled = true)
      {argument other : Option Expr} (h : Option.Rel Respelled argument other) :
      RespelledClause (.named name argument) (.named spelled other)
  | splat {name spelled : String} (hname : sameName name spelled = true) :
      RespelledClause (.splat name) (.splat spelled)
  | table {entries others : List (Expr × Expr)} (h : List.Forall₂ RespelledEntry entries others) :
      RespelledClause (.table entries) (.table others)

theorem not_value_of_respelled {rest others : List Element}
    (h : List.Forall₂ RespelledWord rest others)
    (hr : ∀ argument more, rest = .value argument :: more → False) :
    ∀ argument more, others = .value argument :: more → False := by
  rintro argument more rfl
  obtain - | ⟨- | ha, hrest⟩ := h
  exact hr _ _ rfl

/-- The words of both commands fall into clauses at the same places. -/
theorem clauses_respelled {elements others : List Element}
    (h : List.Forall₂ RespelledWord elements others) :
    List.Forall₂ RespelledClause (clauses elements) (clauses others) := by
  fun_induction clauses elements generalizing others with
  | case1 =>
    cases h
    exact .nil
  | case2 extent name argument rest he ih =>
    obtain - | ⟨hw, hrest⟩ := h
    obtain ⟨-, second, hn, ⟨ha⟩⟩ := hw
    rw [clauses, if_pos (by rwa [← isEmpty_of_sameName hn])]
    exact ih hrest
  | case3 extent name argument rest he ih =>
    obtain - | ⟨hw, hrest⟩ := h
    obtain ⟨-, second, hn, ⟨ha⟩⟩ := hw
    rw [clauses, if_neg (by rwa [← isEmpty_of_sameName hn])]
    exact .cons (.named hn (.some ha)) (ih hrest)
  | case4 extent name argument rest he ih =>
    obtain - | ⟨hw, hrest⟩ := h
    obtain ⟨-, second, hn, ⟨⟩⟩ := hw
    obtain - | ⟨- | ha, hrest⟩ := hrest
    rw [clauses, if_pos (by rwa [← isEmpty_of_sameName hn])]
    exact ih (.cons (.value ha) hrest)
  | case5 extent name argument rest he ih =>
    obtain - | ⟨hw, hrest⟩ := h
    obtain ⟨-, second, hn, ⟨⟩⟩ := hw
    obtain - | ⟨- | ha, hrest⟩ := hrest
    rw [clauses, if_neg (by rwa [← isEmpty_of_sameName hn])]
    exact .cons (.named hn (.some ha)) (ih hrest)
  | case6 extent name rest hr he ih =>
    obtain - | ⟨hw, hrest⟩ := h
    obtain ⟨-, second, hn, ⟨⟩⟩ := hw
    rw [clauses_switch (not_value_of_respelled hrest hr),
      if_pos (by rwa [← isEmpty_of_sameName hn])]
    exact ih hrest
  | case7 extent name rest hr he ih =>
    obtain - | ⟨hw, hrest⟩ := h
    obtain ⟨-, second, hn, ⟨⟩⟩ := hw
    rw [clauses_switch (not_value_of_respelled hrest hr),
      if_neg (by rwa [← isEmpty_of_sameName hn])]
    exact .cons (.named hn .none) (ih hrest)
  | case8 extent name drive rest ih =>
    obtain - | ⟨- | hw, hrest⟩ := h
    cases hw with
    | reference htext hn hdrive henv => exact .cons (.splat hn) (ih hrest)
  | case9 extent entries rest ih =>
    obtain - | ⟨- | hw, hrest⟩ := h
    cases hw with
    | hashtable htext hentries => exact .cons (.table hentries) (ih hrest)
  | case10 value rest hsplat htable ih =>
    obtain - | ⟨- | hw, hrest⟩ := h
    rw [clauses]
    · exact ih hrest
    · rintro extent name drive rfl
      cases hw with
      | reference htext hn hdrive henv => exact hsplat _ _ _ rfl
    · rintro extent entries rfl
      cases hw with
      | hashtable htext hentries => exact htable _ _ rfl

/-- Splatting a variable does the same with both tables. -/
def SameSplats (bindings others : FoldedTable Parameters) : Prop :=
  ∀ name, effect ((bindings.get? name).elim [] Parameters.writes) =
    effect ((others.get? name).elim [] Parameters.writes)

theorem SameSplats.insert {bindings others : FoldedTable Parameters} (h : SameSplats bindings others)
    {name spelled : String} (hn : sameName name spelled = true) {table other : Parameters}
    (ht : effect table.writes = effect other.writes) :
    SameSplats (bindings.insert name table) (others.insert spelled other) := by
  intro asked
  rw [FoldedTable.get?_insert, FoldedTable.get?_insert, FoldedTable.sameName_asked hn]
  cases sameName asked spelled with
  | true => exact ht
  | false => exact h asked

theorem SameSplats.erase {bindings others : FoldedTable Parameters} (h : SameSplats bindings others)
    {name spelled : String} (hn : sameName name spelled = true) :
    SameSplats (bindings.erase name) (others.erase spelled) := by
  intro asked
  rw [FoldedTable.get?_erase, FoldedTable.get?_erase, FoldedTable.sameName_asked hn]
  cases sameName asked spelled with
  | true => rfl
  | false => exact h asked

theorem mapM_entryWrite_respelled {entries spelled : List (Expr × Expr)}
    (h : List.Forall₂ RespelledEntry entries spelled) (hk : SameReads known others) :
    Both (fun writes others => effect writes = effect others)
      (entries.mapM fun entry => Scope.entryWrite { environ, known } entry.1 entry.2)
      (spelled.mapM fun entry => Scope.entryWrite { environ, known := others } entry.1 entry.2) :=
  (Both.forall₂_mapM (fun _ _ he => he.entryWrite hk) h).imp fun _ _ => effect_respelled

/-- The tables of two hashtable literals do the same when they are splatted. -/
theorem table_respelled {entries spelled : List (Expr × Expr)}
    (h : List.Forall₂ RespelledEntry entries spelled) (hk : SameReads known others) :
    Both (fun table other => effect table.writes = effect other.writes)
      (Scope.table { environ, known } entries) (Scope.table { environ, known := others } spelled) := by
  have first := (Scope.table_shows { environ, known } entries).trans (mapM_entryWrite_respelled h hk)
    fun table writes others ht he => (effect_writes ht.1 ht.2).trans he
  exact first.trans (Scope.table_shows { environ, known := others } spelled).symm
    fun table writes other he ht => he.trans (effect_writes ht.1 ht.2).symm

section

variable {bindings tables : FoldedTable Parameters}

theorem clauseWrites_respelled {clause other : Clause} (h : RespelledClause clause other)
    (hk : SameReads known others) (hb : SameSplats bindings tables) :
    Both (fun writes others => effect writes = effect others)
      (Scope.clauseWrites { environ, known } (Scope.entryWrite { environ, known })
        (splatWrites bindings) clause)
      (Scope.clauseWrites { environ, known := others } (Scope.entryWrite { environ, known := others })
        (splatWrites tables) other) := by
  cases h with
  | named hn ha =>
    refine (argumentWrite_respelled ha hk hn).bind fun w v hw => .ok ?_
    exact effect_respelled (.cons hw .nil)
  | @splat name spelled hn =>
    refine .ok ?_
    rw [hb, FoldedTable.get?_congr hn]
  | table hentries => exact mapM_entryWrite_respelled hentries hk

theorem effect_flatten {groups others : List (List Write)}
    (h : List.Forall₂ (fun writes others => effect writes = effect others) groups others) :
    effect groups.flatten = effect others.flatten := by
  induction h with
  | nil => rfl
  | cons hw _ ih =>
    funext name
    rw [List.flatten_cons, List.flatten_cons, effect_append, effect_append, hw, ih]

theorem writesOf_respelled {elements words : List Element}
    (h : List.Forall₂ RespelledWord elements words) (hk : SameReads known others)
    (hb : SameSplats bindings tables) :
    Both (fun writes others => effect writes = effect others)
      (Scope.writesOf { environ, known } bindings elements)
      (Scope.writesOf { environ, known := others } tables words) := by
  rw [Scope.writesOf, Scope.writesOf, Scope.wordWrites, Scope.wordWrites]
  refine (Both.forall₂_mapM (fun clause other hc => clauseWrites_respelled hc hk hb)
    (clauses_respelled h)).bind fun groups others hg => ?_
  exact .ok (effect_flatten hg)

/-- Every parameter reads the same, and so does where it comes from. -/
structure Parameters.Agree (parameters others : Parameters) : Prop where
  values : SameReads parameters.values others.values
  sources : SameReads parameters.sources others.sources

theorem agree_of_shows {parameters others : Parameters} {writes more : List Write}
    (hp : Shows parameters writes) (ho : Shows others more) (h : effect writes = effect more) :
    Parameters.Agree parameters others where
  values name := by rw [hp.value, ho.value, h]
  sources name := by rw [hp.source, ho.source, h]

theorem collect_respelled {elements words : List Element}
    (h : List.Forall₂ RespelledWord elements words) (hk : SameReads known others)
    (hb : SameSplats bindings tables) :
    Both Parameters.Agree (Scope.collect { environ, known } bindings elements)
      (Scope.collect { environ, known := others } tables words) := by
  have first := (Scope.collect_writesOf { environ, known } bindings elements).trans
    (writesOf_respelled h hk hb) fun parameters writes more hs he => hs.congr he
  exact first.trans (Scope.collect_writesOf { environ, known := others } tables words).symm
    fun parameters writes others hp ho => agree_of_shows hp ho rfl

theorem Parameters.Agree.readOperation_eq {parameters others : Parameters}
    (h : parameters.Agree others) (settings : Settings) :
    readOperation settings parameters = readOperation settings others := by
  have hk : keyVariable? parameters = keyVariable? others := by
    rw [keyVariable?, keyVariable?, h.values, h.sources]
  have hc : connectionOf? settings parameters = connectionOf? settings others := by
    simp only [connectionOf?, h.values _]
  simp only [readOperation, h.values _, hk, hc]

theorem firstArgument?_respelled {elements words : List Element}
    (h : List.Forall₂ RespelledWord elements words) :
    Option.Rel Respelled (firstArgument? elements) (firstArgument? words) := by
  induction h with
  | nil => exact .none
  | cons hw _ ih =>
    cases hw with
    | parameter first second hn ha => exact ih
    | value he => exact .some he

theorem writeOperations_respelled {elements words : List Element}
    (h : List.Forall₂ RespelledWord elements words) (hk : SameReads known others) :
    Scope.writeOperations { environ, known } elements =
      Scope.writeOperations { environ, known := others } words := by
  have hfirst := firstArgument?_respelled h
  rw [Scope.writeOperations, Scope.writeOperations]
  generalize firstArgument? elements = first, firstArgument? words = second at hfirst ⊢
  cases hfirst with
  | none => rfl
  | some he => simp only [he.resolve_eq hk]

theorem commandOperations_respelled {command other : Command}
    (hname : sameName command.name other.name = true)
    (h : List.Forall₂ RespelledWord command.elements other.elements) (hk : SameReads known others)
    (hb : SameSplats bindings tables) (settings : Settings) :
    Scope.commandOperations { environ, known } settings bindings command =
      Scope.commandOperations { environ, known := others } settings tables other := by
  have hfold : Text.fold command.name = Text.fold other.name := beq_iff_eq.1 hname
  rw [Scope.commandOperations, Scope.commandOperations, hfold, writeOperations_respelled h hk]
  have hread : (do
      let parameters ← Scope.collect { environ, known } bindings command.elements
      return [← readOperation settings parameters]) = (do
      let parameters ← Scope.collect { environ, known := others } tables other.elements
      return [← readOperation settings parameters]) := by
    refine Both.eq ((collect_respelled h hk hb).bind fun parameters others hp => ?_)
    rw [hp.readOperation_eq settings]
    exact Both.of_eq rfl
  rw [hread]

end

/-! ## Both passes -/

theorem scalar?_respelled {value other : Expr} (h : Respelled value other)
    (hk : SameReads known others) :
    Scope.scalar? { environ, known } value = Scope.scalar? { environ, known := others } other := by
  have hr : Scope.resolve { environ, known } value =
      Scope.resolve { environ, known := others } other := h.resolve_eq hk
  cases h with
  | hashtable htext hentries => rfl
  | raw htext kind => rfl
  | _ => exact congrArg (some <$> ·) hr

theorem assign_respelled {target spelled : Expr} (htarget : Respelled target spelled)
    (operator : Script.AssignOp) {value other : Expr} (h : Respelled value other)
    (hk : SameReads known others) :
    Both SameReads (Scope.assign { environ, known } target operator value)
      (Scope.assign { environ, known := others } spelled operator other) := by
  cases htarget with
  | reference htext hname hdrive henv =>
    rw [Scope.assign, Scope.assign, isEnvDrive_congr hdrive, scalar?_respelled h hk]
    split
    · exact .ok hk
    · refine (Both.of_eq rfl).bind fun text _ he => ?_
      subst he
      split
      · exact .ok (hk.insert hname _)
      · rw [hk.get? hname]
        exact .ok (hk.insert hname _)
      · exact .ok (hk.erase hname)
  | _ => exact .ok hk

/-- The tables of two compilations that differ in the spelling of names at most. -/
structure Bound.Agree (bound other : Bound) : Prop where
  known : SameReads bound.known other.known
  bindings : SameSplats bound.bindings other.bindings

theorem rebind_respelled {bindings tables : FoldedTable Parameters} (hb : SameSplats bindings tables)
    (hk : SameReads known others) {name spelled : String} (hname : sameName name spelled = true)
    (operator : Script.AssignOp) {value other : Expr} (h : Respelled value other) :
    Both SameSplats (Scope.rebind { environ, known } bindings name operator value)
      (Scope.rebind { environ, known := others } tables spelled operator other) := by
  cases h with
  | hashtable htext hentries =>
    cases operator with
    | set => exact (table_respelled hentries hk).bind fun table other ht => .ok (hb.insert hname ht)
    | _ => exact .ok (hb.erase hname)
  | _ => cases operator <;> exact .ok (hb.erase hname)

theorem bindStatement_respelled {statement other : Statement} {bound tables : Bound}
    (h : RespelledStatement statement other) (hb : bound.Agree tables) :
    Both Bound.Agree (bindStatement environ bound statement) (bindStatement environ tables other) := by
  cases h with
  | assignment first second htarget operator hvalue =>
    cases htarget with
    | reference htext hname hdrive henv =>
      refine (rebind_respelled hb.bindings hb.known hname operator hvalue).bind
        fun bindings others hbindings => ?_
      refine (assign_respelled (.reference htext hname hdrive henv) operator hvalue hb.known).bind
        fun known others hknown => ?_
      exact .ok ⟨hknown, hbindings⟩
    | _ => exact .ok hb
  | command hname helements => exact .ok hb
  | other first second kind => exact .ok hb

theorem compileStatement_respelled {statement other : Statement}
    {bindings tables : FoldedTable Parameters} (h : RespelledStatement statement other)
    (hb : SameSplats bindings tables) (hk : SameReads known others) (settings : Settings) :
    Both (fun result other => result.1 = other.1 ∧ SameReads result.2 other.2)
      (compileStatement settings environ bindings known statement)
      (compileStatement settings environ tables others other) := by
  cases h with
  | assignment first second htarget operator hvalue =>
    exact (assign_respelled htarget operator hvalue hk).bind fun known others hknown =>
      .ok ⟨rfl, hknown⟩
  | command hname helements =>
    rw [compileStatement, compileStatement, commandOperations_respelled hname helements hk hb settings]
    refine (Both.of_eq rfl).bind fun operations _ he => ?_
    exact .ok ⟨he, hk⟩
  | other first second kind => exact .ok ⟨rfl, hk⟩

theorem compileAll_respelled {statements spelled : List Statement}
    {bindings tables : FoldedTable Parameters} (h : List.Forall₂ RespelledStatement statements spelled)
    (hb : SameSplats bindings tables) (hk : SameReads known others) (settings : Settings) :
    compileAll settings environ bindings known statements =
      compileAll settings environ tables others spelled := by
  induction h generalizing known others with
  | nil => rfl
  | cons hs _ ih =>
    rw [compileAll, compileAll]
    refine Both.eq ((compileStatement_respelled hs hb hk settings).bind ?_)
    rintro ⟨operations, known⟩ ⟨_, others⟩ ⟨rfl, hknown⟩
    simp only [ih hknown]
    exact Both.of_eq rfl

end

/-- Blocks that differ in the spelling of names at most compile to the same operations: of commands,
parameters, drives, constant keys, and variables that are not in the environment. -/
theorem compileBlock_respelled {statements others : List Statement}
    (h : List.Forall₂ RespelledStatement statements others) (settings : Settings)
    (environ : Environ) :
    compileBlock settings environ statements = compileBlock settings environ others := by
  have start : Bound.Agree {} {} := ⟨SameReads.refl _, fun _ => rfl⟩
  have bound : Both Bound.Agree (bindAll environ statements) (bindAll environ others) :=
    Both.forall₂_foldlM (fun _ _ _ _ => bindStatement_respelled) h start
  refine Both.eq (bound.bind fun bound tables hb => ?_)
  rw [compileAll_respelled h hb.bindings (SameReads.refl _) settings]
  exact Both.of_eq rfl

/-- A block that splats a variable, with its names spelled as given. -/
def spelledBlock (target splat database drive key command : String) : List Statement :=
  [.assignment ⟨"", 9⟩ (.reference ⟨"$p", 9⟩ target none false) .set
      (.hashtable ⟨"", 8⟩ [(.string ⟨database, 7⟩ database .bare, .string ⟨"d", 6⟩ "d" .bare)]),
    .command
      { extent := ⟨"", 5⟩
        name := command
        elements :=
          [.value (.reference ⟨"@p", 4⟩ splat none true),
            .parameter ⟨"", 3⟩ key (some (.reference ⟨"$env:K", 3⟩ "K" (some drive) false)),
            .value (.hashtable ⟨"", 2⟩
              [(.string ⟨"ContainerName", 2⟩ "ContainerName" .bare, .string ⟨"c", 2⟩ "c" .bare),
                (.string ⟨"AccountName", 1⟩ "AccountName" .bare, .string ⟨"a", 1⟩ "a" .bare)])] }]

theorem spelledBlock_respelled {target target' splat splat' database database' drive drive' key key'
    command command' : String} (htarget : sameName target target' = true)
    (hsplat : sameName splat splat' = true) (hdatabase : sameName database database' = true)
    (hdrive : sameName drive drive' = true) (hkey : sameName key key' = true)
    (hcommand : sameName command command' = true) :
    List.Forall₂ RespelledStatement (spelledBlock target splat database drive key command)
      (spelledBlock target' splat' database' drive' key' command') := by
  have hd : (some drive).map Text.fold = (some drive').map Text.fold :=
    congrArg some (beq_iff_eq.1 hdrive)
  refine .cons (.assignment _ _ ?_ _ ?_) (.cons (.command hcommand ?_) .nil)
  · exact .reference rfl htarget rfl nofun
  · refine .hashtable rfl (.cons ?_ .nil)
    refine .constant ?_ hdatabase (.string rfl _ _)
    exact hdatabase
  · refine .cons (.value (.reference rfl hsplat rfl nofun)) ?_
    have hvalue : Respelled (.reference ⟨"$env:K", 3⟩ "K" (some drive) false)
        (.reference ⟨"$env:K", 3⟩ "K" (some drive') false) :=
      .reference rfl (beq_self_eq_true _) hd fun _ _ => rfl
    refine .cons (.parameter _ _ hkey (.some hvalue)) ?_
    refine .cons (.value (.hashtable rfl ?_)) .nil
    refine .cons (.computed (.string rfl _ _) (.string rfl _ _)) ?_
    exact .cons (.computed (.string rfl _ _) (.string rfl _ _)) .nil

theorem compileBlock_respelled_spelledBlock :
    List.Forall₂ RespelledStatement
      (spelledBlock "Straße" "STRASSE" "DatabaseName" "env" "AccountKey" "Read-AzCosmosItems")
      (spelledBlock "STRASSE" "straße" "DATABASENAME" "Env" "accountKEY" "READ-azcosmositems") ∧
    compileBlock {} (fun _ => none)
        (spelledBlock "STRASSE" "straße" "DATABASENAME" "Env" "accountKEY" "READ-azcosmositems") =
      .ok [.readFirstItemFromEnv "K" "https://a.documents.azure.com:443/"
        ⟨"d", "c", "SELECT TOP 1 * FROM c", ""⟩] := by
  have spelled := @spelledBlock_respelled "Straße" "STRASSE" "STRASSE" "straße" "DatabaseName"
    "DATABASENAME" "env" "Env" "AccountKey" "accountKEY" "Read-AzCosmosItems" "READ-azcosmositems"
    (by decide +kernel) (by decide +kernel) (by decide +kernel) (by decide +kernel)
    (by decide +kernel) (by decide +kernel)
  have run : (compileBlock {} (fun _ => none) (spelledBlock "Straße" "STRASSE" "DatabaseName" "env"
      "AccountKey" "Read-AzCosmosItems")).toOption.map id =
      some [.readFirstItemFromEnv "K" "https://a.documents.azure.com:443/"
        ⟨"d", "c", "SELECT TOP 1 * FROM c", ""⟩] := by
    decide +kernel
  obtain ⟨operations, hc, rfl⟩ := ok_of_toOption run
  exact ⟨spelled, (compileBlock_respelled spelled {} _).symm.trans hc⟩

end Compile

end PageScript
