import PageScript.Proofs.Compile.Causality

/-!
# The tables that both passes see

Each pass over a block records the assignments beside what it is there for: the first beside the
hashtables, the second beside the operations. So the second goes through the variables that the first
has gone through, statement by statement, and may only be stopped by a command on its way. The
hashtables are those of the whole first pass: a variable has one if the last assignment to it is of a
hashtable literal, with the values that its entries have at that place.
-/

namespace PageScript.Compile

open Script (Expr Extent Statement)

variable {settings : Settings} {environ : Environ} {bindings : FoldedTable Parameters}

/-! ## One statement -/

/-- The variables after a statement. -/
def recordStatement (environ : Environ) (known : FoldedTable String) :
    Statement → Except Numeral.IntegerFault (FoldedTable String)
  | .assignment _ target operator value => Scope.assign { environ, known } target operator value
  | _ => .ok known

/-- The hashtables after a statement. -/
def Scope.rebindStatement (scope : Scope) (bindings : FoldedTable Parameters) :
    Statement → Except Numeral.IntegerFault (FoldedTable Parameters)
  | .assignment _ (.reference _ name _ _) operator value =>
    scope.rebind bindings name operator value
  | _ => .ok bindings

/-- The operations of a statement. -/
def Scope.operations (scope : Scope) (settings : Settings) (bindings : FoldedTable Parameters) :
    Statement → Except Numeral.IntegerFault (List Operation)
  | .command command => scope.commandOperations settings bindings command
  | _ => .ok []

/-- The first pass records a statement beside its hashtable. -/
theorem bindStatement_eq (bound : Bound) (statement : Statement) :
    bindStatement environ bound statement =
      Scope.rebindStatement { environ, known := bound.known } bound.bindings statement >>=
        fun bindings => (recordStatement environ bound.known statement).map (⟨·, bindings⟩) := by
  cases statement with
  | assignment extent target operator value =>
    cases target with
    | reference place name drive splatted =>
      rw [bindStatement, Scope.rebindStatement, recordStatement]
      cases Scope.rebind { environ, known := bound.known } bound.bindings name operator value with
      | error fault => rfl
      | ok bindings =>
        cases Scope.assign { environ, known := bound.known } (.reference place name drive splatted)
          operator value <;> rfl
    | _ => rfl
  | command command => rfl
  | other extent kind => rfl

/-- The second pass records a statement beside its operations. -/
theorem compileStatement_eq (known : FoldedTable String) (statement : Statement) :
    compileStatement settings environ bindings known statement =
      Scope.operations { environ, known } settings bindings statement >>= fun operations =>
        (recordStatement environ known statement).map (operations, ·) := by
  cases statement with
  | assignment extent target operator value =>
    rw [compileStatement, recordStatement]
    cases Scope.assign { environ, known } target operator value <;> rfl
  | command command =>
    rw [compileStatement, Scope.operations]
    cases Scope.commandOperations { environ, known } settings bindings command <;> rfl
  | other extent kind => rfl

theorem record_of_bindStatement {bound after : Bound} {statement : Statement}
    (h : bindStatement environ bound statement = .ok after) :
    recordStatement environ bound.known statement = .ok after.known := by
  rw [bindStatement_eq] at h
  obtain ⟨_, -, h⟩ := ok_of_bind h
  obtain ⟨known, hk, rfl⟩ := ok_of_map h
  exact hk

/-! ## A run -/

/-- The variables after statements that are recorded one after the other. -/
def recordAll (environ : Environ) (known : FoldedTable String) (statements : List Statement) :
    Except Numeral.IntegerFault (FoldedTable String) :=
  statements.foldlM (recordStatement environ) known

theorem recordAll_cons (known : FoldedTable String) (statement : Statement) (rest : List Statement) :
    recordAll environ known (statement :: rest) =
      recordStatement environ known statement >>= fun next => recordAll environ next rest :=
  List.foldlM_cons

/-- The first pass knows what is recorded. -/
theorem recordAll_of_foldlM {bound after : Bound} {statements : List Statement}
    (h : statements.foldlM (bindStatement environ) bound = .ok after) :
    recordAll environ bound.known statements = .ok after.known := by
  induction statements generalizing bound with
  | nil =>
    cases h
    rfl
  | cons statement rest ih =>
    rw [List.foldlM_cons] at h
    obtain ⟨next, hs, h⟩ := ok_of_bind h
    rw [recordAll_cons, record_of_bindStatement hs]
    exact ih h

/-- The second pass over a statement and what follows it. -/
theorem compileAll_cons (known : FoldedTable String) (statement : Statement) (rest : List Statement) :
    compileAll settings environ bindings known (statement :: rest) =
      Scope.operations { environ, known } settings bindings statement >>= fun part =>
        recordStatement environ known statement >>= fun next =>
          (compileAll settings environ bindings next rest).map (part ++ ·) := by
  rw [compileAll, compileStatement_eq]
  cases Scope.operations { environ, known } settings bindings statement with
  | error fault => rfl
  | ok part =>
    cases recordStatement environ known statement with
    | error fault => rfl
    | ok next =>
      simp only [bind, Except.bind, Except.map]
      cases compileAll settings environ bindings next rest <;> rfl

/-- The same with tables, over a statement that can be recorded. -/
theorem Bound.compileAll_cons (tables : Bound) {next : FoldedTable String} {statement : Statement}
    (rest : List Statement) (h : recordStatement environ tables.known statement = .ok next) :
    tables.compileAll settings environ (statement :: rest) =
      Scope.operations { environ, known := tables.known } settings tables.bindings statement >>=
        fun operations => (Bound.compileAll settings environ { tables with known := next } rest).map
          fun out => (operations ++ out.1, out.2) := by
  rw [Bound.compileAll, compileStatement_eq, h]
  cases Scope.operations { environ, known := tables.known } settings tables.bindings statement with
  | error fault => rfl
  | ok operations =>
    simp only [bind, Except.bind, Except.map]
    cases Bound.compileAll settings environ { tables with known := next } rest <;> rfl

/-- The second pass is stopped by a command of `statements`, where it knows what is recorded in
front of it. -/
def StoppedByCommand (settings : Settings) (environ : Environ) (tables : Bound)
    (statements : List Statement) : Prop :=
  ∃ before command after known fault,
    statements = before ++ .command command :: after ∧
      recordAll environ tables.known before = .ok known ∧
      Scope.commandOperations { environ, known } settings tables.bindings command = .error fault ∧
      tables.compileAll settings environ statements = .error fault

/-- The second pass over statements that can be recorded. -/
theorem Bound.compileAll_of_recordAll {tables : Bound} {after : FoldedTable String}
    {statements : List Statement} (h : recordAll environ tables.known statements = .ok after) :
    (∃ operations, tables.compileAll settings environ statements =
        .ok (operations, { tables with known := after })) ∨
      StoppedByCommand settings environ tables statements := by
  induction statements generalizing tables with
  | nil =>
    cases h
    exact .inl ⟨[], rfl⟩
  | cons statement rest ih =>
    rw [recordAll_cons] at h
    obtain ⟨next, hs, h⟩ := ok_of_bind h
    have step := @Bound.compileAll_cons settings environ tables next statement rest hs
    cases ho : Scope.operations { environ, known := tables.known } settings tables.bindings statement with
    | error fault =>
      -- Only a command has operations that can fail.
      cases statement with
      | command command =>
        exact .inr ⟨[], command, rest, tables.known, fault, rfl, rfl, ho, by rw [step, ho]; rfl⟩
      | _ => cases ho
    | ok operations =>
      rw [ho] at step
      rcases @ih { tables with known := next } h with
        ⟨more, hr⟩ | ⟨before, command, behind, known, fault, rfl, hb, hf, hr⟩
      · exact .inl ⟨operations ++ more, by rw [step, hr]; rfl⟩
      · refine .inr ⟨statement :: before, command, behind, known, fault, rfl, ?_, hf, ?_⟩
        · rw [recordAll_cons, hs]
          exact hb
        · rw [step, hr]
          rfl

/-! ## The hashtable of a variable -/

/-- A statement assigns a hashtable literal to the variable `name`, in any spelling and drive, and the
literal gives `parameters`. -/
inductive Binds (scope : Scope) (name : String) (parameters : Parameters) : Statement → Prop where
  | literal {target : String} {entries : List (Expr × Expr)} (extent place : Extent)
      (drive : Option String) (splatted : Bool) (text : Extent) (named : sameName name target = true)
      (given : scope.table entries = .ok parameters) :
      Binds scope name parameters
        (.assignment extent (.reference place target drive splatted) .set (.hashtable text entries))

theorem rebind_get?_iff {scope : Scope} {before after : FoldedTable Parameters} {target name : String}
    {operator : Script.AssignOp} {value : Expr} {parameters : Parameters} {extent place : Extent}
    {drive : Option String} {splatted : Bool} (hn : sameName name target = true)
    (h : scope.rebind before target operator value = .ok after) :
    after.get? name = some parameters ↔ Binds scope name parameters
      (.assignment extent (.reference place target drive splatted) operator value) := by
  unfold Scope.rebind at h
  split at h
  · obtain ⟨table, ht, h⟩ := ok_of_bind h
    cases h
    rw [FoldedTable.get?_insert, if_pos hn]
    constructor
    · rintro ⟨⟩
      exact .literal _ _ _ _ _ hn ht
    · rintro ⟨_, _, _, _, _, -, given⟩
      rw [← Except.ok.inj (ht.symm.trans given)]
  · rename_i hv
    cases h
    rw [FoldedTable.get?_erase, if_pos hn]
    constructor
    · nofun
    · rintro ⟨⟩
      exact absurd rfl (hv _ _ rfl)

theorem eq_assignment_of_assigned? {statement : Statement} {target : String}
    (h : assigned? statement = some target) :
    ∃ extent place drive splatted operator value,
      statement = .assignment extent (.reference place target drive splatted) operator value := by
  unfold assigned? at h
  split at h
  · cases h
    exact ⟨_, _, _, _, _, _, rfl⟩
  · cases h

/-- What a variable is bound to after a statement. -/
theorem bindStatement_get?_iff {bound after : Bound} {statement : Statement} {name : String}
    {parameters : Parameters} (h : bindStatement environ bound statement = .ok after) :
    after.bindings.get? name = some parameters ↔
      Binds { environ, known := bound.known } name parameters statement ∨
        Untouched name [statement] ∧ bound.bindings.get? name = some parameters := by
  by_cases hu : ∀ target, assigned? statement = some target → sameName name target = false
  · have unbound : ¬Binds { environ, known := bound.known } name parameters statement := by
      rintro ⟨_, _, _, _, _, named, -⟩
      cases (hu _ rfl).symm.trans named
    rw [bindStatement_get? hu h]
    exact ⟨fun hg => .inr ⟨List.forall_mem_singleton.2 hu, hg⟩, fun hb => (hb.resolve_left unbound).2⟩
  · obtain ⟨target, ht⟩ := Classical.not_forall.1 hu
    obtain ⟨ha, hn⟩ := Classical.not_imp.1 ht
    obtain ⟨extent, place, drive, splatted, operator, value, rfl⟩ := eq_assignment_of_assigned? ha
    rw [bindStatement_eq] at h
    obtain ⟨bindings, hb, h⟩ := ok_of_bind h
    obtain ⟨_, -, rfl⟩ := ok_of_map h
    refine (rebind_get?_iff (Bool.not_eq_false _ ▸ hn) hb).trans (or_iff_left fun hr => hu ?_).symm
    exact hr.1 _ List.mem_cons_self

/-- What a variable is bound to after a run of the first pass. -/
theorem foldlM_bindStatement_get?_iff {bound after : Bound} {statements : List Statement}
    {name : String} {parameters : Parameters}
    (h : statements.foldlM (bindStatement environ) bound = .ok after) :
    after.bindings.get? name = some parameters ↔
      (∃ before statement behind reached, statements = before ++ statement :: behind ∧
        before.foldlM (bindStatement environ) bound = .ok reached ∧
        Binds { environ, known := reached.known } name parameters statement ∧
        Untouched name behind) ∨
      Untouched name statements ∧ bound.bindings.get? name = some parameters := by
  induction statements generalizing bound with
  | nil =>
    cases h
    constructor
    · exact fun hg => .inr ⟨nofun, hg⟩
    · rintro (⟨before, _, _, _, hs, -⟩ | ⟨-, hg⟩)
      · cases before <;> cases hs
      · exact hg
  | cons statement rest ih =>
    rw [List.foldlM_cons] at h
    obtain ⟨next, hs, h⟩ := ok_of_bind h
    rw [ih h, bindStatement_get?_iff hs]
    -- The statement that binds is the first one, or it divides the rest in the same way.
    constructor
    · rintro (⟨before, binding, behind, reached, rfl, hr, hb, hu⟩ | ⟨hu, hb | ⟨hu', hg⟩⟩)
      · refine .inl ⟨statement :: before, binding, behind, reached, rfl, ?_, hb, hu⟩
        rw [List.foldlM_cons, hs]
        exact hr
      · exact .inl ⟨[], statement, rest, bound, rfl, rfl, hb, hu⟩
      · exact .inr ⟨List.forall_mem_cons.2 ⟨hu' _ List.mem_cons_self, hu⟩, hg⟩
    · rintro (⟨before, binding, behind, reached, he, hr, hb, hu⟩ | ⟨hu, hg⟩)
      · cases before with
        | nil =>
          cases he
          cases hr
          exact .inr ⟨hu, .inl hb⟩
        | cons first before =>
          cases he
          rw [List.foldlM_cons, hs] at hr
          exact .inl ⟨before, binding, behind, reached, rfl, hr, hb, hu⟩
      · have hu := List.forall_mem_cons.1 hu
        exact .inr ⟨hu.2, .inr ⟨List.forall_mem_singleton.2 hu.1, hg⟩⟩

/-! ## Both passes -/

/-- Both passes over a block go through the same variables: where the first has come after any number
of statements, the second, whatever the hashtables are, has the same table of variables and the
hashtables it began with, unless a command has stopped it. A block is compiled with the hashtables of
its whole first pass: of each variable the one that the last assignment to it binds, with the
variables that the first pass knows there. -/
theorem compileAll_replays_bindAll (settings : Settings) (environ : Environ)
    (statements : List Statement) :
    (∀ i first bindings, bindAll environ (statements.take i) = .ok first →
      (∃ operations, Bound.compileAll settings environ { bindings } (statements.take i) =
          .ok (operations, { known := first.known, bindings })) ∨
        StoppedByCommand settings environ { bindings } (statements.take i)) ∧
    ∀ bound, bindAll environ statements = .ok bound →
      (∀ tables : Bound, tables.compileBlock settings environ statements =
        Bound.compileAll settings environ { bindings := bound.bindings } statements) ∧
      ∀ name parameters, bound.bindings.get? name = some parameters ↔
        ∃ before statement after first, statements = before ++ statement :: after ∧
          bindAll environ before = .ok first ∧
          Binds { environ, known := first.known } name parameters statement ∧
          Untouched name after := by
  constructor
  · intro i first bindings h
    have recorded : recordAll environ .empty (statements.take i) = .ok first.known :=
      recordAll_of_foldlM h
    exact Bound.compileAll_of_recordAll recorded
  · intro bound h
    constructor
    · intro tables
      -- Both tables are emptied before the first pass.
      show (bindAll environ statements >>= fun bound => _) = _
      rw [h]
      rfl
    · intro name parameters
      exact (foldlM_bindStatement_get?_iff h).trans (or_iff_left nofun)

/-- `$name` -/
def variableNamed (name : String) : Expr := .reference ⟨"$" ++ name, 0⟩ name none false

/-- A hashtable that reads a variable which is changed behind it, and targets of other kinds. -/
def replayedBlock : List Statement :=
  [assignText "db" "first",
    .assignment ⟨"$p = @\x7b DatabaseName = $db \x7d", 0⟩ (variableNamed "p") .set
      (.hashtable ⟨"@\x7b DatabaseName = $db \x7d", 0⟩
        [(quotedText "DatabaseName", variableNamed "db")]),
    .assignment ⟨"$DB += 'x'", 0⟩ (variableNamed "DB") .add (quotedText "x"),
    .assignment ⟨"$env:db = 'y'", 0⟩ (.reference ⟨"$env:db", 0⟩ "db" (some "env") false) .set
      (quotedText "y"),
    .assignment ⟨"$db.Length = 3", 0⟩ (.raw ⟨"$db.Length", 0⟩ .member) .set (quotedText "3"),
    .command ⟨⟨"Read-AzCosmosItems @p", 0⟩, "Read-AzCosmosItems",
      [.value (.reference ⟨"@p", 0⟩ "p" none true)]⟩]

theorem compileAll_replays_bindAll_replayedBlock :
    ∃ bound, bindAll (fun _ => none) replayedBlock = .ok bound ∧
      bound.known = .ofList [("DB", "firstx")] ∧
      (∃ operations, Bound.compileAll {} (fun _ => none) { bindings := bound.bindings } replayedBlock =
        .ok (operations, { known := bound.known, bindings := bound.bindings })) ∧
      bound.bindings.get? "P" = some { values := .ofList [("DatabaseName", "first")] } ∧
      ∃ before statement after first, replayedBlock = before ++ statement :: after ∧
        bindAll (fun _ => none) before = .ok first ∧
        Binds { environ := fun _ => none, known := first.known } "P"
          { values := .ofList [("DatabaseName", "first")] } statement ∧
        Untouched "P" after := by
  have passed : bindAll (fun _ => none) replayedBlock = .ok
      { known := .ofList [("DB", "firstx")]
        bindings := .ofList [("p", { values := .ofList [("DatabaseName", "first")] })] } := rfl
  obtain ⟨replayed, last⟩ := compileAll_replays_bindAll {} (fun _ => none) replayedBlock
  refine ⟨_, passed, rfl, ?_, rfl, ((last _ passed).2 "P" _).1 rfl⟩
  refine (replayed 6 _ _ passed).resolve_right ?_
  rintro ⟨_, _, _, _, _, -, -, -, stopped⟩
  cases stopped

end PageScript.Compile
