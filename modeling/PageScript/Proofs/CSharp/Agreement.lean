import PageScript.Proofs.CSharp.BodyReading
import PageScript.Run

/-!
# The generated method and the run in process

The two ways to carry out a plan agree: the lines generated for it, read and run as a method body,
return what the run in process returns.
-/

namespace PageScript.CSharp.Source

section

variable {σ : Type} (host : Host σ)

/-! ## Running statements -/

theorem runNodes_cons {locals after : Locals} {state next : σ} {node : Node}
    (h : runNode host locals state node = some (.next after next)) (rest : List Node) :
    runNodes host locals state (node :: rest) = runNodes host after next rest := by
  rw [runNodes, h]

theorem runNodes_append {locals after : Locals} {state next : σ} {nodes : List Node}
    (h : runNodes host locals state nodes = some (.next after next)) (rest : List Node) :
    runNodes host locals state (nodes ++ rest) = runNodes host after next rest := by
  induction nodes generalizing locals state with
  | nil =>
    rw [runNodes] at h
    cases h
    rfl
  | cons node nodes ih =>
    rw [runNodes] at h
    rw [List.cons_append, runNodes]
    cases hn : runNode host locals state node with
    | none =>
      rw [hn] at h
      cases h
    | some flow =>
      rw [hn] at h
      cases flow with
      | next mid between => exact ih h
      | done value between => cases h

/-- The variables inside of a block: its lines so far, and the texts of the blocks before it. -/
def blockLocals (lines texts : List String) : Locals :=
  [(blockOutputs, .list lines), (outputs, .list texts)]

/-- The variables where a query has its account key. -/
def keyLocals (key : Option String) (lines texts : List String) : Locals :=
  ("accountKey", .text key) :: blockLocals lines texts

theorem runNode_addLine {locals : Locals} {lines : List String} {line : String} {state next : σ}
    {value : Term} (hl : locals.lookup blockOutputs = some (.list lines))
    (h : termText host locals state value = some (some line, next)) :
    runNode host locals state (.action (.add blockOutputs value)) =
      some (.next (locals.set blockOutputs (.list (lines ++ [line]))) next) := by
  rw [runNode, runAction, h]
  simp only [Option.bind_eq_bind, Option.bind_some, hl, Option.getD_some]

theorem termText_helperTerm {locals : Locals} {connection : Atom} {text : String}
    (h : argumentText host locals connection = some text) (query : Query) (state : σ) :
    termText host locals state (helperTerm connection query) =
      some (some (host.readFirst text query state).1, (host.readFirst text query state).2) := by
  have hc : labelledText host locals
      [⟨some "connectionString", connection⟩, ⟨some "databaseName", .text query.database⟩,
        ⟨some "containerName", .text query.container⟩, ⟨some "query", .text query.text⟩,
        ⟨some "partitionKey", .text query.partitionKey⟩] "connectionString" = some text := h
  rw [helperTerm, termText, if_pos rfl, helperCall, hc]
  rfl

theorem mapM_partText_chars (locals : Locals) (chars : List Char) :
    (chars.map Part.char).mapM (partText host locals) =
      some (chars.map fun c => String.ofList [c]) := by
  induction chars with
  | nil => rfl
  | cons c rest ih =>
    rw [List.map_cons, List.mapM_cons, ih]
    rfl

theorem join_characters (text : String) :
    String.join (text.toList.map fun c => String.ofList [c]) = text := by
  rw [← String.toList_inj, String.toList_join, List.flatMap_map]
  simp

theorem atomText_twoHoles {locals : Locals} {first second endpoint key : String} (front middle : String)
    (he : pathText host locals first = some (some endpoint))
    (hk : pathText host locals second = some (some key)) :
    atomText host locals (.interpolated (front.toList.map .char ++ [.hole first] ++
        middle.toList.map .char ++ [.hole second, .char ';'])) =
      some (some (front ++ endpoint ++ middle ++ key ++ ";")) := by
  have hole (name value : String) (h : pathText host locals name = some (some value)) :
      partText host locals (.hole name) = some value := by
    rw [partText, h]
    rfl
  have last : partText host locals (.char ';') = some ";" := rfl
  simp only [atomText, List.mapM_append, mapM_partText_chars, List.mapM_cons, List.mapM_nil,
    hole _ _ he, hole _ _ hk, last, Option.pure_def, Option.bind_eq_bind, Option.bind_some,
    Option.map_some, String.join_append, join_characters, String.join_cons, String.join_nil,
    String.append_assoc, String.append_empty]

theorem atomText_connectionParts {locals : Locals} {endpoint key : String}
    (he : pathText host locals "endpoint" = some (some endpoint))
    (hk : pathText host locals "accountKey" = some (some key)) :
    atomText host locals (.interpolated connectionParts) =
      some (some (Cosmos.connectionString endpoint key)) := by
  have start : "AccountEndpoint=" = Cosmos.Wire.endpointKey ++ "=" := rfl
  have middle : ";AccountKey=" = ";" ++ (Cosmos.Wire.accountKey ++ "=") := rfl
  refine (atomText_twoHoles host "AccountEndpoint=" ";AccountKey=" he hk).trans ?_
  rw [start, middle, Cosmos.connectionString]
  simp only [String.append_assoc]

theorem testHolds_keyBlank (key : Option String) (lines texts : List String) :
    testHolds host (keyLocals key lines texts) keyBlank = some (Text.absent key) := rfl

theorem testHolds_keyMarked (key : String) (lines texts : List String) :
    testHolds host (keyLocals (some key) lines texts) keyMarked =
      some ("=".toList.isPrefixOf key.toList) := rfl

/-! ## A query with its key from the environment -/

/-- The call, when there is a key: everything it declares is still in sight after it. -/
theorem runNodes_connectNodes (key endpoint : String) (lines texts : List String) (query : Query)
    (state : σ) :
    runNodes host (keyLocals (some key) lines texts) state (connectNodes endpoint query) =
      some (.next
        (("connectionString", .text (some (Cosmos.connectionString endpoint key))) ::
          ("endpoint", .text (some endpoint)) ::
          keyLocals (some key)
            (lines ++ [(host.readFirst (Cosmos.connectionString endpoint key) query state).1]) texts)
        (host.readFirst (Cosmos.connectionString endpoint key) query state).2) := by
  have declared : runNode host (keyLocals (some key) lines texts) state
      (.action (.declare "endpoint" (.atom (.text endpoint)))) =
        some (.next (("endpoint", .text (some endpoint)) :: keyLocals (some key) lines texts) state) :=
    rfl
  have connected : runNode host
      (("endpoint", .text (some endpoint)) :: keyLocals (some key) lines texts) state
      (.action (.declare "connectionString" (.atom (.interpolated connectionParts)))) =
        some (.next (("connectionString", .text (some (Cosmos.connectionString endpoint key))) ::
          ("endpoint", .text (some endpoint)) :: keyLocals (some key) lines texts) state) := by
    rw [runNode, runAction, termText, atomText_connectionParts host rfl rfl]
    rfl
  rw [connectNodes, runNodes_cons host declared, runNodes_cons host connected,
    runNodes_cons host (runNode_addLine host rfl (termText_helperTerm host rfl query state))]
  rfl

/-- Equals signs in front of the key are gone before the call. -/
theorem runNodes_marked (key : String) (lines texts : List String) (state : σ) (rest : List Node) :
    runNodes host (keyLocals (some key) lines texts) state
      (.when keyMarked [.action (.assign "accountKey"
        (.call false "accountKey.TrimStart" [⟨none, .char '='⟩]))] :: rest) =
      runNodes host (keyLocals (some (String.ofList (key.toList.dropWhile (· == '=')))) lines texts)
        state rest := by
  apply runNodes_cons
  rw [runNode, testHolds_keyMarked]
  cases hm : "=".toList.isPrefixOf key.toList with
  | true => rfl
  | false =>
    have same : key.toList.dropWhile (· == '=') = key.toList := by
      cases hk : key.toList with
      | nil => rfl
      | cons c rest =>
        rw [hk] at hm
        have hc : ¬(c == '=') = true := by
          intro he
          rw [beq_iff_eq] at he
          subst he
          cases hm
        exact List.dropWhile_cons_of_neg hc
    rw [same, String.ofList_toList]

/-- The expression for the secret of the build has, where it stands, the value of the variable that
stands in for that secret. -/
def SecretIs (settings : Settings) : Prop :=
  ∀ key lines texts state,
    termText host (keyLocals key lines texts) state (term settings.secretReference.toList) =
      some (host.environment settings.fallbackSecretEnv, state)

/-- The key after the two lookups: the variable of the query, or else the secret of the build. -/
def lookedUp (settings : Settings) (variableName : String) : Option String :=
  if Text.absent (host.environment variableName) then host.environment settings.fallbackSecretEnv
  else host.environment variableName

theorem accountKey?_eq (settings : Settings) (variableName : String) :
    accountKey? settings host.environment variableName =
      if Text.absent (lookedUp host settings variableName) then none
      else lookedUp host settings variableName := by
  have filled (name : String) : Environ.filled? host.environment name =
      if Text.absent (host.environment name) then none else host.environment name := by
    rw [Environ.filled?]
    cases host.environment name with
    | none => rfl
    | some value => cases hv : Text.allBlank value <;> simp [Option.filter, Text.absent, hv]
  rw [accountKey?, filled, filled, lookedUp]
  cases ha : Text.absent (host.environment variableName) with
  | true => rfl
  | false =>
    cases hv : host.environment variableName with
    | none =>
      rw [hv] at ha
      cases ha
    | some value =>
      rw [hv] at ha
      simp [ha]

variable {host}

theorem runNode_readNode {settings : Settings} (hs : SecretIs host settings)
    (variableName endpoint : String) (query : Query) (lines texts : List String) (state : σ) :
    runNode host (blockLocals lines texts) state (readNode settings variableName endpoint query) =
      match accountKey? settings host.environment variableName with
      | some key =>
        some (.next
          (blockLocals (lines ++ [(host.readFirst (connectionWith endpoint key) query state).1]) texts)
          (host.readFirst (connectionWith endpoint key) query state).2)
      | none => some (.next (blockLocals (lines ++ [Message.notSet variableName]) texts) state) := by
  have declared : runNode host (blockLocals lines texts) state (.action (.declare "accountKey"
      (.call false "Environment.GetEnvironmentVariable" [⟨none, .text variableName⟩]))) =
        some (.next (keyLocals (host.environment variableName) lines texts) state) := rfl
  have chosen : runNode host (keyLocals (host.environment variableName) lines texts) state
      (.when keyBlank [.action (.assign "accountKey" (term settings.secretReference.toList))]) =
        some (.next (keyLocals (lookedUp host settings variableName) lines texts) state) := by
    rw [runNode, testHolds_keyBlank, lookedUp]
    cases Text.absent (host.environment variableName) with
    | true =>
      rw [runNodes, runNode, runAction, hs]
      rfl
    | false => rfl
  rw [readNode, runNode, runNodes_cons host declared, runNodes_cons host chosen, runNodes, runNode,
    testHolds_keyBlank, accountKey?_eq]
  cases ha : Text.absent (lookedUp host settings variableName) with
  | true => rfl
  | false =>
    cases hk : lookedUp host settings variableName with
    | none =>
      rw [hk] at ha
      cases ha
    | some key =>
      simp only [runNodes_marked, runNodes_connectNodes]
      rfl

end

/-! ## Steps, blocks and plans -/

section

variable {σ τ : Type} {host : Host σ} {backend : Backend τ} {view : τ → σ} {settings : Settings}

/-- The reader of queries does what the helper routine does, on the part of its state that `view`
shows. A missing key may be noted, but not there. -/
structure Follows (backend : Backend τ) (host : Host σ) (view : τ → σ) : Prop where
  read : ∀ connection query state,
    host.readFirst connection query (view state) =
      ((backend.read connection query state).1, view (backend.read connection query state).2)
  keyMissing : ∀ variableName fallback state,
    view (backend.keyMissing variableName fallback state) = view state

theorem Follows.refl (host : Host σ) : Follows { read := host.readFirst } host id :=
  ⟨fun _ _ _ => rfl, fun _ _ _ => rfl⟩

/-- A step adds the same line to the lines of its block as it gives in process. -/
theorem runOperation_agrees {operation : Operation} (hf : Follows backend host view)
    (hs : SecretIs host settings) (h : operation.unsupported? = none) (state : τ) :
    ∃ line after,
      runOperation backend settings host.environment operation state = .ok (line, after) ∧
      ∀ lines texts,
        runNodes host (blockLocals lines texts) (view state) (operationNodes settings operation) =
          some (.next (blockLocals (lines ++ [line]) texts) (view after)) := by
  cases operation with
  | emitText text => exact ⟨text, state, rfl, fun _ _ => rfl⟩
  | readFirstItem connection query =>
    refine ⟨_, _, rfl, fun lines texts => ?_⟩
    have called := @termText_helperTerm _ host (blockLocals lines texts) (.text connection) connection
      rfl query (view state)
    rw [operationNodes, runNodes_cons host (runNode_addLine host rfl called), hf.read]
    rfl
  | readFirstItemFromEnv variableName endpoint query =>
    rw [runOperation]
    cases hk : accountKey? settings host.environment variableName with
    | some key =>
      refine ⟨_, _, rfl, fun lines texts => ?_⟩
      simp only [operationNodes, runNodes, runNode_readNode hs, hk, hf.read]
    | none =>
      refine ⟨_, _, rfl, fun lines texts => ?_⟩
      rw [operationNodes, runNodes, runNode_readNode hs, hk, hf.keyMissing]
      rfl
  | unsupported kind => cases h

theorem runOperations_agrees {operations : List Operation} (hf : Follows backend host view)
    (hs : SecretIs host settings) (h : operations.findSome? Operation.unsupported? = none)
    (state : τ) :
    ∃ lines after,
      runOperations backend settings host.environment operations state = .ok (lines, after) ∧
      ∀ before texts,
        runNodes host (blockLocals before texts) (view state)
            (operations.flatMap (operationNodes settings)) =
          some (.next (blockLocals (before ++ lines) texts) (view after)) := by
  induction operations generalizing state with
  | nil =>
    refine ⟨[], state, rfl, fun before texts => ?_⟩
    rw [List.append_nil]
    rfl
  | cons operation rest ih =>
    rw [List.findSome?_eq_none_iff, List.forall_mem_cons] at h
    obtain ⟨line, between, hstep, hnode⟩ := runOperation_agrees hf hs h.1 state
    obtain ⟨lines, after, hrest, hnodes⟩ := ih (List.findSome?_eq_none_iff.2 h.2) between
    refine ⟨line :: lines, after, ?_, fun before texts => ?_⟩
    · rw [runOperations_cons hstep, hrest]
      rfl
    · rw [List.flatMap_cons, runNodes_append host (hnode before texts), hnodes, List.append_assoc]
      rfl

/-- A block adds the text of its lines to the texts of the blocks before it. -/
theorem runBlocks_agrees {blocks : List BlockPlan} (hf : Follows backend host view)
    (hs : SecretIs host settings) (h : blocks.findSome? BlockPlan.unsupported? = none) (state : τ) :
    ∃ texts after,
      runBlocks backend settings host.environment host.newLine blocks state = .ok (texts, after) ∧
      ∀ before,
        runNodes host [(outputs, .list before)] (view state) (blocks.map (blockNode settings)) =
          some (.next [(outputs, .list (before ++ texts))] (view after)) := by
  induction blocks generalizing state with
  | nil =>
    refine ⟨[], state, rfl, fun before => ?_⟩
    rw [List.append_nil]
    rfl
  | cons block rest ih =>
    rw [List.findSome?_eq_none_iff, List.forall_mem_cons] at h
    obtain ⟨lines, between, hsteps, hnodes⟩ := runOperations_agrees hf hs h.1 state
    obtain ⟨texts, after, hrest, hblocks⟩ := ih (List.findSome?_eq_none_iff.2 h.2) between
    refine ⟨host.newLine.intercalate lines :: texts, after, ?_, fun before => ?_⟩
    · rw [runBlocks_cons hsteps, hrest]
      rfl
    · have hblock : runNode host [(outputs, .list before)] (view state) (blockNode settings block) =
          some (.next [(outputs, .list (before ++ [host.newLine.intercalate lines]))]
            (view between)) := by
        have opened : runNode host [(outputs, .list before)] (view state)
            (.action (.newList blockOutputs)) = some (.next (blockLocals [] before) (view state)) := rfl
        rw [blockNode, runNode, runNodes_cons host opened, runNodes_append host (hnodes [] before),
          List.nil_append]
        rfl
      rw [List.map_cons, runNodes_cons host hblock, hblocks, List.append_assoc]
      rfl

theorem runMethod_of_done {lines : List String} {nodes : List Node} {state after : σ}
    {value : Option String} (hb : body? lines = some nodes)
    (h : runNodes host [] state nodes = some (.done value after)) :
    runMethod host lines state = some (value, after) := by
  rw [runMethod, hb]
  show runNodes host [] state nodes >>= _ = _
  rw [h]
  rfl

theorem runMethod_lines {plan : Plan} (hf : Follows backend host view)
    (hs : SecretIs host settings) (h : plan.unsupported? = none) (state : τ) :
    ∃ lines text after, bodyLines settings plan = .ok lines ∧
      runPlan backend settings host.environment host.newLine plan state = .ok (text, after) ∧
      runMethod host lines (view state) = some (some text, view after) := by
  obtain ⟨lines, hl, hb⟩ := body?_bodyLines settings h
  obtain ⟨texts, after, hr, hnodes⟩ := runBlocks_agrees hf hs h state
  refine ⟨lines, _, after, hl, by rw [runPlan, hr]; rfl, ?_⟩
  have opened : runNode host [] (view state) (.action (.newList outputs)) =
      some (.next [(outputs, .list [])] (view state)) := rfl
  refine runMethod_of_done hb ?_
  rw [planNodes, runNodes_cons host opened, runNodes_append host (hnodes []), List.nil_append]
  cases texts with
  | nil => rfl
  | cons text rest => rfl

/-! ## Steps that cannot be carried out -/

theorem runOperations_error {operations : List Operation} {kind : String}
    (hf : Follows backend host view) (hs : SecretIs host settings)
    (h : operations.findSome? Operation.unsupported? = some kind) (state : τ) :
    runOperations backend settings host.environment operations state =
      .error (unsupportedReport kind) := by
  induction operations generalizing state with
  | nil => cases h
  | cons operation rest ih =>
    rw [List.findSome?_cons] at h
    cases ho : operation.unsupported? with
    | some found =>
      rw [ho] at h
      cases h
      cases operation with
      | unsupported kind =>
        cases ho
        rfl
      | _ => cases ho
    | none =>
      rw [ho] at h
      obtain ⟨line, after, hok, -⟩ := runOperation_agrees hf hs ho state
      rw [runOperations_cons hok, ih h]
      rfl

theorem runBlocks_error {blocks : List BlockPlan} {kind : String} (hf : Follows backend host view)
    (hs : SecretIs host settings) (h : blocks.findSome? BlockPlan.unsupported? = some kind)
    (state : τ) :
    runBlocks backend settings host.environment host.newLine blocks state =
      .error (unsupportedReport kind) := by
  induction blocks generalizing state with
  | nil => cases h
  | cons block rest ih =>
    rw [List.findSome?_cons] at h
    cases hb : block.unsupported? with
    | some found =>
      rw [hb] at h
      cases h
      rw [runBlocks, runOperations_error hf hs hb]
      rfl
    | none =>
      rw [hb] at h
      obtain ⟨lines, after, hok, -⟩ := runOperations_agrees hf hs hb state
      rw [runBlocks_cons hok, ih h]
      rfl

/-! ## The two ways agree -/

/-- A plan is printed unless one of its steps cannot be carried out. The printed method returns what
the run in process returns and leaves the same state behind, so it calls the helper routine as often,
in the same order and with the same arguments. A plan that is not printed does not run in process
either, and both report the first of those steps. -/
theorem runMethod_bodyLines_eq_runPlan {σ τ : Type} {host : Host σ} {backend : Backend τ}
    {view : τ → σ} {settings : Settings} (hf : Follows backend host view)
    (hs : SecretIs host settings) (plan : Plan) (state : τ) :
    (plan.unsupported? = none →
      ∃ lines text after, bodyLines settings plan = .ok lines ∧
        runPlan backend settings host.environment host.newLine plan state = .ok (text, after) ∧
        runMethod host lines (view state) = some (some text, view after)) ∧
    ∀ kind, plan.unsupported? = some kind →
      bodyLines settings plan = .error (unsupportedReport kind) ∧
        runPlan backend settings host.environment host.newLine plan state =
          .error (unsupportedReport kind) := by
  constructor
  · intro h
    exact runMethod_lines hf hs h state
  · intro kind h
    refine ⟨bodyLines_error settings h, ?_⟩
    rw [runPlan, runBlocks_error hf hs h]
    rfl

/-- A machine whose environment holds one key, on which the helper routine writes down its calls. -/
def recorder : Host (List (String × Query)) where
  environment name := if name = "COSMOS_KEY" then some "==a\"b" else none
  newLine := "\r\n"
  outer _ := none
  readFirst connection query calls := ("item", calls ++ [(connection, query)])

/-- Two blocks: a text with a quote, and a query whose account key comes from the environment. -/
def quotedPlan : Plan where
  sourceName := "page"
  blocks :=
    [⟨0, [.emitText "say \"hi\"\\"]⟩,
      ⟨1, [.readFirstItemFromEnv "COSMOS_KEY" "https://h/" { database := "d", container := "c", text := "" }]⟩]

theorem runMethod_bodyLines_quotedPlan :
    Follows { read := recorder.readFirst } recorder id ∧ SecretIs recorder {} ∧
      quotedPlan.unsupported? = none ∧
      ∃ lines, bodyLines {} quotedPlan = .ok lines ∧
        runMethod recorder lines [] =
          some (some "say \"hi\"\\\r\nitem",
            [("AccountEndpoint=https://h/;AccountKey=a\"b;",
              { database := "d", container := "c", text := "" })]) := by
  have secret : SecretIs recorder {} := fun _ _ _ _ => rfl
  refine ⟨Follows.refl recorder, secret, rfl, ?_⟩
  obtain ⟨lines, text, after, hl, hp, hm⟩ :=
    (runMethod_bodyLines_eq_runPlan (Follows.refl recorder) secret quotedPlan []).1 rfl
  refine ⟨lines, hl, ?_⟩
  cases hp
  exact hm

end

end PageScript.CSharp.Source
