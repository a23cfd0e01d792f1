import Mathlib.Data.List.Forall2
import PageScript.Found
import PageScript.Run

/-!
# Runs of a plan

A plan is carried out step by step. Every step gives one line, whatever goes wrong on the way, and sends
at most one request, which gets the next answer (`Performs`); so a plan whose steps can all be carried
out gives its output, with its requests in the order of its steps (`Advances`).

What was sent and noted before a step has no bearing on it. This makes a run of two plans in a row the
same as a run of both as one, the second on the answers that the first has left.
-/

namespace PageScript.Cosmos

/-! ## Requests and their answers -/

/-- The first `count` answers to come. -/
def Answers.take (answers : Answers) : Nat → List Answer
  | 0 => []
  | count + 1 => answers.next :: answers.rest.take count

/-- The answers to come behind the first `count`. -/
def Answers.drop (answers : Answers) : Nat → Answers
  | 0 => answers
  | count + 1 => answers.rest.drop count

theorem Answers.take_add (answers : Answers) (m n : Nat) :
    answers.take (m + n) = answers.take m ++ (answers.drop m).take n := by
  induction m generalizing answers with
  | zero =>
    rw [Nat.zero_add]
    rfl
  | succ m ih =>
    rw [Nat.succ_add, take, ih, take, drop, List.cons_append]

theorem Answers.drop_add (answers : Answers) (m n : Nat) :
    answers.drop (m + n) = (answers.drop m).drop n := by
  induction m generalizing answers with
  | zero =>
    rw [Nat.zero_add]
    rfl
  | succ m ih => rw [Nat.succ_add, drop, ih, drop]

/-- A request that was sent, and the answer it got. -/
structure Exchange where
  request : Request
  answer : Answer

/-- The session has sent the requests in order, each got the next answer, and the others are left. -/
structure Advances (session : Session) (exchanges : List Exchange) (after : Session) : Prop where
  sent : after.sent = session.sent ++ exchanges.map (·.request)
  used : exchanges.map (·.answer) = session.answers.take exchanges.length
  left : after.answers = session.answers.drop exchanges.length

theorem Advances.none {session after : Session} (hsent : after.sent = session.sent)
    (hanswers : after.answers = session.answers) : Advances session [] after where
  sent := by rw [hsent, List.map_nil, List.append_nil]
  used := rfl
  left := hanswers

theorem Advances.append {session mid after : Session} {exchanges more : List Exchange}
    (h : Advances session exchanges mid) (hm : Advances mid more after) :
    Advances session (exchanges ++ more) after where
  sent := by rw [hm.sent, h.sent, List.map_append, List.append_assoc]
  used := by rw [List.map_append, List.length_append, Answers.take_add, h.used, hm.used, h.left]
  left := by rw [hm.left, h.left, List.length_append, Answers.drop_add]

/-! ## One query -/

/-- What a step of a run did: the line it gave, and the request it sent, if it sent one. -/
structure Step where
  line : String
  exchange : Option Exchange

/-- The line of a query, whatever it has come to. -/
def lineOf : Except QueryFault String → String
  | .ok line => line
  | .error fault => fault.line

theorem Session.conclude_eq (session : Session) (outcome : Except QueryFault String) :
    ∃ after, session.conclude outcome = (lineOf outcome, after) ∧ after.sent = session.sent ∧
      after.answers = session.answers := by
  cases outcome with
  | ok line => exact ⟨session, rfl, rfl, rfl⟩
  | error fault => exact ⟨_, rfl, rfl, rfl⟩

/-- What asking a query can do. -/
inductive Asked (moment : Calendar.Moment) (text : String) (query : Query) : Step → Prop where
  /-- The connection string cannot be read. -/
  | unconnected (h : Connection.ofText? text = none) :
      Asked moment text query ⟨Wire.invalidConnectionString, none⟩
  /-- The request cannot be made. -/
  | unsent {connection : Connection} {fault : QueryFault}
      (hc : Connection.ofText? text = some connection)
      (h : Session.requestFor moment connection query = .error fault) :
      Asked moment text query ⟨fault.line, none⟩
  /-- The request is sent and answered. -/
  | sent {connection : Connection} {request : Request}
      (hc : Connection.ofText? text = some connection)
      (h : Session.requestFor moment connection query = .ok request) (answer : Answer) :
      Asked moment text query
        ⟨lineOf (answer.line request.address), some ⟨request.withCredentials, answer⟩⟩

theorem Session.readFirstItem_asked (moment : Calendar.Moment) (text : String) (query : Query)
    (session : Session) :
    ∃ step after, readFirstItem moment text query session = (step.line, after) ∧
      Asked moment text query step ∧ Advances session step.exchange.toList after := by
  rw [readFirstItem]
  cases hc : Connection.ofText? text with
  | none => exact ⟨_, session, rfl, .unconnected hc, .none rfl rfl⟩
  | some connection =>
    simp only
    cases hr : requestFor moment connection query with
    | error fault =>
      obtain ⟨after, he, hs, ha⟩ := session.conclude_eq (.error fault)
      exact ⟨_, after, he, .unsent hc hr, .none hs ha⟩
    | ok request =>
      obtain ⟨after, he, hs, ha⟩ :=
        ((session.note (.requestSent request.address)).send request).2.conclude_eq
          (session.answers.next.line request.address)
      refine ⟨_, after, ?_, .sent hc hr session.answers.next, ⟨hs, rfl, ha⟩⟩
      exact he

/-! ## Steps behind others -/

/-- The session as it is if all that `earlier` has sent and noted came before. -/
def Session.behind (earlier session : Session) : Session where
  answers := session.answers
  sent := earlier.sent ++ session.sent
  notes := earlier.notes ++ session.notes

theorem Session.behind_fresh (earlier : Session) :
    earlier.behind { answers := earlier.answers } = earlier := by
  rw [behind, List.append_nil, List.append_nil]

theorem Session.note_behind (earlier session : Session) (note : Note) :
    (earlier.behind session).note note = earlier.behind (session.note note) := by
  rw [Session.note, Session.note, behind, behind, List.append_assoc]

theorem Session.send_behind (earlier session : Session) (request : Request) :
    (earlier.behind session).send request =
      ((session.send request).1, earlier.behind (session.send request).2) := by
  rw [send, send, behind, behind, List.append_assoc]

theorem Session.conclude_behind (earlier session : Session) (outcome : Except QueryFault String) :
    (earlier.behind session).conclude outcome =
      ((session.conclude outcome).1, earlier.behind (session.conclude outcome).2) := by
  cases outcome with
  | ok line => rfl
  | error fault => rw [conclude, conclude, note_behind]

theorem Session.readFirstItem_behind (moment : Calendar.Moment) (text : String) (query : Query)
    (earlier session : Session) :
    readFirstItem moment text query (earlier.behind session) =
      ((readFirstItem moment text query session).1,
        earlier.behind (readFirstItem moment text query session).2) := by
  rw [readFirstItem, readFirstItem]
  cases Connection.ofText? text with
  | none => rfl
  | some connection =>
    simp only
    cases requestFor moment connection query with
    | error fault => exact conclude_behind earlier session _
    | ok request =>
      simp only [note_behind, send_behind]
      exact conclude_behind earlier _ _

end PageScript.Cosmos

namespace PageScript

open Cosmos (Session Step Exchange Advances Asked)

/-! ## Steps of a plan -/

/-- What a step of a plan can do. -/
inductive Performs (moment : Calendar.Moment) (settings : Settings) (environ : Environ) :
    Operation → Step → Prop where
  | emit (text : String) : Performs moment settings environ (.emitText text) ⟨text, none⟩
  /-- There is no account key. -/
  | keyless {variableName endpoint : String} {query : Query}
      (h : accountKey? settings environ variableName = none) :
      Performs moment settings environ (.readFirstItemFromEnv variableName endpoint query)
        ⟨Message.notSet variableName, none⟩
  | read {connection : String} {query : Query} {step : Step} (h : Asked moment connection query step) :
      Performs moment settings environ (.readFirstItem connection query) step
  | readWithKey {variableName endpoint key : String} {query : Query} {step : Step}
      (hk : accountKey? settings environ variableName = some key)
      (h : Asked moment (connectionWith endpoint key) query step) :
      Performs moment settings environ (.readFirstItemFromEnv variableName endpoint query) step

section

variable {moment : Calendar.Moment} {settings : Settings} {environ : Environ} {lineEnd : String}

theorem backend_read (moment : Calendar.Moment) :
    (Session.backend moment).read = Session.readFirstItem moment := rfl

/-- One step gives its line, whatever happens. -/
theorem runOperation_performs {operation : Operation} (h : operation.unsupported? = none)
    (session : Session) :
    ∃ step after,
      runOperation (Session.backend moment) settings environ operation session =
        .ok (step.line, after) ∧
      Performs moment settings environ operation step ∧
      Advances session step.exchange.toList after := by
  cases operation with
  | emitText text => exact ⟨⟨text, none⟩, session, rfl, .emit text, .none rfl rfl⟩
  | readFirstItem connection query =>
    obtain ⟨step, after, he, ha, hs⟩ := session.readFirstItem_asked moment connection query
    refine ⟨step, after, ?_, .read ha, hs⟩
    rw [runOperation, backend_read, he]
  | readFirstItemFromEnv variableName endpoint query =>
    rw [runOperation]
    cases hk : accountKey? settings environ variableName with
    | none =>
      refine ⟨⟨Message.notSet variableName, none⟩,
        session.note (.keyMissing variableName settings.fallbackSecretEnv), ?_, .keyless hk,
        .none rfl rfl⟩
      rfl
    | some key =>
      obtain ⟨step, after, he, ha, hs⟩ :=
        session.readFirstItem_asked moment (connectionWith endpoint key) query
      refine ⟨step, after, ?_, .readWithKey hk ha, hs⟩
      simp only [backend_read, he]
  | unsupported kind => cases h

/-- What the steps have sent, in order. -/
def exchangesOf (steps : List Step) : List Exchange := steps.flatMap (·.exchange.toList)

theorem runOperations_performs {operations : List Operation}
    (h : ∀ operation ∈ operations, operation.unsupported? = none) (session : Session) :
    ∃ steps after,
      runOperations (Session.backend moment) settings environ operations session =
        .ok (steps.map (·.line), after) ∧
      List.Forall₂ (Performs moment settings environ) operations steps ∧
      Advances session (exchangesOf steps) after := by
  induction operations generalizing session with
  | nil => exact ⟨[], session, rfl, .nil, .none rfl rfl⟩
  | cons operation rest ih =>
    rw [List.forall_mem_cons] at h
    obtain ⟨step, mid, hstep, hp, ha⟩ := runOperation_performs h.1 session
    obtain ⟨steps, after, hsteps, hps, has⟩ := ih h.2 mid
    refine ⟨step :: steps, after, ?_, .cons hp hps, ?_⟩
    · rw [runOperations_cons hstep, hsteps]
      rfl
    · rw [exchangesOf, List.flatMap_cons]
      exact ha.append has

/-- The text of a block whose steps are these. -/
def blockText (lineEnd : String) (steps : List Step) : String :=
  lineEnd.intercalate (steps.map (·.line))

theorem runBlocks_performs {blocks : List BlockPlan}
    (h : ∀ block ∈ blocks, block.unsupported? = none) (session : Session) :
    ∃ runs after,
      runBlocks (Session.backend moment) settings environ lineEnd blocks session =
        .ok (runs.map (blockText lineEnd), after) ∧
      List.Forall₂ (fun block => List.Forall₂ (Performs moment settings environ) block.operations)
        blocks runs ∧
      Advances session (exchangesOf runs.flatten) after := by
  induction blocks generalizing session with
  | nil => exact ⟨[], session, rfl, .nil, .none rfl rfl⟩
  | cons block rest ih =>
    rw [List.forall_mem_cons] at h
    obtain ⟨steps, mid, hsteps, hp, ha⟩ :=
      runOperations_performs (List.findSome?_eq_none_iff.1 h.1) session
    obtain ⟨runs, after, hruns, hps, has⟩ := ih h.2 mid
    refine ⟨steps :: runs, after, ?_, .cons hp hps, ?_⟩
    · rw [runBlocks_cons hsteps, hruns]
      rfl
    · rw [List.flatten_cons, exchangesOf, List.flatMap_append]
      exact ha.append has

end

/-! ## Plans in a row -/

section

variable {σ : Type} {backend : Backend σ} {settings : Settings} {environ : Environ} {lineEnd : String}
  {f : σ → σ}

/-- What `f` does to the state makes no difference to the queries. -/
structure Backend.Respects (backend : Backend σ) (f : σ → σ) : Prop where
  read : ∀ connection query state, backend.read connection query (f state) =
    ((backend.read connection query state).1, f (backend.read connection query state).2)
  keyMissing : ∀ variableName fallback state, backend.keyMissing variableName fallback (f state) =
    f (backend.keyMissing variableName fallback state)

theorem respects_behind (moment : Calendar.Moment) (earlier : Session) :
    (Session.backend moment).Respects earlier.behind where
  read connection query session := Session.readFirstItem_behind moment connection query earlier session
  keyMissing _ _ session := earlier.note_behind session _

theorem Backend.Respects.runOperation_eq (h : backend.Respects f) (operation : Operation) (state : σ) :
    runOperation backend settings environ operation (f state) =
      (runOperation backend settings environ operation state).map fun out => (out.1, f out.2) := by
  cases operation with
  | emitText text => rfl
  | readFirstItem connection query =>
    rw [runOperation, h.read]
    rfl
  | readFirstItemFromEnv variableName endpoint query =>
    rw [runOperation, runOperation, h.keyMissing]
    cases accountKey? settings environ variableName with
    | none => rfl
    | some key =>
      show Except.ok (backend.read (connectionWith endpoint key) query (f state)) = _
      rw [h.read]
      rfl
  | unsupported kind => rfl

theorem Backend.Respects.runOperations_eq (h : backend.Respects f) (operations : List Operation)
    (state : σ) :
    runOperations backend settings environ operations (f state) =
      (runOperations backend settings environ operations state).map fun out => (out.1, f out.2) := by
  induction operations generalizing state with
  | nil => rfl
  | cons operation rest ih =>
    rw [runOperations, runOperations, h.runOperation_eq]
    cases runOperation backend settings environ operation state with
    | error report => rfl
    | ok out =>
      show runOperations backend settings environ rest (f out.2) >>= _ =
        (runOperations backend settings environ rest out.2 >>= _).map _
      rw [ih]
      cases runOperations backend settings environ rest out.2 <;> rfl

theorem Backend.Respects.runBlocks_eq (h : backend.Respects f) (blocks : List BlockPlan) (state : σ) :
    runBlocks backend settings environ lineEnd blocks (f state) =
      (runBlocks backend settings environ lineEnd blocks state).map fun out => (out.1, f out.2) := by
  induction blocks generalizing state with
  | nil => rfl
  | cons block rest ih =>
    rw [runBlocks, runBlocks, h.runOperations_eq]
    cases runOperations backend settings environ block.operations state with
    | error report => rfl
    | ok out =>
      show runBlocks backend settings environ lineEnd rest (f out.2) >>= _ =
        (runBlocks backend settings environ lineEnd rest out.2 >>= _).map _
      rw [ih]
      cases runBlocks backend settings environ lineEnd rest out.2 <;> rfl

theorem runBlocks_append {first : List BlockPlan} {texts : List String} {state mid : σ}
    (h : runBlocks backend settings environ lineEnd first state = .ok (texts, mid))
    (second : List BlockPlan) :
    runBlocks backend settings environ lineEnd (first ++ second) state =
      (runBlocks backend settings environ lineEnd second mid).map fun out =>
        (texts ++ out.1, out.2) := by
  induction first generalizing texts state with
  | nil =>
    cases h
    rw [List.nil_append]
    cases runBlocks backend settings environ lineEnd second mid <;> rfl
  | cons block rest ih =>
    rw [runBlocks] at h
    obtain ⟨⟨lines, between⟩, hb, h⟩ := ok_of_bind h
    obtain ⟨⟨more, last⟩, hr, h⟩ := ok_of_bind h
    cases h
    rw [List.cons_append, runBlocks_cons hb, ih hr]
    cases runBlocks backend settings environ lineEnd second mid <;> rfl

end

theorem runPlan_of_runBlocks {σ : Type} {backend : Backend σ} {settings : Settings}
    {environ : Environ} {lineEnd : String} {plan : Plan} {texts : List String} {state after : σ}
    (h : runBlocks backend settings environ lineEnd plan.blocks state = .ok (texts, after)) :
    runPlan backend settings environ lineEnd plan state =
      .ok (if texts.isEmpty then settings.noOutputMessage else lineEnd.intercalate texts, after) := by
  rw [runPlan, h]
  rfl

theorem runPlan_joined {σ : Type} {backend : Backend σ} {settings : Settings} {environ : Environ}
    {lineEnd : String} {plan : Plan} {texts : List String} {state after : σ}
    (h : runBlocks backend settings environ lineEnd plan.blocks state = .ok (texts, after))
    (hne : texts ≠ []) :
    runPlan backend settings environ lineEnd plan state = .ok (lineEnd.intercalate texts, after) := by
  rw [runPlan_of_runBlocks h, if_neg (by rwa [List.isEmpty_iff])]

theorem isEmpty_texts {R : BlockPlan → List Step → Prop} {blocks : List BlockPlan}
    {runs : List (List Step)} (h : List.Forall₂ R blocks runs) (lineEnd : String) :
    (runs.map (blockText lineEnd)).isEmpty = blocks.isEmpty := by
  cases h <;> rfl

/-- A plan whose steps can all be carried out gives its output: its steps are performed in order, and
their requests get the answers in order. Two such plans in a row, the second on the answers that the
first has left, give what their blocks give as one plan, and send the same requests. -/
theorem runPlan_sequential (moment : Calendar.Moment) (settings : Settings) (environ : Environ)
    (lineEnd : String) :
    (∀ plan : Plan, plan.unsupported? = none → ∀ session : Session, ∃ runs after,
      runPlan (Session.backend moment) settings environ lineEnd plan session =
        .ok (if plan.blocks.isEmpty then settings.noOutputMessage
          else lineEnd.intercalate (runs.map (blockText lineEnd)), after) ∧
      List.Forall₂ (fun block => List.Forall₂ (Performs moment settings environ) block.operations)
        plan.blocks runs ∧
      Advances session (exchangesOf runs.flatten) after) ∧
    ∀ first second whole : Plan, first.unsupported? = none → second.unsupported? = none →
      first.blocks ≠ [] → second.blocks ≠ [] → whole.blocks = first.blocks ++ second.blocks →
      ∀ answers : Cosmos.Answers, ∃ text mid more last,
        runPlan (Session.backend moment) settings environ lineEnd first { answers } =
          .ok (text, mid) ∧
        runPlan (Session.backend moment) settings environ lineEnd second { answers := mid.answers } =
          .ok (more, last) ∧
        runPlan (Session.backend moment) settings environ lineEnd whole { answers } =
          .ok (text ++ lineEnd ++ more,
            { answers := last.answers
              sent := mid.sent ++ last.sent
              notes := mid.notes ++ last.notes }) := by
  constructor
  · intro plan h session
    obtain ⟨runs, after, hruns, hp, ha⟩ :=
      runBlocks_performs (List.findSome?_eq_none_iff.1 h) session
    refine ⟨runs, after, ?_, hp, ha⟩
    rw [runPlan_of_runBlocks hruns, isEmpty_texts hp]
  · intro first second whole hfirst hsecond hne hmore hwhole answers
    obtain ⟨runs, mid, hruns, hp, -⟩ :=
      runBlocks_performs (List.findSome?_eq_none_iff.1 hfirst) { answers }
    obtain ⟨others, last, hothers, hq, -⟩ :=
      runBlocks_performs (List.findSome?_eq_none_iff.1 hsecond) { answers := mid.answers }
    have resumed : runBlocks (Session.backend moment) settings environ lineEnd second.blocks mid =
        .ok (others.map (blockText lineEnd), mid.behind last) := by
      rw [← mid.behind_fresh, (respects_behind moment mid).runBlocks_eq, hothers, mid.behind_fresh]
      rfl
    have hboth : runBlocks (Session.backend moment) settings environ lineEnd whole.blocks { answers } =
        .ok (runs.map (blockText lineEnd) ++ others.map (blockText lineEnd), mid.behind last) := by
      rw [hwhole, runBlocks_append hruns, resumed]
      rfl
    have htexts : runs.map (blockText lineEnd) ≠ [] := by
      rwa [ne_eq, ← List.isEmpty_iff, isEmpty_texts hp, List.isEmpty_iff]
    have hrest : others.map (blockText lineEnd) ≠ [] := by
      rwa [ne_eq, ← List.isEmpty_iff, isEmpty_texts hq, List.isEmpty_iff]
    refine ⟨_, mid, _, last, runPlan_joined hruns htexts, runPlan_joined hothers hrest, ?_⟩
    rw [runPlan_joined hboth (List.append_ne_nil_of_left_ne_nil htexts _),
      String.intercalate_append_of_ne_nil htexts hrest]
    rfl

/-- A plan that writes a text and asks a query. -/
def askingPlan : Plan where
  sourceName := "page"
  blocks := [⟨0, [.emitText "a",
    .readFirstItem "AccountEndpoint=https://h/;AccountKey=AA==;" ⟨"d", "c", "q", ""⟩]⟩]

/-- A plan without the account key of its first query. -/
def keylessPlan : Plan where
  sourceName := "page"
  blocks := [⟨1, [.readFirstItemFromEnv "K" "https://h/" ⟨"d", "c", "q", ""⟩,
    .readFirstItem "AccountKey=;" ⟨"d", "c", "q", ""⟩]⟩]

def newYear : Calendar.Moment where
  year := 2024
  month := 1
  day := 1
  hour := 0
  minute := 0
  second := 0

theorem runPlan_sequential_askingPlan :
    askingPlan.unsupported? = none ∧ keylessPlan.unsupported? = none ∧ ∃ mid more last,
      runPlan (Session.backend newYear) {} (fun _ => none) "\r\n" askingPlan
          { answers := { next := .failure "timeout" } } =
        .ok ("a\r\nFailed to read Cosmos DB item via REST: timeout", mid) ∧
      mid.sent.length = 1 ∧
      runPlan (Session.backend newYear) {} (fun _ => none) "\r\n" keylessPlan
          { answers := mid.answers } =
        .ok (more, last) ∧
      runPlan (Session.backend newYear) {} (fun _ => none) "\r\n"
          ⟨"page", askingPlan.blocks ++ keylessPlan.blocks⟩
          { answers := { next := .failure "timeout" } } =
        .ok ("a\r\nFailed to read Cosmos DB item via REST: timeout" ++ "\r\n" ++ more,
          { answers := last.answers
            sent := mid.sent ++ last.sent
            notes := mid.notes ++ last.notes }) := by
  refine ⟨rfl, rfl, ?_⟩
  obtain ⟨text, mid, more, last, hfirst, hsecond, hboth⟩ :=
    (runPlan_sequential newYear {} (fun _ => none) "\r\n").2 askingPlan keylessPlan
      ⟨"page", askingPlan.blocks ++ keylessPlan.blocks⟩ rfl rfl (List.cons_ne_nil _ _)
      (List.cons_ne_nil _ _) rfl { next := .failure "timeout" }
  have run : (runPlan (Session.backend newYear) {} (fun _ => none) "\r\n" askingPlan
      { answers := { next := .failure "timeout" } }).toOption.map
        (fun out => (out.1, out.2.sent.length)) =
      some ("a\r\nFailed to read Cosmos DB item via REST: timeout", 1) := by
    decide +kernel
  rw [hfirst] at run
  obtain ⟨rfl, hsent⟩ := Prod.mk.inj (Option.some.inj run)
  exact ⟨mid, more, last, hfirst, hsent, hsecond, hboth⟩

end PageScript
