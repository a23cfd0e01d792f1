import PageScript.Proofs.Script.Layout
import PageScript.Proofs.Script.Locality

/-!
# Two scripts in one

Two scripts with a line between them that holds a semicolon are read as the first one and then the
second, if the first is read without complaint and does not end in a backtick or a carriage return. A
statement of the first script may look for more to come: a clause behind a block, a command behind a
chain operator. It looks over the line feed and finds the semicolon, so at most the line feed is taken
(`Follows`).
-/

namespace PageScript.Script

/-! ## The end of a statement -/

/-- The rest of a script, and the rest when the script goes on with a line that starts with a semicolon.
At the end the line feed may have been passed over. -/
def Follows (more rest later : List Char) : Prop :=
  later = rest ++ '\n' :: ';' :: more ∨ rest = [] ∧ later = ';' :: more

/-- The same text behind blanks, of which the line feed is one. -/
def pastLine (more : List Char) : List Char → List Char
  | [] => ';' :: more
  | c :: rest => c :: rest ++ '\n' :: ';' :: more

/-- The same find, with the rest of a statement behind it. -/
structure Joins {α : Type} (moved : α → α) (more : List Char) {text : List Char}
    (found : Found α text) (later : Found α (text ++ '\n' :: ';' :: more)) : Prop where
  value : later.value = moved found.value
  rest : Follows more found.rest later.rest

/-- The same statement. -/
abbrev SameStatement (more : List Char) {text : List Char} (found : Found Statement text)
    (later : Found Statement (text ++ '\n' :: ';' :: more)) : Prop :=
  Joins (Statement.moved ('\n' :: ';' :: more).length) more found later

theorem trimEndOf_lineFeed (text : List Char) :
    Text.trimEndOf Text.isBlank (text ++ ['\n']) = Text.trimEndOf Text.isBlank text := by
  rw [Text.trimEndOf, List.reverse_append, List.reverse_singleton, List.singleton_append,
    List.dropWhile_cons_of_pos rfl, Text.trimEndOf]

section

variable {more : List Char}

/-- The line feed that a statement may end with is no part of its text. -/
theorem trimmed_follows (text : List Char) {rest later : List Char} (h : Follows more rest later) :
    Extent.trimmed (text ++ '\n' :: ';' :: more) later =
      (Extent.trimmed text rest).moved ('\n' :: ';' :: more).length := by
  rcases h with rfl | ⟨rfl, rfl⟩
  · exact trimmed_append text rest _
  · have hsplit : text ++ '\n' :: ';' :: more = text ++ ['\n'] ++ ';' :: more := by
      rw [List.append_assoc, List.singleton_append]
    have htake : (text ++ '\n' :: ';' :: more).take
        ((text ++ '\n' :: ';' :: more).length - (';' :: more).length) = text ++ ['\n'] := by
      rw [hsplit, List.length_append, Nat.add_sub_cancel, List.take_left]
    rw [Extent.trimmed, htake, trimEndOf_lineFeed, Extent.trimmed, List.length_nil, Nat.sub_zero,
      List.take_length, List.length_append]
    rfl

theorem skipInline_separator (more : List Char) : skipInline (';' :: more) = .ok (';' :: more) :=
  skipInline_stays rfl (by decide) (fun _ h => absurd h (by decide)) (fun _ h => absurd h (by decide))

theorem skipBlanks_separator (more : List Char) : skipBlanks (';' :: more) = .ok (';' :: more) :=
  skipBlanks_stays (skipInline_separator more) fun _ h => absurd (List.cons.inj h).1 (by decide)

theorem skipBlanks_joined {text rest : List Char} (he : Ended text) (h : skipBlanks text = .ok rest) :
    skipBlanks (text ++ '\n' :: ';' :: more) = .ok (pastLine more rest) := by
  cases rest with
  | nil => rw [skipBlanks_lineFeed_nil _ he h, skipBlanks_separator, pastLine]
  | cons c t => exact skipBlanks_lineFeed_cons _ he h

/-! ## Statements -/

theorem startsClause_pastLine (more rest : List Char) :
    startsClause (pastLine more rest) = startsClause rest := by
  cases rest with
  | nil =>
    have hword : foldedWord (';' :: more) = foldedWord [] := by
      rw [foldedWord, List.takeWhile_cons_of_neg (by decide +kernel), foldedWord, List.takeWhile_nil]
    rw [pastLine, startsClause, hword, startsClause]
    rfl
  | cons c t => exact startsClause_lineFeed (c :: t) _

theorem clausesRest_carries {c : Char} {t : List Char} (he : Ended (c :: t)) :
    Carries (fun a b => b.val = a.val ++ '\n' :: ';' :: more) (clausesRest (c :: t))
      (clausesRest (c :: t ++ '\n' :: ';' :: more)) := by
  induction hn : (c :: t).length using Nat.strongRecOn generalizing c t with
  | ind n ih =>
    subst hn
    rw [List.cons_append, clausesRest, clausesRest]
    refine Carries.bind_checked (fun _ h => rawBehind_lineFeed stopsLine_endsStatement he h _)
      fun stop hs _ => ?_
    have hstop := he.tail.suffix (rawBehind_suffix hs)
    refine Carries.bind_checked (fun _ h => skipBlanks_joined hstop h) fun next hb _ => ?_
    dsimp only
    rw [startsClause_pastLine]
    split
    · rename_i hclause
      cases next with
      | nil => exact absurd hclause (by decide)
      | cons d r =>
        have hnext := hstop.suffix (skipBlanks_suffix hb)
        have hlength : (d :: r).length < (c :: t).length :=
          Nat.lt_succ_of_le ((skipBlanks_suffix hb).trans (rawBehind_suffix hs)).length_le
        exact Carries.bind (ih _ hlength hnext rfl) fun _ _ hr => .ok hr
    · exact .ok rfl

theorem keywordStatement_carries {c : Char} {t : List Char} (he : Ended (c :: t)) :
    Carries (SameStatement more) (keywordStatement c t)
      (keywordStatement c (t ++ '\n' :: ';' :: more)) := by
  refine Carries.bind (clausesRest_carries he) fun rest later hr => .ok ⟨?_, .inl hr⟩
  have hextent := trimmed_follows (c :: t) (.inl hr)
  exact congrArg (Statement.other · _) hextent

/-- The same part of a pipeline. -/
def Stage.moved (k : Nat) : Stage → Stage
  | .command c => .command (c.moved k)
  | .other => .other

theorem invocation_carries {c : Char} {t : List Char} (u : List Char) (he : Ended (c :: t)) :
    Carries (Extends (Stage.moved ('\n' :: u).length) ('\n' :: u)) (invocation c t)
      (invocation c (t ++ '\n' :: u)) := by
  refine Carries.bind_checked (fun _ h => skipInline_lineFeed u he.tail h) fun here h _ => ?_
  have hhere := he.tail.suffix (skipInline_suffix h)
  exact Carries.bind_checked (fun _ h => rawRest_lineFeed stopsLine_endsElement hhere h u)
    fun rest _ _ => .ok ⟨rfl, rfl⟩

theorem startsInvocation_lineFeed (c : Char) (t u : List Char) :
    startsInvocation (c :: (t ++ '\n' :: u)) = startsInvocation (c :: t) := by
  by_cases hamp : c = '&'
  · subst hamp
    rfl
  · by_cases hdot : c = '.'
    · subst hdot
      cases t <;> rfl
    · rw [startsInvocation, startsInvocation]
      · exact fun _ h => hamp (List.cons.inj h).1
      · exact fun _ _ h => hdot (List.cons.inj h).1
      · exact fun _ h => hamp (List.cons.inj h).1
      · exact fun _ _ h => hdot (List.cons.inj h).1

theorem stage_carries {text : List Char} (u : List Char) (he : Ended text) :
    Carries (Extends (Stage.moved ('\n' :: u).length) ('\n' :: u)) (stage text)
      (stage (text ++ '\n' :: u)) := by
  cases text with
  | nil => exact .error _ _
  | cons c t =>
    have hstarts := startsInvocation_lineFeed c t u
    show Carries _ (if startsInvocation (c :: t) then _ else if startsCommand c then _ else _)
      (if startsInvocation (c :: (t ++ '\n' :: u)) then _ else if startsCommand c then _ else _)
    rw [hstarts]
    split
    · exact invocation_carries u he
    · split
      · exact Carries.map (command_carries u (fun _ he => hashtable_carries u he) he)
          fun found later h => ⟨congrArg Stage.command h.value, h.rest⟩
      · exact Carries.map (expression_carries u (fun _ he => hashtable_carries u he)
          stopsLine_endsElement he) fun found later h => ⟨rfl, h.rest⟩

theorem rawRest_pastLine {next : List Char} (he : Ended next) :
    Carries (Follows more) (rawRest endsStatement next) (rawRest endsStatement (pastLine more next)) := by
  intro rest h
  cases next with
  | nil =>
    rw [rawRest] at h
    cases h
    exact ⟨_, rawRest_stop rfl more, .inr ⟨rfl, rfl⟩⟩
  | cons c t => exact ⟨_, rawRest_lineFeed stopsLine_endsStatement he h _, .inl rfl⟩

/-- An operator that joins two commands is read the same, and so is what it joins. -/
theorem junction_carries {text : List Char} (he : Ended text) :
    Carries (fun a b => b.1 = a.1 ∧ Follows more a.2.val b.2.val) (junction text)
      (junction (text ++ '\n' :: ';' :: more)) := by
  induction hn : text.length using Nat.strongRecOn generalizing text with
  | ind n ih =>
    subst hn
    rw [junction, junction]
    refine Carries.bind_checked (fun _ h => skipInline_lineFeed _ he h) fun here h _ => ?_
    have hs := skipInline_suffix h
    have hhere := he.suffix hs
    dsimp only
    rw [isPrefixOf_lineFeed (by decide), isPrefixOf_lineFeed (by decide)]
    split
    · rename_i hoperator
      have hlength : 2 ≤ here.length := by
        rcases Bool.or_eq_true _ _ ▸ hoperator with ho | ho
        · exact (List.isPrefixOf_iff_prefix.1 ho).length_le
        · exact (List.isPrefixOf_iff_prefix.1 ho).length_le
      have hdrop := hhere.suffix (List.drop_suffix 2 here)
      have hblanks : ∀ next, skipBlanks (here.drop 2) = .ok next →
          skipBlanks ((here ++ '\n' :: ';' :: more).drop 2) = .ok (pastLine more next) := by
        intro next hnext
        rw [List.drop_append_of_le_length hlength]
        exact skipBlanks_joined hdrop hnext
      refine Carries.bind_checked hblanks fun next hnext _ => ?_
      have hended := hdrop.suffix (skipBlanks_suffix hnext)
      exact Carries.bind_related (rawRest_pastLine hended) fun rest _ later _ hr => .ok ⟨rfl, hr⟩
    · have hhead := head?_lineFeed (c := '|') (by decide) here (';' :: more)
      split
      · rename_i hpipe
        rw [if_pos (hhead.2 hpipe)]
        cases here with
        | nil => cases hpipe
        | cons c t =>
          have hblanks := fun c rest =>
            skipBlanks_lineFeed_cons (c := c) (t := rest) (';' :: more) hhere.tail
          refine Carries.bind_cons hblanks (fun _ => ⟨_, rfl⟩) fun d r hnext _ => ?_
          have hnext' := skipBlanks_suffix hnext
          dsimp only
          split
          · exact .error _ _
          · rename_i hstop
            have hstop' : ¬ stopped (fun c => c == ';' || c == '|' || c == ')' || c == '\x7d')
                (d :: r ++ '\n' :: ';' :: more) = true := hstop
            rw [if_neg hstop']
            refine Carries.bind_found (stage_carries _ (hhere.tail.suffix hnext')) fun part _ _ => ?_
            have hpart := hhere.tail.suffix (part.suffix.trans hnext')
            have hlength : part.rest.length < text.length := by
              have h1 := part.shorter
              have h2 := hnext'.length_le
              have h3 := hs.length_le
              simp only [List.length_cons] at h1 h2 h3
              omega
            refine Carries.bind (ih _ hlength hpart rfl) fun out later hr => .ok ⟨?_, hr.2⟩
            dsimp only
            rw [hr.1]
      · rename_i hpipe
        rw [if_neg (mt hhead.1 hpipe)]
        exact .ok ⟨rfl, .inl rfl⟩

theorem pipeline_carries {text : List Char} (he : Ended text) :
    Carries (SameStatement more) (pipeline text) (pipeline (text ++ '\n' :: ';' :: more)) := by
  refine Carries.bind_found (stage_carries _ he) fun first _ _ => ?_
  refine Carries.bind (junction_carries (he.suffix first.suffix)) fun out later hr => .ok ⟨?_, hr.2⟩
  have hextent := trimmed_follows text hr.2
  obtain ⟨kind, rest⟩ := out
  obtain ⟨kind', rest'⟩ := later
  obtain ⟨rfl, -⟩ := hr
  cases kind' with
  | chained => exact congrArg (Statement.other · _) hextent
  | piped => exact congrArg (Statement.other · _) hextent
  | alone =>
    cases hv : first.value with
    | command c => rfl
    | other => exact congrArg (Statement.other · _) hextent

theorem skipInline_carries {text : List Char} (u : List Char) (he : Ended text) :
    Carries (fun a b => b = a ++ '\n' :: u) (skipInline text) (skipInline (text ++ '\n' :: u)) :=
  fun _ h => ⟨_, skipInline_lineFeed u he h, rfl⟩

theorem statementEnd_carries {rest later : List Char} (he : Ended rest) (h : Follows more rest later) :
    Carries (Follows more) (statementEnd rest) (statementEnd later) := by
  rcases h with rfl | ⟨rfl, rfl⟩
  · refine (skipInline_carries _ he).bind fun here after hr => ?_
    subst hr
    rw [stopped_lineFeed rfl]
    split
    · exact .ok (.inl rfl)
    · exact .error _ _
  · rw [statementEnd, statementEnd, skipInline_nil, skipInline_separator]
    exact .ok (.inr ⟨rfl, rfl⟩)

theorem assignedValue_carries {c : Char} {t : List Char} (he : Ended (c :: t)) :
    Carries (Joins (Expr.moved ('\n' :: ';' :: more).length) more) (assignedValue (c :: t))
      (assignedValue (c :: t ++ '\n' :: ';' :: more)) := by
  have kept : Carries (Joins (Expr.moved ('\n' :: ';' :: more).length) more)
      (assignedValue.asText (c :: t)) (assignedValue.asText (c :: t ++ '\n' :: ';' :: more)) := by
    refine Carries.bind (pipeline_carries he) fun found later hr => .ok ⟨?_, hr.rest⟩
    exact congrArg (Expr.raw · _) (trimmed_follows (c :: t) hr.rest)
  show Carries _ (if startsCommand c then _ else _) (if startsCommand c then _ else _)
  split
  · exact kept
  · refine Carries.bind_found (expression_carries _ (fun _ he => hashtable_carries _ he)
      stopsLine_endsElement he) fun found _ _ => ?_
    refine (skipInline_carries _ (he.suffix found.suffix)).bind fun here after hr => ?_
    subst hr
    have hhead := head?_lineFeed (c := '|') (by decide) here (';' :: more)
    split
    · rename_i hpipe
      rw [if_pos (hhead.2 hpipe)]
      exact kept
    · rename_i hpipe
      rw [if_neg (mt hhead.1 hpipe)]
      exact .ok ⟨rfl, .inl rfl⟩

theorem assignOp?_lineFeed (text u : List Char) :
    assignOp? (text ++ '\n' :: u) =
      (assignOp? text).map fun out => (out.1, out.2 ++ '\n' :: u) := by
  have hprefix : ∀ op : AssignOp, op.text.toList.isPrefixOf (text ++ '\n' :: u) =
      op.text.toList.isPrefixOf text := by
    intro op
    apply isPrefixOf_lineFeed
    cases op <;> decide
  have hlength : ∀ op, AssignOp.all.find? (fun op => op.text.toList.isPrefixOf text) = some op →
      op.text.length ≤ text.length := by
    intro op hf
    have hp := List.find?_some hf
    have hl := (List.isPrefixOf_iff_prefix.1 hp).length_le
    rwa [String.length_toList] at hl
  unfold assignOp?
  rw [funext hprefix]
  cases hf : AssignOp.all.find? fun op => op.text.toList.isPrefixOf text with
  | none => rfl
  | some op =>
    have hl := hlength op hf
    cases op with
    | set =>
      cases text with
      | nil => cases hl
      | cons c t =>
        have hhead := head?_lineFeed (c := '=') (by decide) t u
        show (if (t ++ '\n' :: u).head? = some '=' then none else some (AssignOp.set, t ++ '\n' :: u)) =
          Option.map _ (if t.head? = some '=' then none else some (AssignOp.set, t))
        split
        · rename_i hequals
          rw [if_pos (hhead.1 hequals)]
          rfl
        · rename_i hequals
          rw [if_neg (mt hhead.2 hequals)]
          rfl
    | _ => exact congrArg (fun rest => some (_, rest)) (List.drop_append_of_le_length hl)

/-- The same statement, if there is one. -/
def SameStatement? (more : List Char) {text : List Char} :
    Option (Found Statement text) → Option (Found Statement (text ++ '\n' :: ';' :: more)) → Prop
  | some found, some later => SameStatement more found later
  | none, none => True
  | _, _ => False

theorem assignment?_carries {t : List Char} (he : Ended ('$' :: t)) :
    Carries (SameStatement? more) (assignment? t) (assignment? (t ++ '\n' :: ';' :: more)) := by
  have htarget := Carries.bind_found (variableAt_carries (';' :: more) t) (withMembers_carries _ he)
  refine Carries.bind_found htarget fun target _ _ => ?_
  have hended := he.suffix target.suffix
  refine Carries.bind_checked (fun _ h => skipInline_lineFeed _ hended h) fun here h _ => ?_
  have hhere := hended.suffix (skipInline_suffix h)
  have hlater := assignOp?_lineFeed here (';' :: more)
  dsimp only
  split
  · rename_i hop
    rw [hop] at hlater
    split
    · exact .ok trivial
    · rename_i hop'
      cases hlater.symm.trans hop'
  · rename_i op behind hop
    rw [hop] at hlater
    split
    · rename_i hop'
      cases hlater.symm.trans hop'
    · rename_i hop'
      cases hlater.symm.trans hop'
      have hbehind := hhere.suffix (assignOp?_suffix hop)
      have hblanks := fun c rest =>
        skipBlanks_lineFeed_cons (c := c) (t := rest) (';' :: more) hbehind
      refine Carries.bind_cons hblanks (fun _ => ⟨_, rfl⟩) fun c rest hs _ => ?_
      have hstart := hbehind.suffix (skipBlanks_suffix hs)
      dsimp only
      split
      · exact .error _ _
      · rename_i hstop
        have hstop' : ¬ stopped (fun c => c == ';' || c == ')' || c == '\x7d')
            (c :: rest ++ '\n' :: ';' :: more) = true := hstop
        rw [if_neg hstop']
        refine Carries.bind (assignedValue_carries hstart) fun value later hv => ?_
        refine Carries.bind_related (statementEnd_carries (hstart.suffix value.suffix) hv.rest)
          fun rest _ after _ hr => .ok ⟨?_, hr⟩
        have hextent := trimmed_follows ('$' :: t) hr
        show Statement.assignment (.trimmed ('$' :: t ++ '\n' :: ';' :: more) after) _ op later.value = _
        rw [hextent, hv.value]
        rfl

theorem pipelineStatement_carries {text : List Char} (he : Ended text) :
    Carries (SameStatement more) (pipelineStatement text)
      (pipelineStatement (text ++ '\n' :: ';' :: more)) := by
  refine Carries.bind (pipeline_carries he) fun found later hr => ?_
  exact Carries.bind_related (statementEnd_carries (he.suffix found.suffix) hr.rest)
    fun rest _ after _ hrest => .ok ⟨hr.value, hrest⟩

theorem startsAssignment_lineFeed (t u : List Char) :
    startsAssignment (t ++ '\n' :: u) = startsAssignment t := by
  rw [startsAssignment, startsName_lineFeed, startsAssignment]
  cases t <;> rfl

/-- A statement is read the same when the script goes on. -/
theorem statement_carries {text : List Char} (he : Ended text) :
    Carries (SameStatement more) (statement text) (statement (text ++ '\n' :: ';' :: more)) := by
  cases text with
  | nil => exact .error _ _
  | cons c t =>
    by_cases hc : c = '$'
    · subst hc
      show Carries _ (if startsAssignment t then _ else _)
        (if startsAssignment (t ++ '\n' :: ';' :: more) then _ else _)
      rw [startsAssignment_lineFeed]
      split
      · refine Carries.bind (assignment?_carries he) fun found later h => ?_
        match found, later, h with
        | some found, some later, h => exact .ok h
        | none, none, _ => exact pipelineStatement_carries he
      · exact pipelineStatement_carries he
    · have hkeyword := startsKeyword_lineFeed c t (';' :: more)
      rw [List.cons_append] at hkeyword
      refine Carries.of_eq ?_ (statement_plain hc t) (statement_plain hc (t ++ '\n' :: ';' :: more))
      rw [hkeyword]
      split
      · exact .error _ _
      · split
        · exact keywordStatement_carries he
        · exact pipelineStatement_carries he

/-! ## Reading -/

theorem skipSeparators_congr {text later : List Char} (h : skipBlanks text = skipBlanks later) :
    skipSeparators text = skipSeparators later := by
  cases hb : skipBlanks later with
  | error fault => rw [skipSeparators_fails (h.trans hb), skipSeparators_fails hb]
  | ok rest =>
    by_cases hs : ∃ behind, rest = ';' :: behind
    · obtain ⟨behind, rfl⟩ := hs
      rw [skipSeparators_next (h.trans hb), skipSeparators_next hb]
    · have hn : ∀ behind, rest ≠ ';' :: behind := fun behind he => hs ⟨behind, he⟩
      rw [skipSeparators_stays (h.trans hb) hn, skipSeparators_stays hb hn]

/-- Only what stands behind the separators counts. -/
theorem readStatements_congr {text later : List Char}
    (h : skipSeparators text = skipSeparators later) : readStatements text = readStatements later := by
  cases hs : skipSeparators later with
  | error fault =>
    obtain ⟨site, -, rfl⟩ := skipSeparators_error hs
    rw [readStatements_openComment (h.trans hs), readStatements_openComment hs]
  | ok here =>
    cases here with
    | nil => rw [readStatements_end (h.trans hs), readStatements_end hs]
    | cons c t => rw [readStatements_eq (h.trans hs), readStatements_eq hs]

theorem readStatements_lineFeed (text : List Char) :
    readStatements ('\n' :: text) = readStatements text := by
  have hinline : skipInline ('\n' :: text) = .ok ('\n' :: text) :=
    skipInline_stays rfl (by decide) (fun _ h => absurd h (by decide)) (fun _ h => absurd h (by decide))
  exact readStatements_congr (skipSeparators_congr (skipBlanks_next hinline))

theorem skipSeparators_joined_cons {text : List Char} {c : Char} {t : List Char} (he : Ended text)
    (h : skipSeparators text = .ok (c :: t)) :
    skipSeparators (text ++ '\n' :: ';' :: more) = .ok (c :: t ++ '\n' :: ';' :: more) := by
  fun_induction skipSeparators text with
  | case1 text r hr ih =>
    rw [skipSeparators_next (skipBlanks_lineFeed_cons _ he hr)]
    exact ih (he.suffix ((List.suffix_cons ';' r).trans (skipBlanks_suffix hr))) h
  | case2 text r hn hr =>
    cases h
    refine skipSeparators_stays (skipBlanks_lineFeed_cons _ he hr) fun behind hb => ?_
    exact hn t (by rw [(List.cons.inj hb).1])
  | case3 => cases h

theorem skipSeparators_joined_nil {text later : List Char} (he : Ended text)
    (h : skipSeparators text = .ok []) (hf : Follows more text later) :
    skipSeparators later = skipSeparators more := by
  rcases hf with rfl | ⟨rfl, rfl⟩
  · fun_induction skipSeparators text with
    | case1 text r hr ih =>
      rw [skipSeparators_next (skipBlanks_lineFeed_cons _ he hr)]
      exact ih (he.suffix ((List.suffix_cons ';' r).trans (skipBlanks_suffix hr))) h
    | case2 text r _ hr =>
      cases h
      exact skipSeparators_next (skipBlanks_joined he hr)
    | case3 => cases h
  · exact skipSeparators_next (skipBlanks_separator more)

/-- A run without complaints goes on with the run over what follows. -/
theorem Reads.joined {text later : List Char} {statements : List Statement}
    {complaints : List Complaint} (h : Reads text statements complaints) (hc : complaints = [])
    (he : Ended text) (hf : Follows more text later) :
    readStatements later = (readStatements more).map fun out =>
      (statements.map (Statement.moved ('\n' :: ';' :: more).length) ++ out.1, out.2) := by
  induction h generalizing later with
  | done hs =>
    rw [readStatements_congr (skipSeparators_joined_nil he hs hf)]
    cases readStatements more <;> rfl
  | @next text c t found _ _ hs hstatement _ ih =>
    have hhere := he.suffix (skipSeparators_suffix hs)
    have hcarries : Carries (SameStatement more) _ _ := statement_carries hhere
    obtain ⟨found', hstatement', hjoins⟩ := hcarries found hstatement
    rcases hf with rfl | ⟨rfl, -⟩
    · rw [readStatements_next (skipSeparators_joined_cons he hs) hstatement', hjoins.value,
        ih hc (hhere.suffix found.suffix) hjoins.rest]
      cases readStatements more <;> rfl
    · cases (skipSeparators_suffix hs).length_le
  | resumed => cases hc
  | stuck => cases hc

end

/-! ## Line ends -/

theorem unifyLineEnds_append {text : List Char} (h : text.getLast? ≠ some '\r') (more : List Char) :
    Text.unifyLineEnds (text ++ more) = Text.unifyLineEnds text ++ Text.unifyLineEnds more := by
  fun_induction Text.unifyLineEnds text with
  | case1 rest ih =>
    have hrest := getLast?_ne_of_suffix h ⟨['\r', '\n'], rfl⟩
    rw [List.cons_append, List.cons_append, Text.unifyLineEnds, ih hrest, List.cons_append]
  | case2 c rest hn ih =>
    have hrest := getLast?_ne_of_suffix h (List.suffix_cons c rest)
    rw [List.cons_append, Text.unifyLineEnds, ih hrest, List.cons_append]
    intro behind hc hb
    cases rest with
    | nil =>
      rw [hc] at h
      exact h rfl
    | cons d t =>
      cases hb
      exact hn t hc rfl
  | case3 => rfl

theorem unifyLineEnds_joined {a : String} (h : a.toList.getLast? ≠ some '\r') (b : String) :
    Text.unifyLineEnds (a ++ "\n;\n" ++ b).toList =
      Text.unifyLineEnds a.toList ++ '\n' :: ';' :: '\n' :: Text.unifyLineEnds b.toList := by
  rw [String.toList_append, String.toList_append, List.append_assoc, unifyLineEnds_append h]
  rfl

/-! ## Places -/

/-- What is read from a script, a line with a semicolon, and another script. -/
def Reading.followedBy (first second : Reading) : Reading where
  text := first.text ++ '\n' :: ';' :: '\n' :: second.text
  statements := first.statements.map (Statement.moved ('\n' :: ';' :: '\n' :: second.text).length) ++
    second.statements
  complaints := second.complaints

end PageScript.Script

namespace PageScript

/-- The same place, `n` lines below. -/
def Location.below (n : Nat) (place : Location) : Location := { place with line := place.line + n }

/-- The same diagnostic for a place `n` lines below. -/
def Diagnostic.below (n : Nat) (diagnostic : Diagnostic) : Diagnostic :=
  { diagnostic with place := { diagnostic.place with line := diagnostic.place.line.map (· + (n : Int)) } }

end PageScript

namespace PageScript.Script

section

variable (first second : Reading)

theorem position_followedBy_first (remaining : Nat) :
    (first.followedBy second).position
        (remaining + ('\n' :: ';' :: '\n' :: second.text).length) = first.position remaining := by
  have hoffset : (first.followedBy second).text.length -
      (remaining + ('\n' :: ';' :: '\n' :: second.text).length) = first.text.length - remaining := by
    rw [Reading.followedBy, List.length_append, Nat.add_sub_add_right]
  rw [Reading.position, hoffset, Reading.position, Reading.followedBy]
  exact Text.position_append_left (Nat.sub_le _ _) _

theorem position_followedBy_second {remaining : Nat} (h : remaining ≤ second.text.length) :
    (first.followedBy second).position remaining =
      ⟨first.text.count '\n' + 2 + (second.position remaining).line,
        (second.position remaining).column⟩ := by
  have hlines : Text.WholeLines (first.text ++ ['\n', ';', '\n']) :=
    .inr ⟨first.text ++ ['\n', ';'], by rw [List.append_assoc]; rfl⟩
  have htext : (first.followedBy second).text = first.text ++ ['\n', ';', '\n'] ++ second.text := by
    rw [Reading.followedBy, List.append_assoc]
    rfl
  have hoffset : (first.text ++ ['\n', ';', '\n'] ++ second.text).length - remaining =
      (first.text ++ ['\n', ';', '\n']).length + (second.text.length - remaining) := by
    rw [List.length_append]
    omega
  rw [Reading.position, htext, hoffset,
    Text.position_append_right hlines second.text _ (Nat.sub_le _ _), List.count_append]
  rfl

theorem location_followedBy_first (file : String) (extent : Extent) :
    (first.followedBy second).location file
        (extent.moved ('\n' :: ';' :: '\n' :: second.text).length) = first.location file extent := by
  have hp := position_followedBy_first first second extent.remaining
  unfold Reading.location
  rw [Extent.moved, hp]

theorem location_followedBy_second {extent : Extent} (h : extent.remaining ≤ second.text.length)
    (file : String) :
    (first.followedBy second).location file extent =
      (second.location file extent).below (first.text.count '\n' + 2) := by
  unfold Reading.location
  rw [position_followedBy_second first second h]
  simp only [Location.below, Location.mk.injEq, true_and, and_true]
  omega

theorem diagnostics_followedBy (h : ∀ complaint ∈ second.complaints,
      complaint.remaining ≤ second.text.length) (path : String) (block : Option Int) :
    (first.followedBy second).diagnostics path block =
      (second.diagnostics path block).map (Diagnostic.below (first.text.count '\n' + 2)) := by
  unfold Reading.diagnostics
  rw [List.map_map]
  refine List.map_congr_left fun complaint hm => ?_
  rw [position_followedBy_second first second (h complaint hm)]
  simp only [Function.comp, Diagnostic.below, Diagnostic.mk.injEq, Place.mk.injEq, true_and, and_true,
    Option.map_some, Option.some.injEq]
  omega

end

theorem remaining_le_of_liesIn {text : List Char} {extent : Extent} (h : extent.LiesIn text) :
    extent.remaining ≤ text.length := by
  obtain ⟨start, hs, hr, -⟩ := h
  rw [hr]
  exact hs.length_le

/-- A script, a line with a semicolon and another script are read as the first script and then the
second. The parts of the first script keep their places; those of the second and all diagnostics stand as
many lines below as there are in front of them. -/
theorem read_followedBy {a b : String} {first : Reading} (ha : read a = .ok first)
    (hc : first.complaints = []) (hback : a.toList.getLast? ≠ some '`')
    (hreturn : a.toList.getLast? ≠ some '\r') :
    read (a ++ "\n;\n" ++ b) = (read b).map first.followedBy ∧
    ∀ second, read b = .ok second →
      (∀ file extent, (first.followedBy second).location file
        (extent.moved ('\n' :: ';' :: '\n' :: second.text).length) = first.location file extent) ∧
      (∀ s ∈ second.statements, ∀ extent, s.HasExtent extent → ∀ file,
        (first.followedBy second).location file extent =
          (second.location file extent).below (first.text.count '\n' + 2)) ∧
      ∀ path block, (first.followedBy second).diagnostics path block =
        (second.diagnostics path block).map (Diagnostic.below (first.text.count '\n' + 2)) := by
  constructor
  · rw [read_eq] at ha
    obtain ⟨⟨statements, complaints⟩, ho, rfl⟩ := ok_of_map ha
    have hended : Ended (Text.unifyLineEnds a.toList) := by
      rw [Ended, Text.getLast?_unifyLineEnds]
      exact hback
    have hfollows : Follows ('\n' :: Text.unifyLineEnds b.toList) (Text.unifyLineEnds a.toList) _ :=
      .inl rfl
    have hjoined := (reads_of_readStatements ho).joined hc hended hfollows
    rw [read_eq, unifyLineEnds_joined hreturn, hjoined, readStatements_lineFeed, read_eq]
    cases readStatements (Text.unifyLineEnds b.toList) <;> rfl
  · intro second hb
    rw [read_eq] at hb
    obtain ⟨⟨statements, complaints⟩, ho, rfl⟩ := ok_of_map hb
    obtain ⟨hparts, hcomplaints⟩ := (reads_of_readStatements ho).within
    refine ⟨location_followedBy_first first _, fun s hm extent hx file => ?_,
      diagnostics_followedBy first _ hcomplaints⟩
    exact location_followedBy_second first _ (remaining_le_of_liesIn (hparts s hm extent hx)) file

/-- The first script ends in an operator that looks for another command, and the second has a string
without an end. -/
theorem read_followedBy_openChain :
    ∃ first second, read "$p = 1\r\nGet-A ||" = .ok first ∧ first.complaints = [] ∧
      first.statements.length = 2 ∧ read "Get-B\n'x" = .ok second ∧ second.complaints.length = 1 ∧
      read ("$p = 1\r\nGet-A ||" ++ "\n;\n" ++ "Get-B\n'x") = .ok (first.followedBy second) ∧
      ∀ path block, (first.followedBy second).diagnostics path block =
        (second.diagnostics path block).map (Diagnostic.below (first.text.count '\n' + 2)) := by
  have run : (read "$p = 1\r\nGet-A ||").toOption.map
      (fun reading => (reading.complaints, reading.statements.length)) = some ([], 2) := by
    decide +kernel
  have rerun : (read "Get-B\n'x").toOption.map (fun reading => reading.complaints.length) = some 1 := by
    decide +kernel
  obtain ⟨first, ha, hfirst⟩ := ok_of_toOption run
  obtain ⟨second, hb, hsecond⟩ := ok_of_toOption rerun
  obtain ⟨hc, hn⟩ := Prod.mk.inj hfirst
  have joined := @read_followedBy "$p = 1\r\nGet-A ||" "Get-B\n'x" first ha hc (by decide) (by decide)
  refine ⟨first, second, ha, hc, hn, hb, hsecond, ?_, (joined.2 second hb).2.2⟩
  rw [joined.1, hb]
  rfl

end PageScript.Script
