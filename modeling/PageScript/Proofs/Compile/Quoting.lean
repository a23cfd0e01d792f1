import PageScript.Proofs.Compile.Tables
import PageScript.Proofs.Script.Recovery

/-!
# Texts that are written in quotes

Any text can be written as a constant of a script: in apostrophes, with every apostrophe doubled; in
double quotes, with a backtick in front of every character that has a meaning there; and, if it does
not hold the end of one, as a here-string. Where a string ends is decided by the readers of a script,
and what it stands for by the scope that resolves it: for each kind of quotes there is one lemma about
the reader and, for double quotes, one about the expansion. `read_write` carries an argument that is
read to the end through the command that writes it.
-/

namespace PageScript.Script

/-- `text` with `mark` in front of every character of a kind. -/
def marked (mark : Char) (special : Char → Bool) (text : List Char) : List Char :=
  text.flatMap fun c => if special c then [mark, c] else [c]

/-- The characters that mean something else than themselves between double quotes. -/
def isExpandMark (c : Char) : Bool := c == '`' || c == '"' || c == '$'

/-- `text` in apostrophes. -/
def inApostrophes (text : List Char) : List Char :=
  '\'' :: (marked '\'' (· == '\'') text ++ ['\''])

/-- `text` in double quotes. -/
def inDoubleQuotes (text : List Char) : List Char :=
  '"' :: (marked '`' isExpandMark text ++ ['"'])

/-- The here-string with the body `text`. -/
def asHereString (text : List Char) : List Char :=
  '@' :: '\'' :: '\n' :: (text ++ ['\n', '\'', '@'])

/-! ## Line ends -/

/-- A carriage return is never followed by a line feed. -/
def NoPair (text : List Char) : Prop := ¬ ['\r', '\n'] <:+: text

theorem NoPair.tail {c : Char} {text : List Char} (h : NoPair (c :: text)) : NoPair text :=
  fun hi => h (hi.trans (List.suffix_cons c text).isInfix)

/-- Line ends that are unified stay as they are. -/
theorem unifyLineEnds_of_noPair {text : List Char} (h : NoPair text) :
    Text.unifyLineEnds text = text := by
  fun_induction Text.unifyLineEnds text with
  | case1 rest ih => exact absurd ⟨[], rest, rfl⟩ h
  | case2 c rest _ ih => rw [ih h.tail]
  | case3 => rfl

theorem noPair_cons {c : Char} {text : List Char} (h : NoPair text)
    (hc : c = '\r' → text.head? ≠ some '\n') : NoPair (c :: text) := by
  intro hi
  rcases List.infix_cons_iff.1 hi with ⟨rest, hp⟩ | hi
  · obtain ⟨rfl, rfl⟩ := List.cons.inj hp
    exact hc rfl rfl
  · exact h hi

theorem noPair_append {text more : List Char} (h : NoPair text) (hm : NoPair more)
    (hb : text.getLast? = some '\r' → more.head? ≠ some '\n') : NoPair (text ++ more) := by
  induction text with
  | nil => exact hm
  | cons c text ih =>
    cases text with
    | nil => exact noPair_cons hm fun hc => hb (by rw [hc]; rfl)
    | cons d text =>
      have hb' : (d :: text).getLast? = some '\r' → more.head? ≠ some '\n' := by
        intro hl
        exact hb (by rw [List.getLast?_cons_cons]; exact hl)
      refine noPair_cons (ih h.tail hb') fun hc hd => h ?_
      subst hc
      obtain rfl : d = '\n' := by simpa using hd
      exact ⟨[], text, rfl⟩

theorem marked_cons (mark : Char) (special : Char → Bool) (c : Char) (text : List Char) :
    marked mark special (c :: text) =
      (if special c then [mark, c] else [c]) ++ marked mark special text :=
  List.flatMap_cons

/-- Marks do not bring a carriage return in front of a line feed. -/
theorem noPair_marked {mark : Char} {special : Char → Bool} {text : List Char} (h : NoPair text)
    (hr : mark ≠ '\r') (hn : mark ≠ '\n') (hs : special '\r' = false) :
    NoPair (marked mark special text) := by
  induction text with
  | nil => exact h
  | cons c text ih =>
    have ih := ih h.tail
    rw [marked_cons]
    split
    · rename_i hc
      have hne : c ≠ '\r' := by
        rintro rfl
        rw [hs] at hc
        cases hc
      exact noPair_cons (noPair_cons ih fun he => absurd he hne) fun he => absurd he hr
    · refine noPair_cons ih ?_
      rintro rfl hd
      -- What follows is the next character of the text, or the mark in front of it.
      cases text with
      | nil => cases hd
      | cons d text =>
        rw [marked_cons] at hd
        split at hd
        · exact hn (by simpa using hd)
        · obtain rfl : d = '\n' := by simpa using hd
          exact h ⟨[], text, rfl⟩

theorem noPair_singleton (c : Char) : NoPair [c] := by
  intro h
  have := h.length_le
  simp at this

theorem noPair_inApostrophes {text : List Char} (h : NoPair text) : NoPair (inApostrophes text) := by
  have hm : NoPair (marked '\'' (· == '\'') text) := noPair_marked h (by decide) (by decide) rfl
  refine noPair_cons (noPair_append hm (noPair_singleton _) ?_) ?_
  · exact fun _ => by decide
  · exact fun he => absurd he (by decide)

theorem noPair_inDoubleQuotes {text : List Char} (h : NoPair text) :
    NoPair (inDoubleQuotes text) := by
  have hm : NoPair (marked '`' isExpandMark text) := noPair_marked h (by decide) (by decide) rfl
  refine noPair_cons (noPair_append hm (noPair_singleton _) ?_) ?_
  · exact fun _ => by decide
  · exact fun he => absurd he (by decide)

theorem noPair_asHereString {text : List Char} (h : NoPair text) (hl : text.getLast? ≠ some '\r') :
    NoPair (asHereString text) := by
  have hc : NoPair ['\n', '\'', '@'] := by
    refine noPair_cons (noPair_cons (noPair_singleton _) ?_) ?_
    · exact fun he => absurd he (by decide)
    · exact fun he => absurd he (by decide)
  have hb := noPair_append h hc fun he => absurd he hl
  refine noPair_cons (noPair_cons (noPair_cons hb ?_) ?_) ?_
  · exact fun he => absurd he (by decide)
  · exact fun he => absurd he (by decide)
  · exact fun he => absurd he (by decide)

/-! ## Readers -/

/-- A string in apostrophes ends where it was closed and has the value it was made from. -/
theorem singleQuotedBody_marked (opened text : List Char) {rest : List Char}
    (hr : rest.head? ≠ some '\'') :
    singleQuotedBody opened (marked '\'' (· == '\'') text ++ '\'' :: rest) = .ok (text, rest) := by
  induction text with
  | nil =>
    show singleQuotedBody opened ('\'' :: rest) = .ok ([], rest)
    rw [singleQuotedBody]
    rintro behind rfl
    exact hr rfl
  | cons c text ih =>
    rw [marked_cons]
    split
    · rename_i hc
      obtain rfl : c = '\'' := by simpa using hc
      show (singleQuotedBody opened (marked '\'' (· == '\'') text ++ '\'' :: rest)).map _ = _
      rw [ih]
      rfl
    · rename_i hc
      have hne : c ≠ '\'' := by simpa using hc
      rw [List.append_assoc, List.singleton_append, singleQuotedBody.eq_3, ih]
      · rfl
      · intro rest he
        exact absurd he hne
      · intro he
        exact absurd he hne

/-- A string in double quotes ends where it was closed. -/
theorem closeAll_marked (opened text : List Char) :
    closeAll [.string opened] (marked '`' isExpandMark text ++ ['"']) = .ok [] := by
  induction text with
  | nil =>
    have step : Frame.step '"' [] (.string opened) = .ok ([], []) := rfl
    show closeAll [.string opened] ['"'] = .ok []
    rw [closeAll_step step, List.nil_append, closeAll]
  | cons c text ih =>
    rw [marked_cons]
    split
    · -- A backtick takes the character behind it along.
      have step : Frame.step '`' (c :: (marked '`' isExpandMark text ++ ['"'])) (.string opened) =
          .ok ([.string opened], marked '`' isExpandMark text ++ ['"']) := rfl
      exact (closeAll_step step).trans ih
    · rename_i hc
      simp only [isExpandMark, Bool.or_eq_true, beq_iff_eq, not_or] at hc
      have step : Frame.step c (marked '`' isExpandMark text ++ ['"']) (.string opened) =
          .ok ([.string opened], marked '`' isExpandMark text ++ ['"']) := by
        rw [Frame.step, stringStep_other hc.1.1 hc.1.2 fun hd => absurd hd hc.2]
      exact (closeAll_step step).trans ih

/-- The end of a here-string brings no other end about. -/
theorem quote_at_prefix {text : List Char} (h : ['\'', '@'] <+: text ++ ['\n', '\'', '@']) :
    ['\'', '@'] <+: text := by
  obtain ⟨rest, hr⟩ := h
  match text with
  | [] => simp at hr
  | [c] => simp at hr
  | c :: d :: text =>
    simp only [List.cons_append, List.cons.injEq] at hr
    exact ⟨text, by rw [← hr.1, ← hr.2.1]; rfl⟩

/-- A here-string ends at the first line that closes it. -/
theorem cut?_closing {text : List Char} (h : ¬ ['\n', '\'', '@'] <:+: text) :
    Text.cut? ['\n', '\'', '@'] (text ++ ['\n', '\'', '@']) = some (text, []) := by
  induction text with
  | nil => rfl
  | cons c text ih =>
    have ih := ih fun hi => h (hi.trans (List.suffix_cons c text).isInfix)
    have hp : ['\n', '\'', '@'].isPrefixOf (c :: (text ++ ['\n', '\'', '@'])) = false := by
      rw [Bool.eq_false_iff]
      intro he
      rw [List.isPrefixOf_iff_prefix, List.cons_prefix_cons] at he
      obtain ⟨rest, hr⟩ := quote_at_prefix he.2
      exact h ⟨[], rest, by rw [← he.1, ← hr]; rfl⟩
    rw [List.cons_append, Text.cut?, hp, ih]
    rfl

theorem hereStringBody_append (opened : List Char) {text : List Char}
    (hs : ¬ ['\'', '@'] <+: text) (hi : ¬ ['\n', '\'', '@'] <:+: text) :
    hereStringBody opened '\'' (text ++ ['\n', '\'', '@']) = .ok (text, []) := by
  have hl : ¬ ['\n', '\'', '@'] <:+: '\n' :: text := by
    intro h
    rcases List.infix_cons_iff.1 h with hp | h
    · exact hs (List.cons_prefix_cons.1 hp).2
    · exact hi h
  have hc := cut?_closing hl
  rw [List.cons_append] at hc
  rw [hereStringBody, hc]
  rfl

/-! ## Arguments -/

/-- The text is an argument from end to end, and resolves to `value` wherever it stands. -/
def Denotes (text : List Char) (value : String) : Prop :=
  ∃ found, argument hashtable text = .ok found ∧ found.rest = [] ∧
    ∀ scope : Compile.Scope, scope.resolve found.value = .ok value

theorem argument_of_primary? {text : List Char} {found : Found Expr text}
    (h : primary? hashtable text = .ok (some found)) : argument hashtable text = .ok found := by
  rw [argument, h]
  rfl

/-- An argument that starts with a quote or an at sign is a primary. -/
theorem denotes_of_primary? {text : List Char} {value : String} {found : Found Expr text}
    (h : primary? hashtable text = .ok (some found)) (hr : found.rest = [])
    (hv : ∀ scope : Compile.Scope, scope.resolve found.value = .ok value) : Denotes text value :=
  ⟨found, argument_of_primary? h, hr, hv⟩

theorem denotes_inApostrophes (text : List Char) :
    Denotes (inApostrophes text) (String.ofList text) := by
  have hb := @singleQuotedBody_marked (inApostrophes text) text [] (by simp)
  have hp : primary? hashtable (inApostrophes text) = .ok (some (.behind
      (.string (.between (inApostrophes text) []) (String.ofList text) .single) [] List.nil_suffix)) := by
    show some <$> singleQuotedExpr _ = _
    rw [inApostrophes] at hb
    rw [singleQuotedExpr, checked_ok hb]
    rfl
  exact denotes_of_primary? hp rfl fun _ => rfl

/-- A backtick gives the characters that it is put in front of no meaning. -/
theorem expandChars_marked (scope : Compile.Scope) (text : List Char) :
    scope.expandChars (marked '`' isExpandMark text) = text := by
  induction text with
  | nil => rw [marked, List.flatMap_nil, Compile.Scope.expandChars]
  | cons c text ih =>
    rw [marked_cons]
    split
    · rename_i hc
      simp only [isExpandMark, Bool.or_eq_true, beq_iff_eq] at hc
      have hs : Compile.escaped c = c := by rcases hc with (rfl | rfl) | rfl <;> rfl
      show scope.expandChars ('`' :: c :: marked '`' isExpandMark text) = c :: text
      rw [Compile.Scope.expandChars, hs, ih]
    · rename_i hc
      simp only [isExpandMark, Bool.or_eq_true, beq_iff_eq, not_or] at hc
      show scope.expandChars (c :: marked '`' isExpandMark text) = c :: text
      rw [Compile.Scope.expandChars_plain hc.1.1 hc.1.2 hc.2, ih]

/-- A text in double quotes in which nothing closes them is the body of a string. -/
theorem primary?_doubleQuoted {body : List Char}
    (h : doubleQuotedRest ('"' :: (body ++ ['"'])) = .ok []) :
    primary? hashtable ('"' :: (body ++ ['"'])) = .ok (some (.behind
      (.expandable (.between ('"' :: (body ++ ['"'])) []) (String.ofList body)) []
        List.nil_suffix)) := by
  show some <$> doubleQuotedExpr _ = _
  rw [doubleQuotedExpr, checked_ok h]
  simp [bind, Except.bind, pure, Except.pure, Functor.map, Except.map]

theorem denotes_inDoubleQuotes (text : List Char) :
    Denotes (inDoubleQuotes text) (String.ofList text) := by
  have hc : doubleQuotedRest (inDoubleQuotes text) = .ok [] := closeAll_marked _ text
  refine denotes_of_primary? (primary?_doubleQuoted hc) rfl fun scope => ?_
  show Except.ok (scope.expand (String.ofList (marked '`' isExpandMark text))) = _
  rw [Compile.Scope.expand, String.toList_ofList, expandChars_marked]

theorem denotes_asHereString {text : List Char} (hs : ¬ ['\'', '@'] <+: text)
    (hi : ¬ ['\n', '\'', '@'] <:+: text) : Denotes (asHereString text) (String.ofList text) := by
  have hh : hereStringHead? (asHereString text) = some ('\'', text ++ ['\n', '\'', '@']) := rfl
  have hb := hereStringBody_append (asHereString text) hs hi
  have hp : primary? hashtable (asHereString text) = .ok (some (.behind
      (.string (.between (asHereString text) []) (String.ofList text) .here) [] List.nil_suffix)) := by
    have he : hereStringExpr hh = .ok (.behind
        (.string (.between (asHereString text) []) (String.ofList text) .here) [] List.nil_suffix) := by
      rw [hereStringExpr, checked_ok hb]
      rfl
    exact (primary?_hereString hashtable hh).trans (congrArg (some <$> ·) he)
  exact denotes_of_primary? hp rfl fun _ => rfl

/-! ## The command that writes -/

/-- What stands in front of an argument that is written. -/
def writeHead : List Char := ['W', 'r', 'i', 't', 'e', '-', 'O', 'u', 't', 'p', 'u', 't', ' ']

/-- An argument can stand behind a blank: it is no blank itself, no end and no parameter. -/
def StartsArgument (text : List Char) : Prop :=
  skipInline text = .ok text ∧ stopped endsElement text = false ∧ text.head? ≠ some '-'

theorem element_of_argument {text : List Char} {found : Found Expr text}
    (hd : text.head? ≠ some '-') (h : argument hashtable text = .ok found) (hr : found.rest = []) :
    element hashtable text = .ok (found.map .value) := by
  have hn : skipInline [] = .ok [] := by rw [skipInline]
  have hl : listRest hashtable found.rest = .ok ⟨found.rest, List.suffix_rfl⟩ := by
    have hc : listComma? found.rest = .ok none := by
      rw [hr, listComma?, checked_ok hn]
      rfl
    rw [listRest, hc]
    rfl
  have hp : positional hashtable text = .ok (found.map .value) := by
    rw [positional, h]
    show listRest hashtable found.rest >>= _ = _
    rw [hl]
    exact if_neg (Nat.lt_irrefl _)
  rw [← hp]
  unfold element
  split
  · exact absurd rfl hd
  · rfl

theorem elements_nil {text : List Char} (h : text = []) :
    ∃ rest, elements hashtable text = .ok ([], rest) ∧ rest.val = [] := by
  subst h
  refine ⟨⟨[], List.suffix_rfl⟩, ?_, rfl⟩
  rw [elements, checked_ok skipInline_nil]
  rfl

/-- The words of a command that has one argument. -/
theorem elements_of_argument {text : List Char} {found : Found Expr text}
    (hs : StartsArgument text) (h : argument hashtable text = .ok found) (hr : found.rest = []) :
    ∃ rest, elements hashtable (' ' :: text) = .ok ([.value found.value], rest) ∧ rest.val = [] := by
  have hb : skipInline (' ' :: text) = .ok text := (skipInline_blank rfl text).trans hs.1
  have he := element_of_argument hs.2.2 h hr
  have hnil : (found.map Element.value).rest = [] := hr
  obtain ⟨rest, hm, hv⟩ := elements_nil hnil
  refine ⟨⟨rest.val, hv ▸ List.nil_suffix⟩, ?_, hv⟩
  rw [elements, checked_ok hb]
  simp only [bind, Except.bind, pure, Except.pure, hs.2.1, he, hm, Bool.false_eq_true, if_false]
  rfl

theorem word_writeHead (text : List Char) :
    ∃ found, word (writeHead ++ text) = .ok found ∧ found.value = "Write-Output" ∧
      found.rest = ' ' :: text := by
  have hw : wordRest (writeHead ++ text) = ' ' :: text := rfl
  have hl : (writeHead ++ text).length = text.length + 13 := by
    rw [List.length_append, Nat.add_comm]
    rfl
  have hlt : (wordRest (writeHead ++ text)).length < (writeHead ++ text).length := by
    rw [hw, hl, List.length_cons]
    omega
  have hv : String.ofList ((writeHead ++ text).take ((writeHead ++ text).length -
      (wordRest (writeHead ++ text)).length)) = "Write-Output" := by
    rw [hw, hl, List.length_cons, show text.length + 13 - (text.length + 1) = 12 by omega]
    rfl
  exact ⟨_, dif_pos hlt, hv, hw⟩

/-- The command that writes an argument, at the end of a script. -/
theorem command_write {text : List Char} {found : Found Expr text} (hs : StartsArgument text)
    (h : argument hashtable text = .ok found) (hr : found.rest = []) :
    ∃ whole extent, command hashtable (writeHead ++ text) = .ok whole ∧ whole.rest = [] ∧
      whole.value = ⟨extent, "Write-Output", [.value found.value]⟩ := by
  obtain ⟨name, hw, hv, hn⟩ := word_writeHead text
  have he : ∃ rest, elements hashtable name.rest = .ok ([.value found.value], rest) ∧
      rest.val = [] := by
    rw [hn]
    exact elements_of_argument hs h hr
  obtain ⟨rest, he, hnil⟩ := he
  have hc : command hashtable (writeHead ++ text) = .ok (name.upTo
      ⟨.trimmed (writeHead ++ text) rest.val, name.value, [.value found.value]⟩ rest.val
      rest.property) := by
    rw [command, hw]
    show elements hashtable name.rest >>= _ = _
    rw [he]
    rfl
  exact ⟨_, _, hc, hnil, by rw [← hv]; rfl⟩

theorem junction_nil {text : List Char} (h : text = []) :
    ∃ rest, junction text = .ok (.alone, rest) ∧ rest.val = [] := by
  subst h
  have hn : skipInline [] = .ok [] := by rw [skipInline]
  refine ⟨⟨[], List.suffix_rfl⟩, ?_, rfl⟩
  rw [junction, checked_ok hn]
  rfl

theorem statementEnd_nil {text : List Char} (h : text = []) : statementEnd text = .ok [] := by
  subst h
  have hn : skipInline [] = .ok [] := by rw [skipInline]
  rw [statementEnd, hn]
  rfl

theorem startsKeyword_writeHead (text : List Char) : startsKeyword (writeHead ++ text) = false := by
  have chars : "Write-Output".toList.all
      (fun c => Text.isAlphanumeric c || c == '_' || c == '-') = true := by decide +kernel
  have blank : (Text.isAlphanumeric ' ' || ' ' == '_' || ' ' == '-') = false := by decide +kernel
  have hw : (writeHead ++ text).takeWhile (fun c => Text.isAlphanumeric c || c == '_' || c == '-') =
      "Write-Output".toList := by
    show ("Write-Output".toList ++ ' ' :: text).takeWhile _ = _
    rw [List.takeWhile_append_of_pos (List.all_eq_true.1 chars), List.takeWhile_cons,
      if_neg (blank ▸ Bool.false_ne_true), List.append_nil]
  have hk : keywords.contains (Text.fold (String.ofList "Write-Output".toList)) = false := by
    decide +kernel
  show (isNameStart 'W' && keywords.contains (foldedWord (writeHead ++ text))) = false
  rw [foldedWord, hw, hk, Bool.and_false]

theorem stage_command {c : Char} {t : List Char} (hi : startsInvocation (c :: t) = false)
    (hc : startsCommand c = true) :
    stage (c :: t) = (command hashtable (c :: t)).map (Found.map Stage.command) := by
  rw [stage, hi, if_neg Bool.false_ne_true, if_pos hc]

theorem statement_pipeline {c : Char} {t : List Char} (hd : c ≠ '$') (hc : isCloser c = false)
    (hk : startsKeyword (c :: t) = false) : statement (c :: t) = pipelineStatement (c :: t) := by
  rw [statement, hc, hk, if_neg Bool.false_ne_true, if_neg Bool.false_ne_true]
  exact hd

/-- The script that writes an argument is one statement. -/
theorem statement_write {text : List Char} {found : Found Expr text} (hs : StartsArgument text)
    (h : argument hashtable text = .ok found) (hr : found.rest = []) :
    ∃ whole extent, statement (writeHead ++ text) = .ok whole ∧ whole.rest = [] ∧
      whole.value = .command ⟨extent, "Write-Output", [.value found.value]⟩ := by
  obtain ⟨written, extent, hc, hw, hv⟩ := command_write hs h hr
  have hstarts : startsCommand 'W' = true := by decide +kernel
  have hstage : stage (writeHead ++ text) = .ok (written.map Stage.command) :=
    (stage_command rfl hstarts).trans (congrArg (Except.map (Found.map Stage.command)) hc)
  have hnil : (written.map Stage.command).rest = [] := hw
  obtain ⟨rest, hj, hnil⟩ := junction_nil hnil
  have hp : ∃ line, pipeline (writeHead ++ text) = .ok line ∧ line.rest = [] ∧
      line.value = .command written.value := by
    refine ⟨(written.map Stage.command).upTo (.command written.value) rest.val rest.property, ?_,
      hnil, rfl⟩
    rw [pipeline, hstage]
    show junction (written.map Stage.command).rest >>= _ = _
    rw [hj]
    rfl
  obtain ⟨line, hp, hrest, hvalue⟩ := hp
  have hend := statementEnd_nil hrest
  have hps : pipelineStatement (writeHead ++ text) =
      .ok (line.upTo line.value [] (statementEnd_suffix hend)) := by
    rw [pipelineStatement, hp]
    show checked (statementEnd line.rest) >>= _ = _
    rw [checked_ok hend]
    rfl
  refine ⟨line.upTo line.value [] (statementEnd_suffix hend), extent, ?_, rfl, ?_⟩
  · exact (statement_pipeline (by decide) rfl (startsKeyword_writeHead text)).trans hps
  · rw [← hv]
    exact hvalue

/-- A character that starts no blank, comment or continued line is left where it is. -/
theorem skipInline_plain {c : Char} (hi : isInlineBlank c = false) (hc : c ≠ '#') (hb : c ≠ '`')
    (hl : c ≠ '<') (text : List Char) : skipInline (c :: text) = .ok (c :: text) :=
  skipInline_stays hi hc (fun _ h => absurd h hb) (fun _ h => absurd h hl)

theorem skipSeparators_of_skipInline {c : Char} {text : List Char} (hn : c ≠ '\n') (hs : c ≠ ';')
    (h : skipInline (c :: text) = .ok (c :: text)) :
    skipSeparators (c :: text) = .ok (c :: text) := by
  have hb := skipBlanks_stays h fun _ he => hn (List.cons.inj he).1
  exact skipSeparators_stays hb fun _ he => hs (List.cons.inj he).1

/-- A script that writes an argument is read as the one command that it is. -/
theorem read_write {text : List Char} {found : Found Expr text} (hs : StartsArgument text)
    (h : argument hashtable text = .ok found) (hr : found.rest = []) (hp : NoPair text) :
    ∃ extent, read (String.ofList (writeHead ++ text)) =
      .ok ⟨writeHead ++ text, [.command ⟨extent, "Write-Output", [.value found.value]⟩], []⟩ := by
  obtain ⟨whole, extent, hw, hrest, hv⟩ := statement_write hs h hr
  have hu : Text.unifyLineEnds (writeHead ++ text) = writeHead ++ text :=
    congrArg (writeHead ++ ·) (unifyLineEnds_of_noPair hp)
  have hsep : skipSeparators (writeHead ++ text) = .ok (writeHead ++ text) :=
    skipSeparators_of_skipInline (by decide) (by decide)
      (skipInline_plain rfl (by decide) (by decide) (by decide) _)
  have hnil := readStatements_end (skipSeparators_nil hrest)
  refine ⟨extent, ?_⟩
  have hn : readStatements (writeHead ++ text) = _ := readStatements_next hsep hw
  rw [read_eq, String.toList_ofList, hu, hn, hnil, hv]
  rfl

end PageScript.Script

namespace PageScript.Compile

open Script (Denotes StartsArgument NoPair writeHead inApostrophes inDoubleQuotes asHereString)

/-- The operation that writes a text, unless there is nothing to write. -/
def writing (text : String) : List Operation := if text.isEmpty then [] else [.emitText text]

theorem commandOperations_write (scope : Scope) (value : Script.Expr) (settings : Settings)
    (bindings : FoldedTable Parameters) (extent : Script.Extent) :
    scope.commandOperations settings bindings ⟨extent, "Write-Output", [.value value]⟩ =
      (scope.resolve value).map writing := by
  have hf : (Text.fold "Write-Output" == writeCommand) = true := by decide +kernel
  have hw : scope.writeOperations [.value value] = (scope.resolve value).map writing := by
    rw [Scope.writeOperations]
    cases h : scope.resolve value <;>
      simp only [firstArgument?, List.findSome?_cons, h, bind, Except.bind] <;> rfl
  rw [Scope.commandOperations]
  simp only [hf, if_true, hw]

theorem compileBlock_write (value : Script.Expr) (settings : Settings) (environ : Environ)
    (extent : Script.Extent) :
    compileBlock settings environ [.command ⟨extent, "Write-Output", [.value value]⟩] =
      (Scope.resolve { environ, known := .empty } value).map writing := by
  have ho := commandOperations_write { environ, known := .empty } value settings .empty extent
  have hb : bindAll environ [.command ⟨extent, "Write-Output", [.value value]⟩] = .ok {} := rfl
  have hs : compileStatement settings environ .empty .empty
      (.command ⟨extent, "Write-Output", [.value value]⟩) =
        ((Scope.resolve { environ, known := .empty } value).map writing).map (·, .empty) := by
    rw [compileStatement, ho]
    cases Scope.resolve { environ, known := .empty } value <;> rfl
  rw [compileBlock, hb]
  simp only [bind, Except.bind, compileAll, hs]
  cases Scope.resolve { environ, known := .empty } value with
  | error fault => rfl
  | ok text => exact congrArg Except.ok (List.append_nil _)

/-- The block compiles to these operations and nothing in it is complained about, whatever the
settings, the environment and the place of the block are. -/
def CompilesTo (source : List Char) (operations : List Operation) : Prop :=
  ∀ (settings : Settings) (environ : Environ) (sourceName : String) (index : Nat),
    (∃ reading, Script.read (String.ofList source) = .ok reading ∧ reading.statements.length = 1 ∧
      reading.diagnostics sourceName (some index) = []) ∧
    (planBlock settings environ sourceName ⟨String.ofList source, index⟩).1 =
      .ok (some ⟨index, operations⟩)

theorem compilesTo_of_denotes {source : List Char} {text : String} (h : Denotes source text)
    (hs : StartsArgument source) (hp : NoPair source) (hne : text ≠ "") :
    CompilesTo (writeHead ++ source) [.emitText text] := by
  intro settings environ sourceName index
  obtain ⟨found, ha, hr, hv⟩ := h
  obtain ⟨extent, hread⟩ := Script.read_write hs ha hr hp
  have hc := compileBlock_write found.value settings environ extent
  have hw : writing text = [.emitText text] := if_neg (by simpa using hne)
  rw [hv, Except.map, hw] at hc
  refine ⟨⟨_, hread, rfl, rfl⟩, ?_⟩
  rw [planBlock_clean ⟨String.ofList (writeHead ++ source), index⟩ hread rfl, hc]
  rfl

/-- Every text can be written in apostrophes and in double quotes, and as a here-string unless it
would close that too early: the command that writes it compiles to the text itself. -/
theorem compilesTo_quoted {text : String} (hne : text ≠ "") (hp : ¬ ['\r', '\n'] <:+: text.toList) :
    CompilesTo (writeHead ++ inApostrophes text.toList) [.emitText text] ∧
    CompilesTo (writeHead ++ inDoubleQuotes text.toList) [.emitText text] ∧
    (¬ ['\'', '@'] <+: text.toList → text.toList.getLast? ≠ some '\r' →
      ¬ ['\n', '\'', '@'] <:+: text.toList →
      CompilesTo (writeHead ++ asHereString text.toList) [.emitText text]) := by
  have quoted {source : List Char} (h : Denotes source (String.ofList text.toList))
      (hs : StartsArgument source) (hn : NoPair source) :
      CompilesTo (writeHead ++ source) [.emitText text] := by
    rw [String.ofList_toList] at h
    exact compilesTo_of_denotes h hs hn hne
  have starts {c : Char} {t : List Char} (h : c = '\'' ∨ c = '"' ∨ c = '@') :
      StartsArgument (c :: t) := by
    rcases h with rfl | rfl | rfl <;>
      exact ⟨Script.skipInline_plain rfl (by decide) (by decide) (by decide) t, rfl, by simp⟩
  refine ⟨?_, ?_, ?_⟩
  · exact quoted (Script.denotes_inApostrophes _) (starts (.inl rfl))
      (Script.noPair_inApostrophes hp)
  · exact quoted (Script.denotes_inDoubleQuotes _) (starts (.inr (.inl rfl)))
      (Script.noPair_inDoubleQuotes hp)
  · intro hs hl hi
    exact quoted (Script.denotes_asHereString hs hi) (starts (.inr (.inr rfl)))
      (Script.noPair_asHereString hp hl)

/-- Quotes, backticks, a subexpression and the end of a here-string in the middle of a line. -/
theorem compilesTo_quoted_hardText :
    CompilesTo (writeHead ++ inApostrophes "it's `\"$(x)'@\n''\r".toList)
      [.emitText "it's `\"$(x)'@\n''\r"] ∧
    CompilesTo (writeHead ++ inDoubleQuotes "it's `\"$(x)'@\n''\r".toList)
      [.emitText "it's `\"$(x)'@\n''\r"] ∧
    CompilesTo (writeHead ++ asHereString "it's `\"$(x)'@\n''".toList)
      [.emitText "it's `\"$(x)'@\n''"] := by
  have h := @compilesTo_quoted "it's `\"$(x)'@\n''\r" (by decide +kernel) (by decide +kernel)
  have h' := @compilesTo_quoted "it's `\"$(x)'@\n''" (by decide +kernel) (by decide +kernel)
  exact ⟨h.1, h.2.1, h'.2.2 (by decide +kernel) (by decide +kernel) (by decide +kernel)⟩

end PageScript.Compile
