import PageScript.Proofs.Script.Recovery
import PageScript.Proofs.Text.Cut

/-!
# What follows a line feed

A text can be gone on with, behind a line feed, in any way, without a change to what is found in it:
every function that passes over characters stops where it stopped, with all the rest behind. There are
two things that could reach over the line feed. A backtick at the end of the text would take it in
(`Ended` rules this out), and an at sign and a quote there would open a here-string (`Dangling`), but
then the quote alone is a string without an end, and no text that has one is passed over.
-/

namespace PageScript.Script

theorem getLast?_ne_of_suffix {c : Char} {text rest : List Char} (h : text.getLast? ≠ some c)
    (hs : rest <:+ text) : rest.getLast? ≠ some c := by
  obtain ⟨before, rfl⟩ := hs
  intro hr
  apply h
  rw [List.getLast?_append, hr]
  rfl

/-- No backtick at the end of the text takes in what follows. -/
def Ended (text : List Char) : Prop := text.getLast? ≠ some '`'

theorem Ended.suffix {text rest : List Char} (h : Ended text) (hs : rest <:+ text) : Ended rest :=
  getLast?_ne_of_suffix h hs

theorem Ended.tail {c : Char} {text : List Char} (h : Ended (c :: text)) : Ended text :=
  h.suffix (List.suffix_cons c text)

/-! ## Runs of characters -/

section

variable {p : Char → Bool} (hp : p '\n' = false) (text u : List Char)
include hp

theorem takeWhile_lineFeed : (text ++ '\n' :: u).takeWhile p = text.takeWhile p := by
  induction text with
  | nil => rw [List.nil_append, List.takeWhile_cons_of_neg (by simp [hp]), List.takeWhile_nil]
  | cons c text ih => rw [List.cons_append, List.takeWhile_cons, List.takeWhile_cons, ih]

theorem dropWhile_lineFeed : (text ++ '\n' :: u).dropWhile p = text.dropWhile p ++ '\n' :: u := by
  induction text with
  | nil => rw [List.nil_append, List.dropWhile_cons_of_neg (by simp [hp]), List.dropWhile_nil,
      List.nil_append]
  | cons c text ih =>
    rw [List.cons_append, List.dropWhile_cons, List.dropWhile_cons, ih]
    split <;> rfl

end

theorem head?_lineFeed {c : Char} (hc : c ≠ '\n') (text u : List Char) :
    (text ++ '\n' :: u).head? = some c ↔ text.head? = some c := by
  cases text with
  | nil => simp [Ne.symm hc]
  | cons d t => rfl

theorem ne_cons_lineFeed {d : Char} {t : List Char} (h : ∀ rest, t ≠ d :: rest) (hd : d ≠ '\n')
    (u rest : List Char) : t ++ '\n' :: u ≠ d :: rest := by
  intro he
  cases t with
  | nil => exact hd (List.cons.inj he).1.symm
  | cons c t => exact h t (by rw [(List.cons.inj he).1])

theorem isPrefixOf_lineFeed {pattern : List Char} (hp : '\n' ∉ pattern) (text u : List Char) :
    pattern.isPrefixOf (text ++ '\n' :: u) = pattern.isPrefixOf text := by
  induction pattern generalizing text with
  | nil => rfl
  | cons d pattern ih =>
    obtain ⟨hd, hp⟩ := not_or.1 (mt List.mem_cons.2 hp)
    cases text with
    | nil => simp [List.isPrefixOf, Ne.symm hd]
    | cons c text => rw [List.cons_append, List.isPrefixOf, List.isPrefixOf, ih hp]

/-! ## Blanks and comments -/

theorem skipLineComment_lineFeed (text u : List Char) :
    skipLineComment (text ++ '\n' :: u) = skipLineComment text ++ '\n' :: u :=
  dropWhile_lineFeed (by decide) text u

theorem skipBlockComment_append {text rest : List Char} (h : skipBlockComment text = .ok rest)
    (u : List Char) : skipBlockComment (text ++ u) = .ok (rest ++ u) := by
  unfold skipBlockComment at h ⊢
  split at h
  · rename_i found hf
    cases h
    obtain ⟨⟨body, after⟩, hc, rfl⟩ := Option.map_eq_some_iff.1 hf
    have hl : 2 ≤ text.length := by
      have := congrArg List.length (Text.eq_of_cut? hc)
      simp only [List.length_drop, List.length_append, List.length_cons] at this
      omega
    rw [List.drop_append_of_le_length hl, Text.after?, Text.cut?_append (by simp) hc]
    rfl
  · cases h

section

variable {text rest : List Char} (u : List Char)

theorem skipInline_lineFeed (he : Ended text) (h : skipInline text = .ok rest) :
    skipInline (text ++ '\n' :: u) = .ok (rest ++ '\n' :: u) := by
  fun_induction skipInline text generalizing rest with
  | case1 =>
    cases h
    exact skipInline_stays rfl (by decide) (fun _ h => absurd h (by decide))
      (fun _ h => absurd h (by decide))
  | case2 c t hc ih => rw [List.cons_append, skipInline_blank hc, ih he.tail h]
  | case3 t _ ih =>
    rw [List.cons_append, skipInline_comment, skipLineComment_lineFeed]
    exact ih (he.tail.suffix (skipLineComment_suffix t)) h
  | case4 t _ _ ih =>
    rw [List.cons_append, List.cons_append, skipInline_continued]
    exact ih he.tail.tail h
  | case5 t r hr _ _ ih =>
    have hb := skipBlockComment_append hr ('\n' :: u)
    rw [List.cons_append, List.cons_append] at hb ⊢
    rw [skipInline_block hb]
    exact ih (he.tail.tail.suffix (skipBlockComment_suffix hr)) h
  | case6 => cases h
  | case7 c t hi hc hb hl =>
    cases h
    refine skipInline_stays (by simpa using hi) hc (fun rest hc' ht => ?_) (fun rest hc' ht => ?_)
    · cases t with
      | nil =>
        rw [hc'] at he
        exact he rfl
      | cons d t =>
        cases ht
        exact hb t hc' rfl
    · cases t with
      | nil => cases ht
      | cons d t =>
        cases ht
        exact hl t hc' rfl

/-- Blanks that end in front of something end there. -/
theorem skipBlanks_lineFeed_cons {c : Char} {t : List Char} (he : Ended text)
    (h : skipBlanks text = .ok (c :: t)) :
    skipBlanks (text ++ '\n' :: u) = .ok (c :: t ++ '\n' :: u) := by
  fun_induction skipBlanks text with
  | case1 text r hr ih =>
    rw [skipBlanks_next (skipInline_lineFeed u he hr)]
    exact ih (he.suffix ((List.suffix_cons '\n' r).trans (skipInline_suffix hr))) h
  | case2 text r hn hr =>
    cases h
    refine skipBlanks_stays (skipInline_lineFeed u he hr) fun behind hb => ?_
    exact hn t (by rw [(List.cons.inj hb).1])
  | case3 => cases h

/-- Blanks up to the end of the text go on behind it. -/
theorem skipBlanks_lineFeed_nil (he : Ended text) (h : skipBlanks text = .ok []) :
    skipBlanks (text ++ '\n' :: u) = skipBlanks u := by
  fun_induction skipBlanks text with
  | case1 text r hr ih =>
    rw [skipBlanks_next (skipInline_lineFeed u he hr)]
    exact ih (he.suffix ((List.suffix_cons '\n' r).trans (skipInline_suffix hr))) h
  | case2 text r hn hr =>
    cases h
    exact skipBlanks_next (skipInline_lineFeed u he hr)
  | case3 => cases h

end

/-! ## Strings and groups -/

theorem singleQuotedBody_lineFeed {opened text value rest : List Char}
    (h : singleQuotedBody opened text = .ok (value, rest)) (opened' u : List Char) :
    singleQuotedBody opened' (text ++ '\n' :: u) = .ok (value, rest ++ '\n' :: u) := by
  fun_induction singleQuotedBody opened text generalizing value with
  | case1 t ih =>
    cases ht : singleQuotedBody opened t with
    | error => simp [ht, Except.map] at h
    | ok out =>
      rw [ht] at h
      cases h
      rw [List.cons_append, List.cons_append, singleQuotedBody, ih ht]
      rfl
  | case2 t hn =>
    cases h
    cases rest with
    | nil => rfl
    | cons d t =>
      rw [List.cons_append, singleQuotedBody]
      intro rest he
      cases he
      exact hn t rfl
  | case3 c t _ hc ih =>
    cases ht : singleQuotedBody opened t with
    | error => simp [ht, Except.map] at h
    | ok out =>
      rw [ht] at h
      cases h
      rw [List.cons_append, singleQuotedBody, ih ht]
      · rfl
      · exact fun _ h _ => absurd h hc
      · exact hc
  | case4 => cases h

/-- The text is a quote behind an at sign and blanks up to the end. -/
def Dangling (text : List Char) : Prop :=
  ∃ quote blanks, text = '@' :: quote :: blanks ∧ (quote = '\'' ∨ quote = '"') ∧
    ∀ c ∈ blanks, c = ' ' ∨ c = '\t'

theorem hereStringHead?_lineFeed {text : List Char} (hd : ¬ Dangling text) (u : List Char) :
    hereStringHead? (text ++ '\n' :: u) =
      (hereStringHead? text).map fun head => (head.1, head.2 ++ '\n' :: u) := by
  cases text with
  | nil => rfl
  | cons c t =>
    by_cases hc : c = '@'
    · subst hc
      cases t with
      | nil => rfl
      | cons quote rest =>
        have hdrop := dropWhile_lineFeed (p := fun c => c == ' ' || c == '\t') rfl rest u
        rw [List.cons_append, List.cons_append, hereStringHead?, hereStringHead?, hdrop]
        split
        · rename_i hq
          cases hr : rest.dropWhile fun c => c == ' ' || c == '\t' with
          | nil =>
            refine absurd ⟨quote, rest, rfl, by simpa using hq, fun c hc => ?_⟩ hd
            have ht := List.takeWhile_append_dropWhile (p := fun c => c == ' ' || c == '\t') (l := rest)
            rw [hr, List.append_nil] at ht
            rw [← ht] at hc
            simpa using List.all_eq_true.1 List.all_takeWhile c hc
          | cons d r =>
            by_cases hn : d = '\n'
            · subst hn
              rfl
            · rw [List.cons_append]
              split
              · rename_i he
                exact absurd (List.cons.inj he).1 hn
              · split
                · rename_i he
                  exact absurd (List.cons.inj he).1 hn
                · rfl
        · rfl
    · rw [List.cons_append, hereStringHead?, hereStringHead?]
      · rfl
      · exact fun _ _ h => hc (List.cons.inj h).1
      · exact fun _ _ h => hc (List.cons.inj h).1

theorem hereStringBody_longer {opened text body rest : List Char} {quote : Char}
    (h : hereStringBody opened quote text = .ok (body, rest)) (opened' u : List Char) :
    hereStringBody opened' quote (text ++ u) = .ok (body, rest ++ u) := by
  unfold hereStringBody at h ⊢
  split at h
  · rename_i hc
    cases h
    rw [← List.cons_append, Text.cut?_append (by simp) hc]
  · cases h

theorem flatItem_lineFeed {c : Char} {rest after : List Char} (he : Ended (c :: rest))
    (hd : ¬ Dangling (c :: rest)) (h : flatItem c rest = .ok after) (u : List Char) :
    flatItem c (rest ++ '\n' :: u) = .ok (after ++ '\n' :: u) := by
  have hhead := hereStringHead?_lineFeed hd u
  rw [List.cons_append] at hhead
  unfold flatItem at h ⊢
  rw [hhead]
  split at h
  · rename_i hc
    obtain ⟨out, ho, rfl⟩ := ok_of_map h
    rw [if_pos hc, singleQuotedBody_lineFeed ho]
    rfl
  · rename_i hc
    rw [if_neg hc]
    cases hh : hereStringHead? (c :: rest) with
    | some head =>
      rw [hh] at h
      obtain ⟨out, ho, rfl⟩ := ok_of_map h
      show (hereStringBody _ head.1 (head.2 ++ '\n' :: u)).map (·.2) = _
      rw [hereStringBody_longer ho]
      rfl
    | none =>
      rw [hh] at h
      dsimp only [Option.map_none] at h ⊢
      split at h
      · rename_i hc
        cases h
        rw [if_pos hc, skipLineComment_lineFeed]
      · rename_i hc
        have hmark := head?_lineFeed (c := '#') (by decide) rest u
        rw [if_neg hc]
        split at h
        · rename_i hb
          rw [if_pos ⟨hb.1, hmark.2 hb.2⟩, ← List.cons_append, skipBlockComment_append h]
        · rename_i hb
          rw [if_neg fun hb' => hb ⟨hb'.1, hmark.1 hb'.2⟩]
          split at h
          · rename_i hc
            cases h
            rw [if_pos hc, List.drop_append_of_le_length]
            cases rest with
            | nil =>
              rw [hc] at he
              exact absurd rfl he
            | cons d t => exact Nat.succ_le_succ (Nat.zero_le _)
          · rename_i hc
            cases h
            rw [if_neg hc]

/-- A frame of a text that goes on with `u`. -/
def Frame.widened (u : List Char) : Frame → Frame
  | .group closer opened => .group closer (opened ++ u)
  | .string opened => .string (opened ++ u)

theorem stringStep_lineFeed {c : Char} {rest : List Char} (he : Ended (c :: rest))
    (opened u : List Char) :
    stringStep (opened ++ '\n' :: u) c (rest ++ '\n' :: u) =
      ((stringStep opened c rest).1.map (Frame.widened ('\n' :: u)),
        (stringStep opened c rest).2 ++ '\n' :: u) := by
  unfold stringStep
  split
  · rename_i hc
    cases rest with
    | nil =>
      rw [hc] at he
      exact absurd rfl he
    | cons d t => rfl
  · split
    · cases rest with
      | nil => rfl
      | cons d t =>
        by_cases hd : d = '('
        · subst hd
          rfl
        · rw [List.cons_append]
          split
          · rename_i h
            exact absurd (List.cons.inj h).1 hd
          · split
            · rename_i h
              exact absurd (List.cons.inj h).1 hd
            · rfl
    · split
      · cases rest with
        | nil => rfl
        | cons d t =>
          by_cases hd : d = '"'
          · subst hd
            rfl
          · rw [List.cons_append]
            split
            · rename_i h
              exact absurd (List.cons.inj h).1 hd
            · split
              · rename_i h
                exact absurd (List.cons.inj h).1 hd
              · rfl
      · rfl

theorem groupStep_lineFeed {closer c : Char} {opened rest after : List Char} {top : List Frame}
    (he : Ended (c :: rest)) (hd : ¬ Dangling (c :: rest))
    (h : groupStep closer opened c rest = .ok (top, after)) (u : List Char) :
    groupStep closer (opened ++ '\n' :: u) c (rest ++ '\n' :: u) =
      .ok (top.map (Frame.widened ('\n' :: u)), after ++ '\n' :: u) := by
  unfold groupStep at h ⊢
  split at h
  · cases h
    rfl
  · split at h
    · rename_i hcl
      rw [if_pos hcl]
      split at h
      · rename_i heq
        cases h
        rw [if_pos heq]
        rfl
      · cases h
    · rename_i hcl
      rw [if_neg hcl]
      split at h
      · rename_i hq
        cases h
        rw [if_pos hq]
        rfl
      · rename_i hq
        obtain ⟨out, ho, hout⟩ := ok_of_map h
        cases hout
        rw [if_neg hq, flatItem_lineFeed he hd ho]
        rfl

/-- A string of blanks alone has no end. -/
theorem closeAll_string_blanks {blanks : List Char} (hb : ∀ c ∈ blanks, c = ' ' ∨ c = '\t')
    (opened : List Char) (frames : List Frame) :
    closeAll (.string opened :: frames) blanks = .error (Frame.string opened).unclosed := by
  induction blanks with
  | nil => rw [closeAll]
  | cons c blanks ih =>
    obtain ⟨hc, hb⟩ := List.forall_mem_cons.1 hb
    have hstep : (Frame.string opened).step c blanks = .ok ([.string opened], blanks) := by
      rcases hc with rfl | rfl <;> rfl
    rw [closeAll_step hstep]
    exact ih hb

theorem singleQuotedBody_blanks {blanks : List Char} (hb : ∀ c ∈ blanks, c = ' ' ∨ c = '\t')
    (opened : List Char) :
    singleQuotedBody opened blanks = .error (.problem (.openString "'") opened []) := by
  induction blanks with
  | nil => rfl
  | cons c blanks ih =>
    obtain ⟨hc, hb⟩ := List.forall_mem_cons.1 hb
    have hne : c ≠ '\'' := by rcases hc with rfl | rfl <;> decide
    rw [singleQuotedBody, ih hb]
    · rfl
    · exact fun _ h _ => absurd h hne
    · exact hne

/-- A dangling head is no here-string. -/
theorem hereStringHead?_dangling {text : List Char} (h : Dangling text) :
    hereStringHead? text = none := by
  obtain ⟨quote, blanks, rfl, -, hb⟩ := h
  have hdrop : blanks.dropWhile (fun c => c == ' ' || c == '\t') = [] := by
    induction blanks with
    | nil => rfl
    | cons c blanks ih =>
      obtain ⟨hc, hb⟩ := List.forall_mem_cons.1 hb
      rw [List.dropWhile_cons_of_pos (by simpa using hc), ih hb]
  rw [hereStringHead?, hdrop]
  split <;> rfl

theorem flatItem_dangling {quote : Char} {blanks : List Char} (hq : quote = '\'' ∨ quote = '"')
    (hb : ∀ c ∈ blanks, c = ' ' ∨ c = '\t') :
    flatItem '@' (quote :: blanks) = .ok (quote :: blanks) := by
  unfold flatItem
  rw [hereStringHead?_dangling ⟨quote, blanks, rfl, hq, hb⟩]
  rcases hq with rfl | rfl <;> rfl

/-- Inside a group the quote of a dangling head opens a string that has no end. -/
theorem closeAll_dangling {closer c : Char} {opened rest after : List Char} {frames top : List Frame}
    (hd : Dangling (c :: rest)) (h : (Frame.group closer opened).step c rest = .ok (top, after))
    (found : List Char) : closeAll (top ++ frames) after ≠ .ok found := by
  obtain ⟨quote, blanks, he, hq, hb⟩ := hd
  cases he
  have hstep : (Frame.group closer opened).step '@' (quote :: blanks) =
      .ok ([.group closer opened], quote :: blanks) := by
    show (flatItem '@' (quote :: blanks)).map _ = _
    rw [flatItem_dangling hq hb]
    rfl
  cases hstep.symm.trans h
  intro hclose
  rcases hq with rfl | rfl
  · have hfail : (Frame.group closer opened).step '\'' blanks =
        .error (.problem (.openString "'") ('\'' :: blanks) []) := by
      show ((singleQuotedBody ('\'' :: blanks) blanks).map _).map _ = _
      rw [singleQuotedBody_blanks hb]
      rfl
    cases (closeAll_fails hfail).symm.trans hclose
  · have hopen : (Frame.group closer opened).step '"' blanks =
        .ok ([.string ('"' :: blanks), .group closer opened], blanks) := rfl
    cases (closeAll_string_blanks hb _ _).symm.trans ((closeAll_step hopen).symm.trans hclose)

theorem closeAll_lineFeed {frames : List Frame} {text rest : List Char} (he : Ended text)
    (h : closeAll frames text = .ok rest) (u : List Char) :
    closeAll (frames.map (Frame.widened ('\n' :: u))) (text ++ '\n' :: u) =
      .ok (rest ++ '\n' :: u) := by
  fun_induction closeAll frames text with
  | case1 text =>
    cases h
    rw [List.map_nil, closeAll]
  | case2 => cases h
  | case3 frame frames c t top after hs ih =>
    have hstep : (frame.widened ('\n' :: u)).step c (t ++ '\n' :: u) =
        .ok (top.map (Frame.widened ('\n' :: u)), after ++ '\n' :: u) := by
      cases frame with
      | string opened =>
        have hw := stringStep_lineFeed he opened u
        rw [Except.ok.inj hs] at hw
        exact congrArg Except.ok hw
      | group closer opened =>
        by_cases hd : Dangling (c :: t)
        · exact absurd h (closeAll_dangling hd hs rest)
        · exact groupStep_lineFeed he hd hs u
    rw [List.map_cons, List.cons_append, closeAll_step hstep, ← List.map_append]
    exact ih (he.tail.suffix (Frame.step_suffix hs)) h
  | case4 => cases h

theorem groupRest_lineFeed {closer c : Char} {t rest : List Char} (he : Ended (c :: t))
    (h : groupRest closer (c :: t) = .ok rest) (u : List Char) :
    groupRest closer (c :: t ++ '\n' :: u) = .ok (rest ++ '\n' :: u) :=
  closeAll_lineFeed he.tail h u

theorem doubleQuotedRest_lineFeed {c : Char} {t rest : List Char} (he : Ended (c :: t))
    (h : doubleQuotedRest (c :: t) = .ok rest) (u : List Char) :
    doubleQuotedRest (c :: t ++ '\n' :: u) = .ok (rest ++ '\n' :: u) :=
  closeAll_lineFeed he.tail h u

/-! ## Text that is passed over -/

/-- A line feed stops, and quotes do not. -/
structure StopsLine (stops : Char → Bool) : Prop where
  lineFeed : stops '\n' = true
  quotes : ∀ quote, quote = '\'' ∨ quote = '"' → stops quote = false

theorem stopsLine_endsElement : StopsLine endsElement :=
  ⟨rfl, fun _ h => by rcases h with rfl | rfl <;> rfl⟩

theorem stopsLine_endsStatement : StopsLine endsStatement :=
  ⟨rfl, fun _ h => by rcases h with rfl | rfl <;> rfl⟩

theorem stopsLine_endsEntry : StopsLine endsEntry :=
  ⟨rfl, fun _ h => by rcases h with rfl | rfl <;> rfl⟩

/-- A text stops where it stopped if its end stops. -/
theorem stopped_lineFeed {stops : Char → Bool} (hs : stops '\n' = true) (text u : List Char) :
    stopped stops (text ++ '\n' :: u) = stopped stops text := by
  cases text with
  | nil => exact hs
  | cons c t => rfl

theorem rawItem_lineFeed {c : Char} {rest after : List Char} (he : Ended (c :: rest))
    (hd : ¬ Dangling (c :: rest)) (h : rawItem c rest = .ok after) (u : List Char) :
    rawItem c (rest ++ '\n' :: u) = .ok (after ++ '\n' :: u) := by
  unfold rawItem at h ⊢
  split at h
  · exact groupRest_lineFeed he h u
  · split at h
    · cases h
    · rename_i hc
      rw [if_neg hc]
      split at h
      · rename_i hq
        rw [if_pos hq]
        exact doubleQuotedRest_lineFeed he h u
      · rename_i hq
        rw [if_neg hq]
        exact flatItem_lineFeed he hd h u

section

variable {stops : Char → Bool} (hs : StopsLine stops)
include hs

/-- The quote of a dangling head opens a string that has no end. -/
theorem rawRest_dangling {c : Char} {rest after : List Char} (hd : Dangling (c :: rest))
    (h : rawItem c rest = .ok after) (found : List Char) : rawRest stops after ≠ .ok found := by
  obtain ⟨quote, blanks, he, hq, hb⟩ := hd
  cases he
  have hitem : rawItem '@' (quote :: blanks) = .ok (quote :: blanks) := flatItem_dangling hq hb
  cases hitem.symm.trans h
  intro hraw
  have hstop := hs.quotes quote hq
  rcases hq with rfl | rfl
  · have hfail : rawItem '\'' blanks = .error (.problem (.openString "'") ('\'' :: blanks) []) := by
      show (singleQuotedBody ('\'' :: blanks) blanks).map _ = _
      rw [singleQuotedBody_blanks hb]
      rfl
    cases (rawRest_fails hstop hfail).symm.trans hraw
  · have hfail : rawItem '"' blanks = .error (Frame.string ('"' :: blanks)).unclosed :=
      closeAll_string_blanks hb _ _
    cases (rawRest_fails hstop hfail).symm.trans hraw

theorem rawRest_lineFeed {text rest : List Char} (he : Ended text) (h : rawRest stops text = .ok rest)
    (u : List Char) : rawRest stops (text ++ '\n' :: u) = .ok (rest ++ '\n' :: u) := by
  fun_induction rawRest stops text with
  | case1 =>
    cases h
    exact rawRest_stop hs.lineFeed u
  | case2 c t hc =>
    cases h
    exact rawRest_stop hc _
  | case3 c t hc after ha ih =>
    have hd : ¬ Dangling (c :: t) := fun hd => rawRest_dangling hs hd ha rest h
    rw [List.cons_append, rawRest_step (by simpa using hc) (rawItem_lineFeed he hd ha u)]
    exact ih (he.tail.suffix (rawItem_suffix ha)) h
  | case4 => cases h

theorem rawBehind_lineFeed {c : Char} {t rest : List Char} (he : Ended (c :: t))
    (h : rawBehind stops c t = .ok rest) (u : List Char) :
    rawBehind stops c (t ++ '\n' :: u) = .ok (rest ++ '\n' :: u) := by
  unfold rawBehind at h ⊢
  cases hi : rawItem c t with
  | error fault =>
    rw [hi] at h
    cases h
  | ok after =>
    rw [hi] at h
    have hd : ¬ Dangling (c :: t) := fun hd => rawRest_dangling hs hd hi rest h
    rw [rawItem_lineFeed he hd hi]
    exact rawRest_lineFeed hs (he.tail.suffix (rawItem_suffix hi)) h u

end

/-! ## Words and names -/

theorem wordRest_lineFeed {text : List Char} (he : Ended text) (u : List Char) :
    wordRest (text ++ '\n' :: u) = wordRest text ++ '\n' :: u := by
  fun_induction wordRest text with
  | case1 => rfl
  | case2 => rfl
  | case3 => exact absurd rfl he
  | case4 c rest hn ih =>
    rw [List.cons_append, List.cons_append, wordRest]
    · exact ih he.tail.tail
    · exact hn
  | case5 c rest _ hnil hcons hc =>
    have hb : c ≠ '`' := by
      intro hb
      cases rest with
      | nil => exact hnil hb rfl
      | cons d t => exact hcons d t hb rfl
    rw [List.cons_append, wordRest_plain hb, if_pos hc]
  | case6 c rest _ hnil hcons hc ih =>
    have hb : c ≠ '`' := by
      intro hb
      cases rest with
      | nil => exact hnil hb rfl
      | cons d t => exact hcons d t hb rfl
    rw [List.cons_append, wordRest_plain hb, if_neg hc]
    exact ih he.tail

theorem isNameChar_lineFeed : isNameChar '\n' = false := by decide +kernel

theorem isNameStart_lineFeed : isNameStart '\n' = false := by decide +kernel

theorem takeName_lineFeed (text u : List Char) : takeName (text ++ '\n' :: u) = takeName text := by
  rw [takeName, takeWhile_lineFeed isNameChar_lineFeed, takeName]

theorem dropName_lineFeed (text u : List Char) :
    dropName (text ++ '\n' :: u) = dropName text ++ '\n' :: u :=
  dropWhile_lineFeed isNameChar_lineFeed text u

theorem startsName_lineFeed (text u : List Char) :
    startsName (text ++ '\n' :: u) = startsName text := by
  cases text with
  | nil => exact isNameChar_lineFeed
  | cons c t => rfl

theorem foldedWord_lineFeed (text u : List Char) :
    foldedWord (text ++ '\n' :: u) = foldedWord text := by
  rw [foldedWord, takeWhile_lineFeed (by decide +kernel), foldedWord]

theorem startsKeyword_lineFeed (c : Char) (t u : List Char) :
    startsKeyword (c :: t ++ '\n' :: u) = startsKeyword (c :: t) := by
  have h := foldedWord_lineFeed (c :: t) u
  rw [List.cons_append] at h ⊢
  rw [startsKeyword, h, startsKeyword]

theorem startsClause_lineFeed (text u : List Char) :
    startsClause (text ++ '\n' :: u) = startsClause text := by
  rw [startsClause, foldedWord_lineFeed, startsClause]
  cases text with
  | nil => rfl
  | cons c t => rfl

/-! ## Variables -/

theorem variableName?_lineFeed {rest : List Char} {out : Option (String × Option String × List Char)}
    (h : variableName? rest = .ok out) (u : List Char) :
    variableName? (rest ++ '\n' :: u) =
      .ok (out.map fun (name, drive, after) => (name, drive, after ++ '\n' :: u)) := by
  cases rest with
  | nil =>
    cases h
    rw [List.nil_append, variableName?_named (by decide), isNameChar_lineFeed]
    rfl
  | cons c after =>
    by_cases hc : c = '\x7b'
    · subst hc
      rw [variableName?] at h
      rw [List.cons_append, variableName?]
      split at h
      · rename_i hcut
        cases h
        rw [Text.cut?_append (by simp) hcut]
        rfl
      · cases h
    · have hdrop : dropName (c :: (after ++ '\n' :: u)) = dropName (c :: after) ++ '\n' :: u :=
        dropName_lineFeed (c :: after) u
      have htake : takeName (c :: (after ++ '\n' :: u)) = takeName (c :: after) :=
        takeName_lineFeed (c :: after) u
      have hstarts := startsName_lineFeed after u
      rw [List.cons_append]
      by_cases hs : (c = '$' || c = '^' || (c = '?' && !startsName after)) = true
      · rw [variableName?_named hc, if_pos hs] at h
        cases h
        rw [variableName?_named hc, hstarts, if_pos hs]
        rfl
      by_cases hn : isNameChar c = true
      · by_cases hd : ∃ behind, dropName (c :: after) = ':' :: behind
        · obtain ⟨behind, hd⟩ := hd
          rw [variableName?_drive hc hs hn hd] at h
          rw [hd, List.cons_append] at hdrop
          rw [variableName?_drive hc (hstarts.symm ▸ hs) hn hdrop, startsName_lineFeed,
            takeName_lineFeed, dropName_lineFeed, htake]
          split at h <;> rename_i hb <;> cases h
          · rw [if_pos hb]
            rfl
          · rw [if_neg hb]
            rfl
        · have hcolon := fun behind hb => hd ⟨behind, hb⟩
          have hcolon' := ne_cons_lineFeed hcolon (by decide) u
          rw [variableName?_plain hc hs hn hcolon] at h
          cases h
          rw [← hdrop] at hcolon'
          rw [variableName?_plain hc (hstarts.symm ▸ hs) hn hcolon', hdrop, htake]
          rfl
      · rw [variableName?_named hc, if_neg hs, if_neg hn] at h
        cases h
        rw [variableName?_named hc, hstarts, if_neg hs, if_neg hn]
        rfl

theorem memberItem?_lineFeed {text : List Char} {out : Option (List Char)} (he : Ended text)
    (h : memberItem? text = .ok out) (u : List Char) :
    memberItem? (text ++ '\n' :: u) = .ok (out.map (· ++ '\n' :: u)) := by
  by_cases hdot : ∃ c t, text = '.' :: c :: t ∧ isNameStart c = true
  · obtain ⟨c, t, rfl, hc⟩ := hdot
    have hdrop : dropName (c :: (t ++ '\n' :: u)) = dropName (c :: t) ++ '\n' :: u :=
      dropName_lineFeed (c :: t) u
    rw [List.cons_append, List.cons_append]
    by_cases ha : ∃ arguments, dropName (c :: t) = '(' :: arguments
    · obtain ⟨arguments, ha⟩ := ha
      have hs := he.tail.suffix (dropName_suffix (c :: t))
      rw [ha] at hs hdrop
      rw [memberItem?_call hc ha] at h
      obtain ⟨rest, hr, rfl⟩ := ok_of_map h
      have hg := groupRest_lineFeed hs hr u
      rw [List.cons_append] at hg hdrop
      rw [memberItem?_call hc hdrop, hg]
      rfl
    · have hparen := fun arguments h => ha ⟨arguments, h⟩
      have hparen' := ne_cons_lineFeed hparen (by decide) u
      rw [memberItem?_name hc hparen] at h
      cases h
      rw [← hdrop] at hparen'
      rw [memberItem?_name hc hparen', hdrop]
      rfl
  by_cases hindex : ∃ t, text = '[' :: t
  · obtain ⟨t, rfl⟩ := hindex
    obtain ⟨rest, hr, rfl⟩ := ok_of_map h
    have hg := groupRest_lineFeed he hr u
    rw [List.cons_append] at hg ⊢
    rw [memberItem?, hg]
    rfl
  · have hname : ∀ c t, text = '.' :: c :: t → isNameStart c = false :=
      fun c t ht => Bool.eq_false_iff.2 fun hc => hdot ⟨c, t, ht, hc⟩
    have hbracket := fun t ht => hindex ⟨t, ht⟩
    rw [memberItem?_none hname hbracket] at h
    cases h
    refine memberItem?_none (fun c t ht => ?_) (ne_cons_lineFeed hbracket (by decide) u)
    -- A dot at the end of the text is followed by the line feed, which starts no name.
    rcases text with _ | ⟨d, _ | ⟨e, text⟩⟩
    · cases ht
    · cases ht
      exact isNameStart_lineFeed
    · cases ht
      exact hname _ _ rfl

theorem membersRest_lineFeed {text rest : List Char} (he : Ended text)
    (h : membersRest text = .ok rest) (u : List Char) :
    membersRest (text ++ '\n' :: u) = .ok (rest ++ '\n' :: u) := by
  fun_induction membersRest text with
  | case1 text r hr ih =>
    rw [membersRest_step (memberItem?_lineFeed he hr u)]
    exact ih (he.suffix (memberItem?_suffix hr).1) h
  | case2 text hr =>
    cases h
    exact membersRest_done (memberItem?_lineFeed he hr u)
  | case3 => cases h
end PageScript.Script

namespace PageScript.Numeral

/-! ## Number literals -/

theorem takeSign_lineFeed (text u : List Char) :
    takeSign (text ++ '\n' :: u) = ((takeSign text).1, (takeSign text).2 ++ '\n' :: u) := by
  cases text with
  | nil => rfl
  | cons c t =>
    by_cases hm : c = '-'
    · subst hm
      rfl
    · by_cases hp : c = '+'
      · subst hp
        rfl
      · rw [List.cons_append, takeSign, takeSign]
        · rfl
        · exact fun _ h => hm (List.cons.inj h).1
        · exact fun _ h => hp (List.cons.inj h).1
        · exact fun _ h => hm (List.cons.inj h).1
        · exact fun _ h => hp (List.cons.inj h).1

section

variable {value? : Char → Option Nat} (hv : value? '\n' = none) (text u : List Char)
include hv

theorem takeDigits_lineFeed :
    takeDigits value? (text ++ '\n' :: u) =
      ((takeDigits value? text).1, (takeDigits value? text).2 ++ '\n' :: u) := by
  induction text with
  | nil =>
    show takeDigits value? ('\n' :: u) = ([], '\n' :: u)
    rw [takeDigits, hv]
  | cons c t ih =>
    rw [List.cons_append, takeDigits, takeDigits, ih]
    cases value? c <;> rfl

theorem takeExponent_lineFeed :
    takeExponent value? (text ++ '\n' :: u) =
      ((takeExponent value? text).1, (takeExponent value? text).2 ++ '\n' :: u) := by
  cases text with
  | nil => rfl
  | cons c t =>
    rw [List.cons_append, takeExponent, takeExponent, takeSign_lineFeed]
    split
    · dsimp only
      rw [takeDigits_lineFeed hv]
      obtain ⟨digits, after⟩ := takeDigits value? (takeSign t).2
      cases digits <;> rfl
    · rfl

theorem takeFraction_lineFeed (bare : Bool) :
    takeFraction value? bare (text ++ '\n' :: u) =
      ((takeFraction value? bare text).1, (takeFraction value? bare text).2 ++ '\n' :: u) := by
  cases text with
  | nil => rfl
  | cons c t =>
    by_cases hc : c = '.'
    · subst hc
      rw [List.cons_append, takeFraction, takeFraction, takeDigits_lineFeed hv]
      obtain ⟨digits, after⟩ := takeDigits value? t
      cases digits
      · cases bare <;> rfl
      · rfl
    · rw [List.cons_append, takeFraction, takeFraction]
      · rfl
      · exact fun _ h => hc (List.cons.inj h).1
      · exact fun _ h => hc (List.cons.inj h).1

end

theorem decimalValue?_lineFeed : Text.decimalValue? '\n' = none := by decide +kernel

theorem takeDecimal?_lineFeed (negative : Bool) (text u : List Char) :
    takeDecimal? negative (text ++ '\n' :: u) =
      (takeDecimal? negative text).map fun out => (out.1, out.2 ++ '\n' :: u) := by
  unfold takeDecimal? takeDecimals
  rw [takeDigits_lineFeed decimalValue?_lineFeed]
  dsimp only
  rw [takeFraction_lineFeed decimalValue?_lineFeed]
  dsimp only
  rw [takeExponent_lineFeed decimalValue?_lineFeed]
  dsimp only
  split <;> rfl

/-- The literal at the start of a text does not reach over a line feed. -/
theorem take?_lineFeed (text u : List Char) :
    Literal.take? (text ++ '\n' :: u) =
      (Literal.take? text).map fun out => (out.1, out.2 ++ '\n' :: u) := by
  obtain ⟨negative, body, hs⟩ : ∃ negative body, takeSign text = (negative, body) := ⟨_, _, rfl⟩
  have hsign : takeSign (text ++ '\n' :: u) = (negative, body ++ '\n' :: u) := by
    rw [takeSign_lineFeed, hs]
  have hdecimal := takeDecimal?_lineFeed negative body u
  by_cases hmark : ∃ x rest, body = '0' :: x :: rest ∧ (x = 'x' || x = 'X') = true
  · obtain ⟨x, rest, rfl, hx⟩ := hmark
    have hdigits := takeDigits_lineFeed (show hexValue? '\n' = none from rfl) rest u
    rw [List.cons_append, List.cons_append] at hsign
    rw [Literal.take?_marked hs hx, Literal.take?_marked hsign hx, hdigits]
    split
    · exact hdecimal
    · rfl
  · have hplain : ∀ x rest, body = '0' :: x :: rest → (x = 'x' || x = 'X') = false :=
      fun x rest hb => Bool.eq_false_iff.2 fun hx => hmark ⟨x, rest, hb, hx⟩
    -- The line feed does not complete the mark of a hexadecimal literal.
    have hplain' : ∀ x rest, body ++ '\n' :: u = '0' :: x :: rest →
        (x = 'x' || x = 'X') = false := by
      intro x rest hb
      rcases body with _ | ⟨c, _ | ⟨d, t⟩⟩
      · cases hb
      · cases hb
        rfl
      · cases hb
        exact hplain _ _ rfl
    rw [Literal.take?_decimal hs hplain, Literal.take?_decimal hsign hplain']
    exact hdecimal

end PageScript.Numeral
