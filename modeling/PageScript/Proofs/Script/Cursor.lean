import PageScript.Proofs.Script.Faults
import PageScript.Proofs.Script.Grouping
import PageScript.Proofs.Text.Position

/-!
# Cursors move forward

An operation of the cursor leaves it in the script, where it was or further on, whether it has a
result or not, and the text from there on is the one that the reader has left. What the readers leave
is a tail of what they were given, and their faults name tails as well (`Fault.Within`), so it is
enough to look at the texts that are left (`run_steady`). The second part is about the lines and
columns that a cursor reports: they are in the same order as the offsets, and every line and column
of the script belongs to one offset.
-/

namespace PageScript.Script

/-! ## Readers that only complain -/

section

variable {α β : Type}

/-- If this fails, it is because something is wrong with the script. -/
def OnlyProblems (x : Except Fault α) : Prop := ∀ fault, x ≠ .error (.numeral fault)

theorem OnlyProblems.ok (a : α) : OnlyProblems (.ok a) := by
  intro fault h
  cases h

theorem OnlyProblems.problem (what : Problem) (site rest : List Char) :
    OnlyProblems (α := α) (.error (.problem what site rest)) := by
  intro fault h
  cases h

theorem OnlyProblems.map {x : Except Fault α} (h : OnlyProblems x) (f : α → β) :
    OnlyProblems (x.map f) := by
  cases x with
  | ok a => exact .ok (f a)
  | error found =>
    intro fault hf
    cases hf
    exact h fault rfl

theorem onlyProblems_of_openComment {x : Except Fault α} {text : List Char}
    (h : ∀ fault, x = .error fault → OpenComment text fault) : OnlyProblems x := by
  intro fault hf
  obtain ⟨site, -, he⟩ := h _ hf
  cases he

end

theorem singleQuotedBody_onlyProblems (opened text : List Char) :
    OnlyProblems (singleQuotedBody opened text) := by
  fun_induction singleQuotedBody opened text with
  | case1 rest ih => exact ih.map _
  | case2 => exact .ok _
  | case3 c rest _ _ ih => exact ih.map _
  | case4 => exact .problem _ _ _

theorem hereStringBody_onlyProblems (opened : List Char) (quote : Char) (text : List Char) :
    OnlyProblems (hereStringBody opened quote text) := by
  unfold hereStringBody
  split
  · exact .ok _
  · exact .problem _ _ _

theorem flatItem_onlyProblems (c : Char) (rest : List Char) : OnlyProblems (flatItem c rest) := by
  unfold flatItem
  split
  · exact (singleQuotedBody_onlyProblems _ _).map _
  · split
    · exact (hereStringBody_onlyProblems _ _ _).map _
    · split
      · exact .ok _
      · split
        · exact onlyProblems_of_openComment fun _ h => skipBlockComment_error h
        · split <;> exact .ok _

theorem step_onlyProblems (c : Char) (rest : List Char) (frame : Frame) :
    OnlyProblems (frame.step c rest) := by
  cases frame with
  | string opened => exact .ok _
  | group closer opened =>
    rw [Frame.step]
    unfold groupStep
    split
    · exact .ok _
    · split
      · split
        · exact .ok _
        · exact .problem _ _ _
      · split
        · exact .ok _
        · exact (flatItem_onlyProblems c rest).map _

theorem closeAll_onlyProblems (frames : List Frame) (text : List Char) :
    OnlyProblems (closeAll frames text) := by
  fun_induction closeAll frames text with
  | case1 => exact .ok _
  | case2 frame frames => cases frame <;> exact .problem _ _ _
  | case3 frame frames c rest top after hs ih => exact ih
  | case4 frame frames c rest found hs =>
    intro fault h
    cases h
    exact step_onlyProblems c rest frame fault hs

/-! ## How far the readers get -/

/-- What is open takes at least a character to close. -/
theorem closeAll_shorter {frame : Frame} {frames : List Frame} {text rest : List Char}
    (h : closeAll (frame :: frames) text = .ok rest) : rest.length < text.length := by
  cases text with
  | nil =>
    rw [closeAll] at h
    cases h
  | cons c tail =>
    cases hs : frame.step c tail with
    | error fault =>
      rw [closeAll_fails hs] at h
      cases h
    | ok out =>
      rw [closeAll_step hs] at h
      have := ((closeAll_suffix h).trans (Frame.step_suffix hs)).length_le
      rw [List.length_cons]
      omega

/-- Behind its first line a here-string goes on for two characters or more. -/
theorem hereStringBody_shorter {opened text body rest : List Char} {quote : Char}
    (h : hereStringBody opened quote text = .ok (body, rest)) : rest.length + 2 ≤ text.length := by
  unfold hereStringBody at h
  split at h
  · rename_i found left hc
    cases h
    have := congrArg List.length (Text.eq_of_cut? hc)
    simp only [List.length_append, List.length_cons, List.length_nil] at this
    omega
  · cases h

/-- Neither a blank nor a comment nor a continued line end starts here. -/
def PastBlanks (text : List Char) : Prop :=
  ∀ c rest, text = c :: rest → isInlineBlank c = false ∧ c ≠ '#' ∧
    (c = '<' → rest.head? ≠ some '#') ∧ (c = '`' → rest.head? ≠ some '\n')

theorem skipInline_past {text rest : List Char} (h : skipInline text = .ok rest) :
    PastBlanks rest := by
  fun_induction skipInline text generalizing rest with
  | case1 =>
    cases h
    intro c rest he
    cases he
  | case2 c t _ ih => exact ih h
  | case3 t _ ih => exact ih h
  | case4 u _ _ ih => exact ih h
  | case5 u r hr _ _ ih => exact ih h
  | case6 => cases h
  | case7 c t hb hc hcontinued hcomment =>
    cases h
    intro d rest he
    cases he
    refine ⟨Bool.eq_false_iff.2 hb, hc, ?_, ?_⟩
    · intro hd hh
      obtain ⟨behind, rfl⟩ := List.head?_eq_some_iff.1 hh
      exact hcomment behind hd rfl
    · intro hd hh
      obtain ⟨behind, rfl⟩ := List.head?_eq_some_iff.1 hh
      exact hcontinued behind hd rfl

theorem skipBlanks_past {text rest : List Char} (h : skipBlanks text = .ok rest) :
    PastBlanks rest ∧ rest.head? ≠ some '\n' := by
  fun_induction skipBlanks text generalizing rest with
  | case1 text r hr ih => exact ih h
  | case2 text r hn hr =>
    cases h
    refine ⟨skipInline_past hr, fun hh => ?_⟩
    obtain ⟨behind, rfl⟩ := List.head?_eq_some_iff.1 hh
    exact hn behind rfl
  | case3 => cases h

/-! ## The cursor -/

namespace Cursor

variable {α : Type} {cursor : Cursor}

/-- The second cursor is in the same script, where the first one is or further on, and `left` is the
text from there on. -/
structure Onward (before after : Cursor) (left : List Char) : Prop where
  text : after.text = before.text
  forward : before.offset ≤ after.offset
  inside : after.offset ≤ before.text.length
  rest : after.rest = left

/-- The operation leaves the cursor at the text that a reader has left. It has the result of the
reader, or it finds the script wrong where the reader does, somewhere between the two places. -/
inductive Steady (cursor : Cursor) : Except Fault (α × List Char) → Outcome α → Prop where
  | result {value : α} {left : List Char} {after : Cursor} (h : cursor.Onward after left) :
    Steady cursor (.ok (value, left)) (.ok value, after)
  | problem {what : Problem} {site left : List Char} {place : Nat} {after : Cursor}
    (h : cursor.Onward after left) (hs : cursor.text.drop place = site)
    (hp : cursor.offset ≤ place ∧ place ≤ after.offset) :
    Steady cursor (.error (.problem what site left)) (.error (.problem what place), after)

/-- The cursor is at the end of the script, or at a character that is neither skipped between
statements nor the start of anything that is. -/
def AtContent (cursor : Cursor) : Prop :=
  ∀ c, cursor.peek 0 = some c → isInlineBlank c = false ∧ c ≠ '\n' ∧ c ≠ '#' ∧
    (c = '<' → cursor.peek 1 ≠ some '#') ∧ (c = '`' → cursor.peek 1 ≠ some '\n')

theorem drop_of_suffix {left : List Char} (h : left <:+ cursor.rest) :
    cursor.text.drop (cursor.offsetOf left) = left := by
  obtain ⟨before, hb⟩ := h
  exact drop_offsetOf hb.symm

theorem onward_movedTo (h : cursor.offset ≤ cursor.text.length) {left : List Char}
    (hl : left <:+ cursor.rest) : cursor.Onward (cursor.movedTo left) left := by
  refine ⟨rfl, Nat.le_add_right _ _, ?_, drop_of_suffix hl⟩
  rw [movedTo, offsetOf, rest, List.length_drop]
  dsimp only
  omega

theorem offsetOf_le {site left : List Char} (h : left <:+ site) :
    cursor.offsetOf site ≤ cursor.offsetOf left := by
  have := h.length_le
  rw [offsetOf, offsetOf]
  omega

theorem peek_eq (cursor : Cursor) (ahead : Nat) : cursor.peek ahead = cursor.rest[ahead]? :=
  List.getElem?_drop.symm

/-- An operation that runs a reader is steady if the reader leaves tails, and so do its faults. -/
theorem run_steady {reader : List Char → Except Fault (α × List Char)}
    {read : Except Fault (α × List Char)} (h : cursor.offset ≤ cursor.text.length)
    (hr : reader cursor.rest = read)
    (hl : ∀ value left, read = .ok (value, left) → left <:+ cursor.rest)
    (hf : FaultsIn cursor.rest read) (hn : OnlyProblems read) :
    cursor.Steady read (cursor.run reader) := by
  cases read with
  | ok out =>
    rw [run_ok hr]
    exact .result (onward_movedTo h (hl out.1 out.2 rfl))
  | error found =>
    cases found with
    | numeral fault => exact absurd rfl (hn fault)
    | problem what site left =>
      obtain ⟨inner, outer⟩ := hf _ rfl
      rw [run_problem hr]
      exact .problem (onward_movedTo h (inner.trans outer)) (drop_of_suffix outer)
        ⟨Nat.le_add_right _ _, offsetOf_le inner⟩

theorem skip_steady {reader : List Char → Except Fault (List Char)}
    (h : cursor.offset ≤ cursor.text.length)
    (hl : ∀ left, reader cursor.rest = .ok left → left <:+ cursor.rest)
    (he : ∀ fault, reader cursor.rest = .error fault → OpenComment cursor.rest fault) :
    cursor.Steady ((reader cursor.rest).map ((), ·)) (cursor.skip reader) := by
  refine run_steady h rfl (fun value left hr => ?_)
    (FaultsIn.map _ fun fault hf => (he fault hf).within) ((onlyProblems_of_openComment he).map _)
  obtain ⟨out, ho, hp⟩ := ok_of_map hr
  cases hp
  exact hl _ ho

/-- A reader that leaves two characters less moves the cursor by two. -/
theorem run_far {reader : List Char → Except Fault (α × List Char)} {value : α} {after : Cursor}
    (h : cursor.run reader = (.ok value, after))
    (hl : ∀ left, reader cursor.rest = .ok (value, left) → left.length + 2 ≤ cursor.rest.length) :
    cursor.offset + 2 ≤ after.offset := by
  cases hr : reader cursor.rest with
  | ok out =>
    rw [run_ok hr] at h
    cases h
    have := hl _ hr
    rw [movedTo, offsetOf]
    dsimp only
    omega
  | error found =>
    rw [run, hr] at h
    cases found <;> cases h

theorem readSingleQuoted_steady (h : cursor.offset ≤ cursor.text.length) :
    cursor.Steady ((singleQuoted cursor.rest).map fun out => (String.ofList out.1, out.2))
      cursor.readSingleQuoted := by
  refine run_steady h rfl (fun value left hr => ?_) ((singleQuotedBody_faults _ _).map _)
    ((singleQuotedBody_onlyProblems _ _).map _)
  obtain ⟨out, ho, hp⟩ := ok_of_map hr
  cases hp
  exact (singleQuotedBody_suffix ho).1.trans (List.tail_suffix _)

theorem readSingleQuoted_far {value : String} {after : Cursor}
    (h : cursor.readSingleQuoted = (.ok value, after)) : cursor.offset + 2 ≤ after.offset := by
  refine run_far h fun left hl => ?_
  obtain ⟨out, ho, he⟩ := ok_of_map hl
  cases he
  have := (singleQuotedBody_suffix ho).2
  rw [List.length_tail] at this
  omega

theorem readDoubleQuoted_steady (h : cursor.offset ≤ cursor.text.length) :
    cursor.Steady ((doubleQuoted cursor.rest).map fun out => (String.ofList out.1, out.2))
      cursor.readDoubleQuoted := by
  refine run_steady h rfl (fun value left hr => ?_) (((doubleQuotedRest_faults _).map _).map _)
    (((closeAll_onlyProblems _ _).map _).map _)
  obtain ⟨out, ho, hp⟩ := ok_of_map hr
  cases hp
  obtain ⟨rest, hc, hp⟩ := ok_of_map ho
  cases hp
  exact (closeAll_suffix hc).trans (List.tail_suffix _)

theorem readDoubleQuoted_far {value : String} {after : Cursor}
    (h : cursor.readDoubleQuoted = (.ok value, after)) : cursor.offset + 2 ≤ after.offset := by
  refine run_far h fun left hl => ?_
  obtain ⟨out, ho, he⟩ := ok_of_map hl
  cases he
  obtain ⟨rest, hr, he⟩ := ok_of_map ho
  cases he
  have := closeAll_shorter hr
  rw [List.length_tail] at this
  dsimp only
  omega

theorem readGroup_steady (h : cursor.offset ≤ cursor.text.length) {opener closer : Char}
    (hp : cursor.peek 0 = some opener) (ho : closerOf? opener = some closer) :
    cursor.Steady ((groupRest closer cursor.rest).map fun left =>
        (String.ofList (cursor.rest.take (cursor.rest.length - left.length)), left))
      cursor.readGroup := by
  rw [peek_eq, ← List.head?_eq_getElem?] at hp
  obtain ⟨tail, hr⟩ := List.head?_eq_some_iff.1 hp
  rw [readGroup_eq hr ho]
  refine run_steady h rfl (fun value left hg => ?_) ((groupRest_faults _ _).map _)
    ((closeAll_onlyProblems _ _).map _)
  obtain ⟨rest, hc, he⟩ := ok_of_map hg
  cases he
  exact (closeAll_suffix hc).trans (List.tail_suffix _)

theorem readGroup_far {value : String} {after : Cursor}
    (h : cursor.readGroup = (.ok value, after)) : cursor.offset + 2 ≤ after.offset := by
  obtain ⟨group, rest, hr, hf⟩ := group_of_readGroup h
  rw [readGroup_group hr hf] at h
  cases h
  cases hf with
  | group ho hi =>
    simp only [List.length_cons, List.length_append, List.length_nil]
    omega

theorem readHereString_eq {quote : Char} {body : List Char}
    (h : hereStringHead? cursor.rest = some (quote, body)) :
    cursor.readHereString = cursor.run fun text =>
      (hereStringBody text quote body).map fun out => ((quote, String.ofList out.1), out.2) := by
  obtain ⟨blanks, ho, hr⟩ := opening_of_hereStringHead? h
  have hd : ('@' :: quote :: (blanks ++ '\n' :: body)).dropWhile (· != '\n') = '\n' :: body := by
    rw [← List.cons_append, ← List.cons_append]
    refine List.dropWhile_append_of_pos fun c hc => ?_
    rw [bne_iff_ne]
    rintro rfl
    rcases List.mem_cons.1 hc with hc | hc
    · cases hc
    · rcases List.mem_cons.1 hc with rfl | hc
      · rcases ho.quote with hq | hq <;> cases hq
      · rcases ho.blanks _ hc with hb | hb <;> cases hb
  unfold readHereString
  rw [hr]
  dsimp only
  rw [hd]

theorem readHereString_steady (h : cursor.offset ≤ cursor.text.length) {quote : Char}
    {body : List Char} (hh : hereStringHead? cursor.rest = some (quote, body)) :
    cursor.Steady ((hereStringBody cursor.rest quote body).map fun out =>
        ((quote, String.ofList out.1), out.2))
      cursor.readHereString := by
  rw [readHereString_eq hh]
  refine run_steady h rfl (fun value left hr => ?_) ((hereStringBody_faults _ _ _).map _)
    ((hereStringBody_onlyProblems _ _ _).map _)
  obtain ⟨out, ho, hp⟩ := ok_of_map hr
  cases hp
  exact (hereStringBody_suffix ho).trans (hereStringHead?_suffix hh).1

theorem readHereString_far {value : Char × String} {after : Cursor}
    (h : cursor.readHereString = (.ok value, after)) : cursor.offset + 2 ≤ after.offset := by
  unfold readHereString at h
  split at h
  · rename_i opener quote tail hr
    split at h
    · rename_i first body hd
      refine run_far h fun left hl => ?_
      obtain ⟨out, ho, he⟩ := ok_of_map hl
      cases he
      have hshort := hereStringBody_shorter ho
      have hbody := (hd ▸ List.dropWhile_suffix _ : first :: body <:+ opener :: quote :: tail).length_le
      rw [List.length_cons, ← hr] at hbody
      omega
    · cases h
  · cases h

theorem skipBlanks_atContent {after : Cursor} (h : cursor.skipBlanks = (.ok (), after)) :
    after.AtContent := by
  cases hs : Script.skipBlanks cursor.rest with
  | error found =>
    rw [skipBlanks, skip, run, hs] at h
    cases found <;> cases h
  | ok left =>
    have hm : cursor.skipBlanks = (.ok (), cursor.movedTo left) := by
      rw [skipBlanks, skip, run, hs]
      rfl
    cases hm.symm.trans h
    have hrest : (cursor.movedTo left).rest = left := drop_of_suffix (skipBlanks_suffix hs)
    obtain ⟨past, feed⟩ := skipBlanks_past hs
    intro c hc
    rw [peek_eq, hrest, ← List.head?_eq_getElem?] at hc
    obtain ⟨tail, rfl⟩ := List.head?_eq_some_iff.1 hc
    obtain ⟨hblank, hhash, hcomment, hcontinued⟩ := past c tail rfl
    rw [peek_eq, hrest, List.getElem?_cons_succ, ← List.head?_eq_getElem?]
    exact ⟨hblank, fun he => feed (congrArg some he), hhash, hcomment, hcontinued⟩

/-- No operation moves the cursor back or out of the script, whether it has a result or finds the
script wrong, and each leaves it at the text that its reader has left. Reading a string or a group
moves it by two characters or more, and behind skipped blanks it is at the end or at something that
is not skipped. -/
theorem operations_onward (h : cursor.offset ≤ cursor.text.length) :
    (∀ count, cursor.Onward (cursor.advance count).2 (cursor.rest.drop count)) ∧
    cursor.Steady ((Script.skipInline cursor.rest).map ((), ·)) cursor.skipInline ∧
    cursor.Steady ((Script.skipBlanks cursor.rest).map ((), ·)) cursor.skipBlanks ∧
    cursor.Onward cursor.skipLineComment (Script.skipLineComment cursor.rest) ∧
    cursor.Steady ((Script.skipBlockComment cursor.rest).map ((), ·)) cursor.skipBlockComment ∧
    cursor.Steady ((singleQuoted cursor.rest).map fun out => (String.ofList out.1, out.2))
      cursor.readSingleQuoted ∧
    cursor.Steady ((doubleQuoted cursor.rest).map fun out => (String.ofList out.1, out.2))
      cursor.readDoubleQuoted ∧
    cursor.Onward cursor.readName.2 (dropName cursor.rest) ∧
    (cursor.atHereString = true →
      ∃ quote body, hereStringHead? cursor.rest = some (quote, body) ∧
        cursor.Steady ((hereStringBody cursor.rest quote body).map fun out =>
            ((quote, String.ofList out.1), out.2))
          cursor.readHereString) ∧
    (∀ opener closer, cursor.peek 0 = some opener → closerOf? opener = some closer →
      cursor.Steady ((groupRest closer cursor.rest).map fun left =>
          (String.ofList (cursor.rest.take (cursor.rest.length - left.length)), left))
        cursor.readGroup) ∧
    (∀ value after, cursor.readSingleQuoted = (.ok value, after) →
      cursor.offset + 2 ≤ after.offset) ∧
    (∀ value after, cursor.readDoubleQuoted = (.ok value, after) →
      cursor.offset + 2 ≤ after.offset) ∧
    (∀ value after, cursor.readHereString = (.ok value, after) →
      cursor.offset + 2 ≤ after.offset) ∧
    (∀ value after, cursor.readGroup = (.ok value, after) → cursor.offset + 2 ≤ after.offset) ∧
    ∀ after, cursor.skipBlanks = (.ok (), after) → after.AtContent := by
  refine ⟨fun count => onward_movedTo h (List.drop_suffix count _),
    skip_steady h (fun _ => skipInline_suffix) fun _ => skipInline_error,
    skip_steady h (fun _ => skipBlanks_suffix) fun _ => skipBlanks_error,
    onward_movedTo h (skipLineComment_suffix _), skip_steady h ?_ fun _ => skipBlockComment_error,
    readSingleQuoted_steady h, readDoubleQuoted_steady h, onward_movedTo h (dropName_suffix _), ?_,
    fun _ _ => readGroup_steady h, fun _ _ => readSingleQuoted_far, fun _ _ => readDoubleQuoted_far,
    fun _ _ => readHereString_far, fun _ _ => readGroup_far, fun _ => skipBlanks_atContent⟩
  · intro left hb
    exact (skipBlockComment_suffix hb).trans (List.drop_suffix 2 _)
  · intro hh
    obtain ⟨⟨quote, body⟩, hs⟩ := Option.isSome_iff_exists.1 hh
    exact ⟨quote, body, hs, readHereString_steady h hs⟩

/-- A group that ends in a string, behind a backtick that has no character to take; a here-string; and
blanks with comments of both kinds and a continued line. -/
theorem operations_onward_nearEnd :
    ((Cursor.mk "f(\"$([`".toList 1).Steady
        ((groupRest ')' "(\"$([`".toList).map fun left =>
          (String.ofList ("(\"$([`".toList.take (6 - left.length)), left))
        (Cursor.mk "f(\"$([`".toList 1).readGroup ∧
      (Cursor.mk "f(\"$([`".toList 1).readGroup.2 = ⟨"f(\"$([`".toList, 7⟩) ∧
    (∃ value, (Cursor.mk "@' \n'@".toList 0).readHereString = (.ok value, ⟨"@' \n'@".toList, 6⟩) ∧
      0 + 2 ≤ 6) ∧
    (Cursor.mk "<#`#>#\n`\n\t`x".toList 10).AtContent := by
  refine ⟨⟨?_, by decide +kernel⟩, ?_, ?_⟩
  · exact (operations_onward (by decide)).2.2.2.2.2.2.2.2.2.1 '(' ')' rfl rfl
  · have read : (Cursor.mk "@' \n'@".toList 0).readHereString.1.toOption.map id = some ('\'', "") ∧
        (Cursor.mk "@' \n'@".toList 0).readHereString.2 = ⟨"@' \n'@".toList, 6⟩ := by
      decide +kernel
    obtain ⟨value, hv, rfl⟩ := ok_of_toOption read.1
    exact ⟨_, Prod.ext hv read.2,
      (operations_onward (by decide)).2.2.2.2.2.2.2.2.2.2.2.2.1 _ _ (Prod.ext hv read.2)⟩
  · have skipped : (Cursor.mk "<#`#>#\n`\n\t`x".toList 0).skipBlanks.1.toOption.map id = some () ∧
        (Cursor.mk "<#`#>#\n`\n\t`x".toList 0).skipBlanks.2 =
          ⟨"<#`#>#\n`\n\t`x".toList, 10⟩ := by
      decide +kernel
    obtain ⟨value, hv, -⟩ := ok_of_toOption skipped.1
    exact (operations_onward (by decide)).2.2.2.2.2.2.2.2.2.2.2.2.2.2 _ (Prod.ext hv skipped.2)

/-! ## Lines and columns -/

/-- Lines and columns are in the order of the offsets. The start of the line and the column give the
offset back, and every line and column of the script is that of one offset. -/
theorem position_orders (cursor : Cursor) :
    (∀ m n, m < n → n ≤ cursor.text.length → (cursor.position m).Before (cursor.position n)) ∧
    (∀ n, n ≤ cursor.text.length → (cursor.position n).In cursor.text ∧
      Text.lineOffset ((cursor.position n).line - 1) cursor.text + (cursor.position n).column - 1 = n) ∧
    ∀ place : Text.Position, place.In cursor.text →
      ∃ n, (n ≤ cursor.text.length ∧ cursor.position n = place) ∧
        ∀ other, other ≤ cursor.text.length ∧ cursor.position other = place → other = n := by
  refine ⟨fun m n => Text.position_before, fun n hn => ⟨Text.position_in hn, ?_⟩, fun place hp => ?_⟩
  · have hcolumn := (Text.position_in hn).2.1
    have hoffset := Text.offset_position hn
    rw [Text.Position.offset] at hoffset
    rw [position]
    omega
  · obtain ⟨n, hn, rfl⟩ := Text.exists_offset hp
    refine ⟨n, ⟨hn, rfl⟩, fun other ho => ?_⟩
    rw [← Text.offset_position ho.1, ← Text.offset_position hn]
    exact congrArg (·.offset cursor.text) ho.2

/-- The line feeds around an empty line, the offset behind the last character, and the place there. -/
theorem position_orders_emptyLine :
    ((Cursor.mk ['a', '\n', '\n', 'b'] 0).position 1).Before
      ((Cursor.mk ['a', '\n', '\n', 'b'] 0).position 2) ∧
    ((Cursor.mk ['a', '\n', '\n', 'b'] 0).position 4).In ['a', '\n', '\n', 'b'] ∧
    ∃ n, n ≤ 4 ∧ (Cursor.mk ['a', '\n', '\n', 'b'] 0).position n = ⟨3, 2⟩ := by
  have facts := position_orders (Cursor.mk ['a', '\n', '\n', 'b'] 0)
  have place : Text.Position.In ⟨3, 2⟩ ['a', '\n', '\n', 'b'] :=
    ⟨by decide, by decide, ['b'], rfl, by decide⟩
  obtain ⟨n, found, -⟩ := facts.2.2 ⟨3, 2⟩ place
  exact ⟨facts.1 1 2 (by decide) (by decide), (facts.2.1 4 (by decide)).1, n, found⟩

end Cursor

end PageScript.Script
