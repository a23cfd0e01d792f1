import PageScript.Proofs.Script.FlatItems
import PageScript.Script.Cursor

/-!
# The grammar of groups

A group is an opening bracket, items, and the bracket that closes it; an item is a group again, a string,
a comment, an escaped character or a plain one, and a string in double quotes may hold groups behind a
dollar sign. `Forms` is this grammar.

The reader works on a stack of what is open. `Forms.passes` says that it gets over a part and leaves the
stack as it was, and `closes_of_closeAll` that a stack which it has closed was closed by such parts; so
it reads groups and nothing else.
-/

namespace PageScript.Script

/-- The parts of a group. -/
inductive Part where
  /-- An opening bracket, items and the closing bracket. -/
  | group
  | item
  | items
  /-- What may stand between double quotes. -/
  | quoted

/-- The piece is such a part in front of `rest`. -/
inductive Forms : Part → List Char → List Char → Prop where
  | group {opener closer : Char} {inner rest : List Char} : closerOf? opener = some closer →
    Forms .items inner (closer :: rest) → Forms .group (opener :: (inner ++ [closer])) rest
  | nil (rest : List Char) : Forms .items [] rest
  | cons {first others rest : List Char} : Forms .item first (others ++ rest) →
    Forms .items others rest → Forms .items (first ++ others) rest
  | nested {piece rest : List Char} : Forms .group piece rest → Forms .item piece rest
  | string {body rest : List Char} : Forms .quoted body ('"' :: rest) → rest.head? ≠ some '"' →
    Forms .item ('"' :: (body ++ ['"'])) rest
  | flat {piece rest : List Char} : FlatItem piece rest → Forms .item piece rest
  | empty (rest : List Char) : Forms .quoted [] rest
  | escaped (c : Char) {body rest : List Char} : Forms .quoted body rest →
    Forms .quoted ('`' :: c :: body) rest
  | doubled {body rest : List Char} : Forms .quoted body rest → Forms .quoted ('"' :: '"' :: body) rest
  | subexpression {inner body rest : List Char} : Forms .group ('(' :: inner) (body ++ rest) →
    Forms .quoted body rest → Forms .quoted ('$' :: '(' :: (inner ++ body)) rest
  | plain {c : Char} {body rest : List Char} : c ≠ '`' → c ≠ '"' →
    (c = '$' → (body ++ rest).head? ≠ some '(') → Forms .quoted body rest →
    Forms .quoted (c :: body) rest

/-! ## Steps of the reader -/

section

variable {frames : List Frame} {closer c : Char} {opened rest after : List Char}

theorem closeAll_opener {inner : Char} (h : closerOf? c = some inner) :
    closeAll (.group closer opened :: frames) (c :: rest) =
      closeAll (.group inner (c :: rest) :: .group closer opened :: frames) rest := by
  have step : Frame.step c rest (.group closer opened) =
      .ok ([.group inner (c :: rest), .group closer opened], rest) := by
    rw [Frame.step, groupStep, h]
  exact closeAll_step step

theorem closerOf?_closer {opener : Char} (h : closerOf? opener = some closer) :
    closerOf? closer = none ∧ isCloser closer = true := by
  unfold closerOf? at h
  split at h <;> cases h <;> exact ⟨rfl, rfl⟩

theorem closeAll_closer {opener : Char} (h : closerOf? opener = some closer) :
    closeAll (.group closer opened :: frames) (closer :: rest) = closeAll frames rest := by
  obtain ⟨ho, hc⟩ := closerOf?_closer h
  have step : Frame.step closer rest (.group closer opened) = .ok ([], rest) := by
    rw [Frame.step, groupStep, ho]
    dsimp only
    rw [if_pos hc, if_pos rfl]
  exact closeAll_step step

theorem closeAll_quote :
    closeAll (.group closer opened :: frames) ('"' :: rest) =
      closeAll (.string ('"' :: rest) :: .group closer opened :: frames) rest := by
  have step : Frame.step '"' rest (.group closer opened) =
      .ok ([.string ('"' :: rest), .group closer opened], rest) := rfl
  exact closeAll_step step

theorem closeAll_flat (hs : StartsFlat c) (h : flatItem c rest = .ok after) :
    closeAll (.group closer opened :: frames) (c :: rest) =
      closeAll (.group closer opened :: frames) after := by
  have step : Frame.step c rest (.group closer opened) = .ok ([.group closer opened], after) := by
    rw [Frame.step, groupStep, hs.noOpener]
    dsimp only
    rw [hs.noCloser, if_neg Bool.false_ne_true, if_neg hs.noQuote, h]
    rfl
  exact closeAll_step step

theorem closeAll_string :
    closeAll (.string opened :: frames) (c :: rest) =
      closeAll ((stringStep opened c rest).1 ++ frames) (stringStep opened c rest).2 :=
  closeAll_step rfl

/-- A quote that is not doubled ends a string. -/
theorem stringStep_quote (h : rest.head? ≠ some '"') : stringStep opened '"' rest = ([], rest) := by
  unfold stringStep
  rw [if_neg (by decide), if_neg (by decide), if_pos rfl]
  split
  · exact absurd rfl h
  · rfl

end

/-! ## The reader passes over parts -/

/-- Reading a part leaves the stack as it was. A group is seen from behind its opening bracket, where
its own frame lies on the stack and is taken off. -/
def Part.Passed (piece rest : List Char) : Part → Prop
  | .group => ∃ opener closer tail, piece = opener :: tail ∧ closerOf? opener = some closer ∧
    ∀ opened frames, closeAll (.group closer opened :: frames) (tail ++ rest) = closeAll frames rest
  | .item | .items => ∀ closer opened frames,
    closeAll (.group closer opened :: frames) (piece ++ rest) =
      closeAll (.group closer opened :: frames) rest
  | .quoted => ∀ opened frames,
    closeAll (.string opened :: frames) (piece ++ rest) = closeAll (.string opened :: frames) rest

theorem Forms.passes {part : Part} {piece rest : List Char} (h : Forms part piece rest) :
    part.Passed piece rest := by
  induction h with
  | @group opener closer inner rest ho _ ih =>
    refine ⟨opener, closer, inner ++ [closer], rfl, ho, ?_⟩
    intro opened frames
    rw [List.append_assoc, List.singleton_append, ih closer opened frames, closeAll_closer ho]
  | nil rest =>
    intro closer opened frames
    rfl
  | cons _ _ ihf iho =>
    intro closer opened frames
    rw [List.append_assoc, ihf closer opened frames, iho closer opened frames]
  | nested _ ih =>
    intro closer opened frames
    obtain ⟨opener, inner, tail, rfl, ho, hg⟩ := ih
    rw [List.cons_append, closeAll_opener ho, hg]
  | @string body rest _ hr ih =>
    intro closer opened frames
    rw [List.cons_append, closeAll_quote, List.append_assoc, List.singleton_append, ih, closeAll_string,
      stringStep_quote hr]
    rfl
  | flat hf =>
    intro closer opened frames
    obtain ⟨c, tail, rfl, hs, hr⟩ := hf.read
    rw [List.cons_append, closeAll_flat hs hr]
  | empty rest =>
    intro opened frames
    rfl
  | escaped c _ ih =>
    intro opened frames
    rw [List.cons_append, List.cons_append, closeAll_string]
    exact ih opened frames
  | doubled _ ih =>
    intro opened frames
    rw [List.cons_append, List.cons_append, closeAll_string]
    exact ih opened frames
  | @subexpression inner body rest _ _ ihg ihb =>
    intro opened frames
    obtain ⟨opener, closer, tail, he, ho, hg⟩ := ihg
    obtain ⟨rfl, rfl⟩ := List.cons.inj he
    cases ho
    rw [List.cons_append, List.cons_append, closeAll_string, List.append_assoc]
    exact (hg _ _).trans (ihb opened frames)
  | plain hb hq hd _ ih =>
    intro opened frames
    rw [List.cons_append, closeAll_string, stringStep_other hb hq hd]
    exact ih opened frames

/-! ## What the reader closes is made of parts -/

/-- The text closes everything on the stack, with parts in front of each closing mark, and `rest` is
left. -/
def Closes : List Frame → List Char → List Char → Prop
  | [], text, rest => text = rest
  | .group closer _ :: frames, text, rest =>
    ∃ items middle, text = items ++ closer :: middle ∧ Forms .items items (closer :: middle) ∧
      Closes frames middle rest
  | .string _ :: frames, text, rest =>
    ∃ body middle, text = body ++ '"' :: middle ∧ Forms .quoted body ('"' :: middle) ∧
      middle.head? ≠ some '"' ∧ Closes frames middle rest

section

variable {frames top : List Frame} {closer c : Char} {opened text after rest : List Char}

/-- An item may be put in front of what closes a group. -/
theorem Closes.item {piece : List Char} (hf : Forms .item piece text)
    (h : Closes (.group closer opened :: frames) text rest) :
    Closes (.group closer opened :: frames) (piece ++ text) rest := by
  obtain ⟨items, middle, rfl, hi, hc⟩ := h
  exact ⟨piece ++ items, middle, by rw [List.append_assoc], .cons hf hi, hc⟩

theorem closes_of_groupStep (h : groupStep closer opened c text = .ok (top, after))
    (hc : Closes (top ++ frames) after rest) : Closes (.group closer opened :: frames) (c :: text) rest := by
  unfold groupStep at h
  split at h
  · rename_i inner ho
    cases h
    obtain ⟨items, middle, rfl, hi, hc⟩ := hc
    have hg := Closes.item (.nested (.group ho hi)) hc
    rwa [List.cons_append, List.append_assoc] at hg
  · rename_i ho
    split at h
    · split at h
      · rename_i heq
        cases h
        subst heq
        exact ⟨[], text, rfl, .nil _, hc⟩
      · cases h
    · rename_i hn
      split at h
      · rename_i hq
        cases h
        subst hq
        obtain ⟨body, middle, rfl, hb, hm, hc⟩ := hc
        have hs := Closes.item (.string hb hm) hc
        rwa [List.cons_append, List.append_assoc] at hs
      · rename_i hq
        obtain ⟨behind, hi, he⟩ := ok_of_map h
        cases he
        have hs : StartsFlat c := ⟨ho, Bool.eq_false_iff.2 hn, hq⟩
        rcases item_of_flatItem hs hi with ⟨rfl, rfl⟩ | ⟨piece, ht, hp⟩
        · -- Behind a backtick at the end there is nothing that could close the group.
          cases hi
          obtain ⟨items, middle, hnil, -⟩ := hc
          simp at hnil
        · rw [ht]
          exact Closes.item (.flat hp) hc

theorem closes_of_stringStep
    (hc : Closes ((stringStep opened c text).1 ++ frames) (stringStep opened c text).2 rest) :
    Closes (.string opened :: frames) (c :: text) rest := by
  unfold stringStep at hc
  split at hc
  · rename_i hb
    subst hb
    obtain ⟨body, middle, ht, hf, hm, hc⟩ := hc
    cases text with
    | nil => simp at ht
    | cons d t =>
      rw [List.drop_succ_cons, List.drop_zero] at ht
      subst ht
      exact ⟨'`' :: d :: body, middle, rfl, .escaped d hf, hm, hc⟩
  · rename_i hb
    split at hc
    · rename_i hd
      subst hd
      split at hc
      · obtain ⟨items, middle, rfl, hi, body, middle', rfl, hf, hm, hc⟩ := hc
        refine ⟨'$' :: '(' :: (items ++ [')'] ++ body), middle', ?_, .subexpression (.group rfl hi) hf, hm,
          hc⟩
        simp only [List.cons_append, List.append_assoc, List.nil_append]
      · rename_i hn
        obtain ⟨body, middle, rfl, hf, hm, hc⟩ := hc
        refine ⟨'$' :: body, middle, rfl, .plain (by decide) (by decide) ?_ hf, hm, hc⟩
        intro _ hh
        obtain ⟨inner, hi⟩ := List.head?_eq_some_iff.1 hh
        exact hn inner hi
    · rename_i hd
      split at hc
      · rename_i hq
        subst hq
        split at hc
        · obtain ⟨body, middle, rfl, hf, hm, hc⟩ := hc
          exact ⟨'"' :: '"' :: body, middle, rfl, .doubled hf, hm, hc⟩
        · rename_i hn
          refine ⟨[], text, rfl, .empty _, ?_, hc⟩
          intro hh
          obtain ⟨behind, hi⟩ := List.head?_eq_some_iff.1 hh
          exact hn behind hi
      · rename_i hq
        obtain ⟨body, middle, rfl, hf, hm, hc⟩ := hc
        exact ⟨c :: body, middle, rfl, .plain hb hq (fun he => absurd he hd) hf, hm, hc⟩

end

theorem closes_of_closeAll {frames : List Frame} {text rest : List Char}
    (h : closeAll frames text = .ok rest) : Closes frames text rest := by
  fun_induction closeAll frames text with
  | case1 text =>
    cases h
    rfl
  | case2 => cases h
  | case3 frame frames c text top after hs ih =>
    cases frame with
    | group closer opened => exact closes_of_groupStep hs (ih h)
    | string opened =>
      rw [Frame.step, Except.ok.injEq] at hs
      apply closes_of_stringStep
      rw [hs]
      exact ih h
  | case4 => cases h

/-- A group is read exactly if one stands at the start of the text, and then up to its end. -/
theorem groupRest_iff {opener closer : Char} {tail rest : List Char}
    (ho : closerOf? opener = some closer) :
    groupRest closer (opener :: tail) = .ok rest ↔
      ∃ group, opener :: tail = group ++ rest ∧ Forms .group group rest := by
  constructor
  · intro h
    obtain ⟨items, middle, rfl, hi, rfl⟩ := closes_of_closeAll h
    refine ⟨opener :: (items ++ [closer]), ?_, .group ho hi⟩
    rw [List.cons_append, List.append_assoc]
    rfl
  · rintro ⟨group, ht, hf⟩
    obtain ⟨first, last, inner, rfl, hl, hg⟩ := hf.passes
    obtain ⟨rfl, rfl⟩ := List.cons.inj ht
    cases ho.symm.trans hl
    have hclosed := hg (opener :: (inner ++ rest)) []
    rwa [closeAll] at hclosed

/-- Where a group starts there is only one. -/
theorem Forms.group_unique {group group' rest rest' : List Char} (h : Forms .group group rest)
    (h' : Forms .group group' rest') (ht : group ++ rest = group' ++ rest') : group = group' := by
  obtain ⟨opener, closer, tail, rfl, ho, -⟩ := h.passes
  have hr := (groupRest_iff ho).2 ⟨_, List.cons_append.symm, h⟩
  have hr' := (groupRest_iff ho).2 ⟨_, List.cons_append.symm.trans ht, h'⟩
  cases hr.symm.trans hr'
  exact List.append_cancel_right ht

/-! ## Groups that are not closed -/

/-- The text ends inside a group. The innermost one that is open there starts at `opened` and lacks
`closer`; all its items are complete, but for a backtick that may be left over. -/
inductive EndsInside : List Char → Char → List Char → Prop where
  | innermost {opener closer : Char} {inner last : List Char} : closerOf? opener = some closer →
    Forms .items inner last → last = [] ∨ last = ['`'] →
    EndsInside (opener :: (inner ++ last)) closer (opener :: (inner ++ last))
  | nested {opener other closer : Char} {inner text opened : List Char} :
    closerOf? opener = some other → Forms .items inner text → EndsInside text closer opened →
    EndsInside (opener :: (inner ++ text)) closer opened
  /-- The group lies in a string of another one. -/
  | subexpression {opener other closer : Char} {inner body text opened : List Char} :
    closerOf? opener = some other → Forms .items inner ('"' :: (body ++ '$' :: '(' :: text)) →
    Forms .quoted body ('$' :: '(' :: text) → EndsInside ('(' :: text) closer opened →
    EndsInside (opener :: (inner ++ '"' :: (body ++ '$' :: '(' :: text))) closer opened

theorem EndsInside.suffix {text opened : List Char} {closer : Char} (h : EndsInside text closer opened) :
    opened <:+ text := by
  induction h with
  | innermost _ _ _ => exact List.suffix_rfl
  | @nested opener _ _ inner text _ _ _ _ ih => exact ih.trans ⟨opener :: inner, rfl⟩
  | @subexpression opener _ _ inner body text _ _ _ _ _ ih =>
    refine ih.trans ⟨opener :: (inner ++ '"' :: (body ++ ['$'])), ?_⟩
    simp only [List.cons_append, List.append_assoc, List.nil_append]

theorem closeAll_end (closer : Char) (opened : List Char) (frames : List Frame) {last : List Char}
    (h : last = [] ∨ last = ['`']) :
    closeAll (.group closer opened :: frames) last = .error (.problem (.openGroup closer) opened []) := by
  have hend : closeAll (.group closer opened :: frames) [] =
      .error (.problem (.openGroup closer) opened []) := by
    rw [closeAll]
    rfl
  rcases h with rfl | rfl
  · exact hend
  · have hi : flatItem '`' [] = .ok [] := rfl
    rw [closeAll_flat ⟨rfl, rfl, by decide⟩ hi, hend]

/-- The fault is reported at the innermost opening bracket. -/
theorem EndsInside.fails {text opened : List Char} {closer : Char} (h : EndsInside text closer opened) :
    ∃ opener other tail, text = opener :: tail ∧ closerOf? opener = some other ∧
      ∀ frames, closeAll (.group other text :: frames) tail =
        .error (.problem (.openGroup closer) opened []) := by
  induction h with
  | @innermost opener closer inner last ho hf hl =>
    refine ⟨opener, closer, inner ++ last, rfl, ho, ?_⟩
    intro frames
    rw [hf.passes, closeAll_end closer _ frames hl]
  | @nested opener other closer inner text opened ho hf _ ih =>
    refine ⟨opener, other, inner ++ text, rfl, ho, ?_⟩
    intro frames
    obtain ⟨first, last, tail, rfl, hfirst, hfail⟩ := ih
    rw [hf.passes, closeAll_opener hfirst, hfail]
  | @subexpression opener other closer inner body text opened ho hf hb _ ih =>
    refine ⟨opener, other, inner ++ '"' :: (body ++ '$' :: '(' :: text), rfl, ho, ?_⟩
    intro frames
    obtain ⟨first, last, tail, he, hfirst, hfail⟩ := ih
    obtain ⟨rfl, rfl⟩ := List.cons.inj he
    cases hfirst
    rw [hf.passes, closeAll_quote, hb.passes, closeAll_string]
    exact hfail _

/-! ## The cursor -/

namespace Cursor

variable {cursor : Cursor} {opener closer : Char} {tail : List Char}

theorem readGroup_eq (hr : cursor.rest = opener :: tail) (ho : closerOf? opener = some closer) :
    cursor.readGroup = cursor.run fun text => (groupRest closer text).map fun left =>
      (String.ofList (text.take (text.length - left.length)), left) := by
  unfold readGroup
  rw [hr]
  dsimp only
  rw [ho]

theorem run_ok {α : Type} {reader : List Char → Except Fault (α × List Char)} {value : α}
    {left : List Char} (h : reader cursor.rest = .ok (value, left)) :
    cursor.run reader = (.ok value, cursor.movedTo left) := by
  rw [run, h]

theorem run_problem {α : Type} {reader : List Char → Except Fault (α × List Char)} {what : Problem}
    {site left : List Char} (h : reader cursor.rest = .error (.problem what site left)) :
    cursor.run reader = (.error (.problem what (cursor.offsetOf site)), cursor.movedTo left) := by
  rw [run, h]

theorem offsetOf_append {before left : List Char} (h : cursor.rest = before ++ left) :
    cursor.offsetOf left = cursor.offset + before.length := by
  rw [offsetOf, h, List.length_append, Nat.add_sub_cancel]

theorem drop_offsetOf {before left : List Char} (h : cursor.rest = before ++ left) :
    cursor.text.drop (cursor.offsetOf left) = left := by
  rw [offsetOf_append h, ← List.drop_drop]
  show cursor.rest.drop before.length = left
  rw [h, List.drop_left]

theorem readGroup_group {group rest : List Char} (hr : cursor.rest = group ++ rest)
    (hf : Forms .group group rest) :
    cursor.readGroup =
      (.ok (String.ofList group), { cursor with offset := cursor.offset + group.length }) := by
  obtain ⟨opener, closer, tail, rfl, ho, -⟩ := hf.passes
  have hg := (groupRest_iff ho).2 ⟨_, List.cons_append.symm, hf⟩
  have hread : ((groupRest closer cursor.rest).map fun left =>
      (String.ofList (cursor.rest.take (cursor.rest.length - left.length)), left)) =
        .ok (String.ofList (opener :: tail), rest) := by
    rw [hr, List.cons_append, hg, Except.map, ← List.cons_append, List.length_append,
      Nat.add_sub_cancel, List.take_left]
  rw [readGroup_eq hr ho, run_ok hread, movedTo, offsetOf_append hr]

theorem group_of_readGroup {value : String} {after : Cursor}
    (h : cursor.readGroup = (.ok value, after)) :
    ∃ group rest, cursor.rest = group ++ rest ∧ Forms .group group rest := by
  cases hr : cursor.rest with
  | nil =>
    rw [readGroup, hr] at h
    cases h
  | cons c tail =>
    cases ho : closerOf? c with
    | none =>
      unfold readGroup at h
      rw [hr] at h
      dsimp only at h
      rw [ho] at h
      cases h
    | some closer =>
      rw [readGroup_eq hr ho] at h
      cases hg : groupRest closer (c :: tail) with
      | ok rest =>
        obtain ⟨group, ht, hf⟩ := (groupRest_iff ho).1 hg
        exact ⟨group, rest, ht, hf⟩
      | error fault =>
        rw [run, hr, hg] at h
        cases fault <;> cases h

theorem readGroup_endsInside {opened : List Char} (h : EndsInside cursor.rest closer opened) :
    ∃ offset after, cursor.readGroup = (.error (.problem (.openGroup closer) offset), after) ∧
      cursor.text.drop offset = opened := by
  obtain ⟨opener, other, tail, hr, ho, hfail⟩ := h.fails
  obtain ⟨before, hb⟩ := h.suffix
  have hread : ((groupRest other cursor.rest).map fun left =>
      (String.ofList (cursor.rest.take (cursor.rest.length - left.length)), left)) =
        .error (.problem (.openGroup closer) opened []) := by
    have hg : groupRest other cursor.rest = .error (.problem (.openGroup closer) opened []) := by
      rw [groupRest, hr, List.tail_cons, ← hr]
      exact hfail []
    rw [hg]
    rfl
  refine ⟨cursor.offsetOf opened, cursor.movedTo [], ?_, drop_offsetOf hb.symm⟩
  rw [readGroup_eq hr ho]
  exact run_problem hread

/-- The cursor reads a group exactly if one stands at it. Then it gives the text of that group, of which
there is only one, and moves to its end. If the script ends inside a group, the fault is reported at the
innermost bracket that is not closed. -/
theorem readGroup_iff (cursor : Cursor) :
    (∀ value after, cursor.readGroup = (.ok value, after) ↔
      ∃ group rest, cursor.rest = group ++ rest ∧ Forms .group group rest ∧
        value = String.ofList group ∧
          after = { cursor with offset := cursor.offset + group.length }) ∧
    (∀ group rest group' rest', cursor.rest = group ++ rest → Forms .group group rest →
      cursor.rest = group' ++ rest' → Forms .group group' rest' → group = group') ∧
    ∀ closer opened, EndsInside cursor.rest closer opened →
      ∃ offset after, cursor.readGroup = (.error (.problem (.openGroup closer) offset), after) ∧
        cursor.text.drop offset = opened := by
  refine ⟨?_, ?_, ?_⟩
  · intro value after
    constructor
    · intro h
      obtain ⟨group, rest, hr, hf⟩ := group_of_readGroup h
      rw [readGroup_group hr hf] at h
      cases h
      exact ⟨group, rest, hr, hf, rfl, rfl⟩
    · rintro ⟨group, rest, hr, hf, rfl, rfl⟩
      exact readGroup_group hr hf
  · intro group rest group' rest' hr hf hr' hf'
    exact hf.group_unique hf' (hr.symm.trans hr')
  · intro closer opened h
    exact readGroup_endsInside h

/-- A group with brackets in a string, in a group in that string, in a comment and behind a backtick; and
a script that ends, behind a backtick, in a group in a string. -/
theorem readGroup_iff_bracketsInStrings :
    (∃ group rest, (Cursor.mk "f (a \"b`\"$([')'])]\" <#)#> `) )x".toList 2).rest = group ++ rest ∧
      Forms .group group rest ∧ "(a \"b`\"$([')'])]\" <#)#> `) )" = String.ofList group) ∧
    ∃ offset after, (Cursor.mk "f (a\"$([`".toList 2).readGroup =
        (.error (.problem (.openGroup ']') offset), after) ∧
      "f (a\"$([`".toList.drop offset = ['[', '`'] := by
  have run : (Cursor.mk "f (a \"b`\"$([')'])]\" <#)#> `) )x".toList 2).readGroup.1.toOption.map id =
      some "(a \"b`\"$([')'])]\" <#)#> `) )" := by
    decide +kernel
  have inside : EndsInside (Cursor.mk "f (a\"$([`".toList 2).rest ']' ['[', '`'] := by
    have opens : closerOf? '(' = some ')' := rfl
    have plain : Plain 'a' ['"', '$', '(', '[', '`'] :=
      ⟨by decide, by decide, hereStringHead?_eq_none_iff.1 rfl⟩
    have first : Forms .items ['a'] ['"', '$', '(', '[', '`'] := .cons (.flat (.plain plain)) (.nil _)
    have innermost : EndsInside ['[', '`'] ']' ['[', '`'] := .innermost rfl (.nil ['`']) (.inr rfl)
    exact .subexpression opens first (.empty _) (.nested opens (.nil ['[', '`']) innermost)
  constructor
  · obtain ⟨value, hv, rfl⟩ := ok_of_toOption run
    obtain ⟨group, rest, hr, hf, hg, -⟩ := ((readGroup_iff _).1 _ _).1 (Prod.ext hv rfl)
    exact ⟨group, rest, hr, hf, hg⟩
  · exact (readGroup_iff _).2.2 _ _ inside

end Cursor

end PageScript.Script
