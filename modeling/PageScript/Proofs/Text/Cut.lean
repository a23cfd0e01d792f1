import PageScript.Text.Cut

/-!
# Where texts are cut

A run of characters of a kind ends at the first character of another kind, and a text is cut at the
first or at the last occurrence of a pattern, whatever stands around it. The pieces between the
occurrences of a character are those that the text was put together from.
-/

namespace PageScript.Text

/-! ## Runs of characters -/

section

variable {p : Char → Bool} {run rest : List Char} (inside : ∀ c ∈ run, p c = true)
  (stop : ∀ c ∈ rest.head?, p c = false)
include inside stop

theorem takeWhile_append_stop : (run ++ rest).takeWhile p = run := by
  rw [List.takeWhile_append_of_pos inside]
  cases rest with
  | nil => rw [List.takeWhile_nil, List.append_nil]
  | cons c rest => rw [List.takeWhile_cons_of_neg (by simp [stop c rfl]), List.append_nil]

theorem dropWhile_append_stop : (run ++ rest).dropWhile p = rest := by
  rw [List.dropWhile_append_of_pos inside]
  cases rest with
  | nil => rfl
  | cons c rest => rw [List.dropWhile_cons_of_neg (by simp [stop c rfl])]

end

/-! ## The first occurrence of a pattern -/

/-- The first occurrence of a pattern is the first one. -/
theorem not_infix_of_cut? {pattern text before after : List Char} (hp : pattern ≠ [])
    (h : cut? pattern text = some (before, after)) :
    ¬ pattern <:+: before ++ pattern.dropLast := by
  have short : ¬ pattern <:+: pattern.dropLast := by
    intro hi
    have := hi.length_le
    have := List.length_pos_iff.2 hp
    rw [List.length_dropLast] at *
    omega
  induction text generalizing before after with
  | nil =>
    rw [cut?] at h
    split at h
    · rename_i he
      exact absurd (List.isEmpty_iff.1 he) hp
    · cases h
  | cons c text ih =>
    rw [cut?] at h
    split at h
    · cases h
      exact short
    · rename_i hn
      obtain ⟨⟨inner, rest⟩, hc, he⟩ := Option.map_eq_some_iff.1 h
      cases he
      intro hi
      rcases List.infix_cons_iff.1 hi with hpre | hi
      · -- An occurrence here would be one that had been found.
        apply hn
        rw [List.isPrefixOf_iff_prefix, eq_of_cut? hc]
        refine hpre.trans ?_
        rw [List.append_assoc]
        refine List.prefix_cons_inj c |>.2 (List.prefix_append_right_inj inner |>.2 ?_)
        exact (List.dropLast_prefix pattern).trans (List.prefix_append pattern after)
      · exact ih hc hi

/-- The first occurrence of a pattern is where the text is cut. -/
theorem cut?_of_not_infix {pattern before : List Char} (hp : pattern ≠ [])
    (h : ¬ pattern <:+: before ++ pattern.dropLast) (after : List Char) :
    cut? pattern (before ++ pattern ++ after) = some (before, after) := by
  induction before with
  | nil =>
    obtain ⟨c, t, rfl⟩ := List.exists_cons_of_ne_nil hp
    have hpre : (c :: t).isPrefixOf (c :: (t ++ after)) = true :=
      List.isPrefixOf_iff_prefix.2 (List.prefix_append (c :: t) after)
    rw [List.nil_append, List.cons_append, cut?, if_pos hpre, ← List.cons_append,
      List.drop_left]
  | cons c before ih =>
    have ih := ih fun hi => h (hi.trans (List.suffix_cons c _).isInfix)
    -- An occurrence here would lie in front of the one that the text has at its end.
    have hpre : ¬ pattern.isPrefixOf (c :: (before ++ pattern ++ after)) = true := by
      intro hpre
      apply h
      rw [List.isPrefixOf_iff_prefix] at hpre
      have hshort : c :: (before ++ pattern.dropLast) <+: c :: (before ++ pattern ++ after) := by
        rw [List.append_assoc, List.prefix_cons_inj, List.prefix_append_right_inj]
        exact (List.dropLast_prefix pattern).trans (List.prefix_append pattern after)
      refine (List.prefix_of_prefix_length_le hpre hshort ?_).isInfix
      rw [List.length_cons, List.length_append, List.length_dropLast]
      omega
    rw [List.cons_append, List.cons_append, cut?, if_neg hpre, ih]
    rfl

/-- A pattern that occurs is found at the same place in a longer text. -/
theorem cut?_append {pattern text before after : List Char} (hp : pattern ≠ [])
    (h : cut? pattern text = some (before, after)) (u : List Char) :
    cut? pattern (text ++ u) = some (before, after ++ u) := by
  induction text generalizing before after with
  | nil =>
    rw [cut?, if_neg (by rw [List.isEmpty_iff]; exact hp)] at h
    cases h
  | cons c text ih =>
    rw [cut?] at h
    rw [List.cons_append, cut?]
    split at h
    · rename_i hc
      have hc' := List.isPrefixOf_iff_prefix.1 hc
      cases h
      rw [← List.cons_append, if_pos, List.drop_append_of_le_length hc'.length_le]
      exact List.isPrefixOf_iff_prefix.2 (hc'.trans (List.prefix_append _ u))
    · rename_i hc
      obtain ⟨⟨inner, rest⟩, hi, he⟩ := Option.map_eq_some_iff.1 h
      cases he
      -- The pattern lies in what is left of the text, so it is short enough to be seen here.
      have hl : pattern.length ≤ (c :: text).length := by
        rw [eq_of_cut? hi]
        simp only [List.length_cons, List.length_append]
        omega
      rw [if_neg, ih hi]
      · rfl
      · intro hc'
        apply hc
        rw [List.isPrefixOf_iff_prefix] at hc' ⊢
        exact List.prefix_of_prefix_length_le hc' (List.prefix_append (c :: text) u) hl

theorem cut?_mark {mark : Char} {before : List Char} (h : mark ∉ before) (after : List Char) :
    cut? [mark] (before ++ mark :: after) = some (before, after) := by
  have absent : ¬ [mark] <:+: before ++ [mark].dropLast := by
    intro hi
    rw [List.dropLast_singleton, List.append_nil] at hi
    exact h (hi.subset List.mem_cons_self)
  rw [← cut?_of_not_infix (List.cons_ne_nil mark []) absent after, List.append_assoc,
    List.singleton_append]

/-! ## The first and the last occurrence of a character -/

section

variable {mark : Char} {text : List Char}

theorem ne_mark (h : mark ∉ text) : ∀ c ∈ text, (c != mark) = true := by
  intro c hc
  rw [bne_iff_ne]
  rintro rfl
  exact h hc

theorem cutFirst_none (h : mark ∉ text) : cutFirst mark text = (text, none) := by
  have passed : text.dropWhile (· != mark) = [] := by
    rw [← List.append_nil text, List.dropWhile_append_of_pos (ne_mark h), List.dropWhile_nil]
  rw [cutFirst, passed]

theorem cutFirst_fst (mark : Char) (text : List Char) :
    (cutFirst mark text).1 = text.takeWhile (· != mark) := by
  unfold cutFirst
  split
  · rename_i hd
    have whole := List.takeWhile_append_dropWhile (p := (· != mark)) (l := text)
    rw [hd, List.append_nil] at whole
    exact whole.symm
  · rfl

theorem cutFirst_mark (h : mark ∉ text) (after : List Char) :
    cutFirst mark (text ++ mark :: after) = (text, some after) := by
  have stop : ∀ c ∈ (mark :: after).head?, (c != mark) = false := by simp
  rw [cutFirst, dropWhile_append_stop (ne_mark h) stop, takeWhile_append_stop (ne_mark h) stop]

theorem cutLast_none (h : mark ∉ text) : cutLast mark text = (none, text) := by
  rw [cutLast, cutFirst_none (by rwa [List.mem_reverse])]

theorem cutLast_mark (h : mark ∉ text) (before : List Char) :
    cutLast mark (before ++ mark :: text) = (some before, text) := by
  have reversed : (before ++ mark :: text).reverse = text.reverse ++ mark :: before.reverse := by
    simp
  rw [cutLast, reversed, cutFirst_mark (by rwa [List.mem_reverse])]
  simp only [List.reverse_reverse]

theorem exists_last_mark (h : mark ∈ text) :
    ∃ before after, text = before ++ mark :: after ∧ mark ∉ after := by
  obtain ⟨after, before, hr, ha⟩ := List.eq_append_cons_of_mem (List.mem_reverse.2 h)
  refine ⟨before.reverse, after.reverse, ?_, by rwa [List.mem_reverse]⟩
  rw [← List.reverse_reverse text, hr]
  simp

end

/-! ## Pieces between the occurrences of a character -/

theorem splitAtEach_ne_nil (mark : Char) (text : List Char) : splitAtEach mark text ≠ [] := by
  cases text with
  | nil => simp [splitAtEach]
  | cons c text =>
    rw [splitAtEach]
    split
    · simp
    · split <;> simp

theorem splitAtEach_mark (mark : Char) (text : List Char) :
    splitAtEach mark (mark :: text) = [] :: splitAtEach mark text := by
  rw [splitAtEach, if_pos rfl]

theorem splitAtEach_other {mark c : Char} (hc : c ≠ mark) (text : List Char) :
    splitAtEach mark (c :: text) = (splitAtEach mark text).modifyHead (c :: ·) := by
  rw [splitAtEach, if_neg hc]
  cases h : splitAtEach mark text with
  | nil => exact absurd h (splitAtEach_ne_nil mark text)
  | cons piece pieces => rfl

/-- The first piece starts with everything in front of the first mark. -/
theorem splitAtEach_append {mark : Char} {first : List Char} (hf : mark ∉ first) (text : List Char) :
    splitAtEach mark (first ++ text) = (splitAtEach mark text).modifyHead (first ++ ·) := by
  induction first with
  | nil =>
    rw [List.nil_append]
    cases splitAtEach mark text <;> rfl
  | cons c first ih =>
    rw [List.mem_cons, not_or] at hf
    rw [List.cons_append, splitAtEach_other (Ne.symm hf.1), ih hf.2]
    cases splitAtEach mark text <;> rfl

theorem splitAtEach_piece {mark : Char} {piece : List Char} (h : mark ∉ piece) (rest : List Char) :
    splitAtEach mark (piece ++ mark :: rest) = piece :: splitAtEach mark rest := by
  rw [splitAtEach_append h, splitAtEach_mark, List.modifyHead_cons, List.append_nil]

/-- No piece holds the mark it is divided at. -/
theorem mark_not_mem_piece {mark : Char} {text piece : List Char}
    (h : piece ∈ splitAtEach mark text) : mark ∉ piece := by
  induction text generalizing piece with
  | nil =>
    rw [List.mem_singleton.1 h]
    exact List.not_mem_nil
  | cons c text ih =>
    by_cases hc : c = mark
    · subst hc
      rw [splitAtEach_mark] at h
      rcases List.mem_cons.1 h with rfl | h
      · exact List.not_mem_nil
      · exact ih h
    · rw [splitAtEach_other hc] at h
      cases hs : splitAtEach mark text with
      | nil => exact absurd hs (splitAtEach_ne_nil mark text)
      | cons first others =>
        rw [hs, List.modifyHead_cons] at h
        rw [hs] at ih
        rcases List.mem_cons.1 h with rfl | h
        · rw [List.mem_cons, not_or]
          exact ⟨Ne.symm hc, ih List.mem_cons_self⟩
        · exact ih (List.mem_cons_of_mem first h)

/-- A character of a text is the mark or in one of the pieces. -/
theorem mem_splitAtEach {mark c : Char} {text : List Char} (h : c ∈ text) :
    c = mark ∨ ∃ piece ∈ splitAtEach mark text, c ∈ piece := by
  induction text with
  | nil => cases h
  | cons x text ih =>
    by_cases hx : x = mark
    · subst hx
      rw [splitAtEach_mark]
      rcases List.mem_cons.1 h with rfl | h
      · exact .inl rfl
      · exact (ih h).imp_right fun ⟨piece, hp, hc⟩ => ⟨piece, List.mem_cons_of_mem _ hp, hc⟩
    · rw [splitAtEach_other hx]
      obtain ⟨first, others, hs⟩ := List.exists_cons_of_ne_nil (splitAtEach_ne_nil mark text)
      rw [hs] at ih ⊢
      rw [List.modifyHead_cons]
      rcases List.mem_cons.1 h with rfl | h
      · exact .inr ⟨_, List.mem_cons_self, List.mem_cons_self⟩
      · refine (ih h).imp_right fun ⟨piece, hp, hc⟩ => ?_
        rcases List.mem_cons.1 hp with rfl | hp
        · exact ⟨_, List.mem_cons_self, List.mem_cons_of_mem x hc⟩
        · exact ⟨piece, List.mem_cons_of_mem _ hp, hc⟩

theorem mem_intercalate {mark c : Char} {pieces : List (List Char)}
    (h : c ∈ [mark].intercalate pieces) : c = mark ∨ ∃ piece ∈ pieces, c ∈ piece := by
  induction pieces with
  | nil => cases h
  | cons piece pieces ih =>
    cases pieces with
    | nil =>
      rw [List.intercalate_singleton] at h
      exact .inr ⟨piece, List.mem_cons_self, h⟩
    | cons next pieces =>
      rw [List.intercalate_cons_cons, List.append_assoc, List.mem_append, List.mem_append,
        List.mem_singleton] at h
      rcases h with h | h | h
      · exact .inr ⟨piece, List.mem_cons_self, h⟩
      · exact .inl h
      · exact (ih h).imp_right fun ⟨other, ho, hc⟩ => ⟨other, List.mem_cons_of_mem _ ho, hc⟩

theorem intercalate_ne_nil {first : List Char} (h : first ≠ []) (mark : Char)
    (others : List (List Char)) : [mark].intercalate (first :: others) ≠ [] := by
  cases others with
  | nil => rwa [List.intercalate_singleton]
  | cons next others =>
    rw [List.intercalate_cons_cons]
    simp

theorem splitAtEach_intercalate {mark : Char} {pieces : List (List Char)} (hne : pieces ≠ [])
    (h : ∀ piece ∈ pieces, mark ∉ piece) : splitAtEach mark ([mark].intercalate pieces) = pieces := by
  induction pieces with
  | nil => exact absurd rfl hne
  | cons piece pieces ih =>
    rw [List.forall_mem_cons] at h
    cases pieces with
    | nil =>
      rw [List.intercalate_singleton, ← List.append_nil piece, splitAtEach_append h.1]
      rfl
    | cons next pieces =>
      rw [List.intercalate_cons_cons, List.append_assoc, List.singleton_append,
        splitAtEach_piece h.1, ih (List.cons_ne_nil _ _) h.2]

theorem intercalate_concat {mark : Char} {pieces : List (List Char)} (hne : pieces ≠ [])
    (last : List Char) :
    [mark].intercalate (pieces ++ [last]) = [mark].intercalate pieces ++ mark :: last := by
  induction pieces with
  | nil => exact absurd rfl hne
  | cons piece pieces ih =>
    cases pieces with
    | nil =>
      rw [List.singleton_append, List.intercalate_cons_cons, List.intercalate_singleton,
        List.intercalate_singleton, List.append_assoc, List.singleton_append]
    | cons next pieces =>
      rw [List.cons_append, List.cons_append, List.intercalate_cons_cons, ← List.cons_append,
        ih (List.cons_ne_nil _ _), List.intercalate_cons_cons]
      simp only [List.append_assoc]

/-- The text behind the last mark is the last piece. -/
theorem cutLast_intercalate {mark : Char} {pieces : List (List Char)} {last : List Char}
    (hl : pieces.getLast? = some last) (h : mark ∉ last) :
    cutLast mark ([mark].intercalate pieces) =
      (if pieces.dropLast = [] then none else some ([mark].intercalate pieces.dropLast), last) := by
  obtain ⟨before, rfl⟩ := List.getLast?_eq_some_iff.1 hl
  rw [List.dropLast_concat]
  by_cases hb : before = []
  · subst hb
    rw [List.nil_append, List.intercalate_singleton, cutLast_none h, if_pos rfl]
  · rw [intercalate_concat hb, cutLast_mark h, if_neg hb]

end PageScript.Text
