import PageScript.Proofs.Script.Recovery
import PageScript.Proofs.Text.Cut

/-!
# What stands between statements

Blanks, semicolons, comments and continued lines. `Gap` is the grammar of what may be skipped between
two statements, said without the functions that skip; each of these functions skips a gap. The end of a
comment depends on what follows, so a gap is a gap in front of some text.
-/

namespace PageScript.Script

/-- The characters of a block comment between its two marks: they do not close it. -/
def CommentBody (body : List Char) : Prop := ¬ ['#', '>'] <:+: body ++ ['#']

/-- A line ends here. -/
def AtLineEnd (text : List Char) : Prop := text = [] ∨ ∃ rest, text = '\n' :: rest

/-- `gap` is a run of separators in front of `rest`. -/
inductive Gap : List Char → List Char → Prop where
  | nil (rest : List Char) : Gap [] rest
  | blank {c : Char} {gap rest : List Char} : Text.isBlank c = true → Gap gap rest →
    Gap (c :: gap) rest
  | semicolon {gap rest : List Char} : Gap gap rest → Gap (';' :: gap) rest
  /-- A backtick continues a line. -/
  | continued {gap rest : List Char} : Gap gap rest → Gap ('`' :: '\n' :: gap) rest
  /-- A comment up to the end of its line. -/
  | lineComment {body gap rest : List Char} : '\n' ∉ body → AtLineEnd (gap ++ rest) →
    Gap gap rest → Gap ('#' :: (body ++ gap)) rest
  | blockComment {body gap rest : List Char} : CommentBody body → Gap gap rest →
    Gap ('<' :: '#' :: (body ++ '#' :: '>' :: gap)) rest

theorem Gap.append {first second rest : List Char} (h : Gap first (second ++ rest))
    (h' : Gap second rest) : Gap (first ++ second) rest := by
  generalize hs : second ++ rest = behind at h
  induction h with
  | nil => exact h'
  | blank hc _ ih => exact .blank hc (ih hs)
  | semicolon _ ih => exact .semicolon (ih hs)
  | continued _ ih => exact .continued (ih hs)
  | lineComment hb hl _ ih =>
    rw [List.cons_append, List.append_assoc]
    refine .lineComment hb ?_ (ih hs)
    rw [List.append_assoc, hs]
    exact hl
  | blockComment hb _ ih =>
    rw [List.cons_append, List.cons_append, List.append_assoc, List.cons_append, List.cons_append]
    exact .blockComment hb (ih hs)

theorem gap_of_blanks {gap : List Char} (h : ∀ c ∈ gap, Text.isBlank c = true) (rest : List Char) :
    Gap gap rest := by
  induction gap with
  | nil => exact .nil rest
  | cons c gap ih =>
    obtain ⟨hc, hg⟩ := List.forall_mem_cons.1 h
    exact .blank hc (ih hg)

/-- A gap leads from `text` to `rest`. -/
def GapBetween (text rest : List Char) : Prop := ∃ gap, text = gap ++ rest ∧ Gap gap rest

theorem GapBetween.refl (text : List Char) : GapBetween text text := ⟨[], rfl, .nil text⟩

theorem GapBetween.trans {text middle rest : List Char} (h : GapBetween text middle)
    (h' : GapBetween middle rest) : GapBetween text rest := by
  obtain ⟨first, rfl, hf⟩ := h
  obtain ⟨second, rfl, hs⟩ := h'
  exact ⟨first ++ second, by rw [List.append_assoc], hf.append hs⟩

theorem isBlank_of_isInlineBlank {c : Char} (h : isInlineBlank c = true) :
    Text.isBlank c = true := by
  simp only [isInlineBlank, Bool.or_eq_true, beq_iff_eq] at h
  rcases h with ((rfl | rfl) | rfl) | rfl <;> rfl

/-- A comment up to the end of its line, behind its mark. -/
theorem skipLineComment_body (text : List Char) :
    ∃ body, text = body ++ skipLineComment text ∧ '\n' ∉ body ∧ AtLineEnd (skipLineComment text) := by
  refine ⟨text.takeWhile (· != '\n'), List.takeWhile_append_dropWhile.symm, ?_, ?_⟩
  · intro h
    have := List.all_eq_true.1 List.all_takeWhile _ h
    simp at this
  · rw [skipLineComment]
    cases hd : text.dropWhile (· != '\n') with
    | nil => exact .inl rfl
    | cons c rest =>
      have hc := List.head?_dropWhile_not (· != '\n') text
      rw [hd] at hc
      obtain rfl : c = '\n' := by simpa using hc
      exact .inr ⟨rest, rfl⟩

/-- A block comment behind the mark that opens it. -/
theorem skipBlockComment_body {text rest : List Char}
    (h : skipBlockComment ('<' :: '#' :: text) = .ok rest) :
    ∃ body, text = body ++ '#' :: '>' :: rest ∧ CommentBody body := by
  unfold skipBlockComment at h
  split at h
  · rename_i found hf
    cases h
    obtain ⟨⟨body, after⟩, hc, he⟩ := Option.map_eq_some_iff.1 hf
    cases he
    have htext : text = body ++ ['#', '>'] ++ after := Text.eq_of_cut? hc
    refine ⟨body, ?_, Text.not_infix_of_cut? (by simp) hc⟩
    rw [htext, List.append_assoc]
    rfl
  · cases h

theorem skipLineComment_gap (text : List Char) :
    GapBetween ('#' :: text) (skipLineComment text) := by
  obtain ⟨body, ht, hb, hend⟩ := skipLineComment_body text
  refine ⟨'#' :: (body ++ []), ?_, .lineComment hb hend (.nil _)⟩
  rw [List.append_nil, List.cons_append, ← ht]

theorem skipBlockComment_gap {text rest : List Char}
    (h : skipBlockComment ('<' :: '#' :: text) = .ok rest) :
    GapBetween ('<' :: '#' :: text) rest := by
  obtain ⟨body, rfl, hb⟩ := skipBlockComment_body h
  refine ⟨'<' :: '#' :: (body ++ '#' :: '>' :: []), ?_, .blockComment hb (.nil _)⟩
  rw [List.cons_append, List.cons_append, List.append_assoc]
  rfl

theorem skipInline_gap {text rest : List Char} (h : skipInline text = .ok rest) :
    GapBetween text rest := by
  fun_induction skipInline text generalizing rest with
  | case1 => cases h; exact .refl []
  | case2 c t hc ih =>
    refine GapBetween.trans ⟨[c], rfl, .blank (isBlank_of_isInlineBlank hc) (.nil t)⟩ (ih h)
  | case3 t _ ih => exact (skipLineComment_gap t).trans (ih h)
  | case4 u _ _ ih => exact GapBetween.trans ⟨['`', '\n'], rfl, .continued (.nil u)⟩ (ih h)
  | case5 u r hr _ _ ih => exact (skipBlockComment_gap hr).trans (ih h)
  | case6 => cases h
  | case7 c t => cases h; exact .refl _

theorem skipBlanks_gap {text rest : List Char} (h : skipBlanks text = .ok rest) :
    GapBetween text rest := by
  fun_induction skipBlanks text generalizing rest with
  | case1 text r hr ih =>
    exact (skipInline_gap hr).trans (GapBetween.trans ⟨['\n'], rfl, .blank rfl (.nil r)⟩ (ih h))
  | case2 text r _ hr => cases h; exact skipInline_gap hr
  | case3 => cases h

/-- What is skipped between statements is a gap. -/
theorem skipSeparators_gap {text rest : List Char} (h : skipSeparators text = .ok rest) :
    GapBetween text rest := by
  fun_induction skipSeparators text generalizing rest with
  | case1 text r hr ih =>
    exact (skipBlanks_gap hr).trans (GapBetween.trans ⟨[';'], rfl, .semicolon (.nil r)⟩ (ih h))
  | case2 text r _ hr => cases h; exact skipBlanks_gap hr
  | case3 => cases h

end PageScript.Script
