import PageScript.Script.Problem
import PageScript.Text.Cut

/-!
# Blanks and comments

What may stand between the parts of a statement: blanks, comments to the end of the line, block
comments, and a backtick before a line feed, which continues the line. Between statements line feeds
may stand as well. Every function gives the text that is left, always a tail of what it was given.
-/

namespace PageScript.Script

/-- The blanks inside a line. -/
def isInlineBlank (c : Char) : Bool := c == ' ' || c == '\t' || c == '\x0c' || c == '\x0b'

/-- The text from the next line feed on. -/
def skipLineComment (text : List Char) : List Char := text.dropWhile (· != '\n')

/-- The text behind a block comment, whose first two characters open it. -/
def skipBlockComment (text : List Char) : Except Fault (List Char) :=
  match Text.after? ['#', '>'] (text.drop 2) with
  | some rest => .ok rest
  | none => .error (.problem .openComment text text)

theorem skipLineComment_suffix (text : List Char) : skipLineComment text <:+ text :=
  List.dropWhile_suffix _

theorem skipBlockComment_suffix {text rest : List Char} (h : skipBlockComment text = .ok rest) :
    rest <:+ text.drop 2 := by
  unfold skipBlockComment at h
  split at h
  · rename_i found
    cases h
    exact Text.suffix_of_after? found
  · cases h

/-- Skips blanks, comments and continued line ends. -/
def skipInline (text : List Char) : Except Fault (List Char) :=
  match text with
  | [] => .ok []
  | c :: t =>
    if isInlineBlank c then skipInline t
    else if c = '#' then skipInline (skipLineComment t)
    else
      match c, t with
      | '`', '\n' :: u => skipInline u
      | '<', '#' :: u =>
        match _h : skipBlockComment ('<' :: '#' :: u) with
        | .ok rest => skipInline rest
        | .error fault => .error fault
      | _, _ => .ok (c :: t)
termination_by text.length
decreasing_by
  · simp
  · have := (skipLineComment_suffix t).length_le
    simp only [List.length_cons]
    omega
  · simp only [List.length_cons]
    omega
  · have := (skipBlockComment_suffix _h).length_le
    simp only [List.drop_succ_cons, List.drop_zero] at this
    simp only [List.length_cons]
    omega

theorem skipInline_suffix {text rest : List Char} (h : skipInline text = .ok rest) :
    rest <:+ text := by
  fun_induction skipInline text generalizing rest with
  | case1 => cases h; exact List.suffix_rfl
  | case2 c t _ ih => exact (ih h).trans (List.suffix_cons c t)
  | case3 t _ ih => exact ((ih h).trans (skipLineComment_suffix t)).trans (List.suffix_cons _ t)
  | case4 u _ _ ih => exact (ih h).trans ⟨['`', '\n'], rfl⟩
  | case5 u r hr _ _ ih =>
    have := skipBlockComment_suffix hr
    exact ((ih h).trans this).trans ⟨['<', '#'], rfl⟩
  | case6 => cases h
  | case7 => cases h; exact List.suffix_rfl

theorem skipInline_nil : skipInline [] = .ok [] := by rw [skipInline]

theorem skipInline_blank {c : Char} (h : isInlineBlank c = true) (text : List Char) :
    skipInline (c :: text) = skipInline text := by
  conv => lhs; unfold skipInline
  exact if_pos h

theorem skipInline_comment (text : List Char) :
    skipInline ('#' :: text) = skipInline (skipLineComment text) := by
  conv => lhs; unfold skipInline
  rfl

theorem skipInline_continued (text : List Char) :
    skipInline ('`' :: '\n' :: text) = skipInline text := by
  conv => lhs; unfold skipInline
  rfl

theorem skipInline_block {text rest : List Char}
    (h : skipBlockComment ('<' :: '#' :: text) = .ok rest) :
    skipInline ('<' :: '#' :: text) = skipInline rest := by
  conv => lhs; unfold skipInline
  show (match _h : skipBlockComment ('<' :: '#' :: text) with
    | .ok rest => skipInline rest
    | .error fault => .error fault) = skipInline rest
  split
  · rename_i h'
    cases h.symm.trans h'
    rfl
  · rename_i h'
    cases h.symm.trans h'

/-- Nothing is skipped where neither a blank nor a comment nor a continued line end stands. -/
theorem skipInline_stays {c : Char} {text : List Char} (hi : isInlineBlank c = false) (hc : c ≠ '#')
    (hb : ∀ rest, c = '`' → text = '\n' :: rest → False)
    (hl : ∀ rest, c = '<' → text = '#' :: rest → False) :
    skipInline (c :: text) = .ok (c :: text) := by
  rw [skipInline]
  · rw [hi, if_neg Bool.false_ne_true, if_neg hc]
  · exact hb
  · exact hl

/-- Skips blanks, comments and line ends. -/
def skipBlanks (text : List Char) : Except Fault (List Char) :=
  match _h : skipInline text with
  | .ok ('\n' :: rest) => skipBlanks rest
  | .ok rest => .ok rest
  | .error fault => .error fault
termination_by text.length
decreasing_by
  have := (skipInline_suffix _h).length_le
  simp only [List.length_cons] at this
  omega

theorem skipBlanks_suffix {text rest : List Char} (h : skipBlanks text = .ok rest) :
    rest <:+ text := by
  fun_induction skipBlanks text generalizing rest with
  | case1 text r hr ih =>
    exact ((ih h).trans (List.suffix_cons '\n' r)).trans (skipInline_suffix hr)
  | case2 text r _ hr => cases h; exact skipInline_suffix hr
  | case3 => cases h

theorem skipBlanks_next {text rest : List Char} (h : skipInline text = .ok ('\n' :: rest)) :
    skipBlanks text = skipBlanks rest := by
  conv => lhs; unfold skipBlanks
  split
  · rename_i h'
    cases h.symm.trans h'
    rfl
  · rename_i hn h'
    exact absurd (Except.ok.inj (h'.symm.trans h)) (hn rest)
  · rename_i h'
    cases h.symm.trans h'

theorem skipBlanks_stays {text rest : List Char} (h : skipInline text = .ok rest)
    (hn : ∀ behind, rest ≠ '\n' :: behind) : skipBlanks text = .ok rest := by
  rw [skipBlanks]
  split
  · rename_i h'
    exact absurd (Except.ok.inj (h.symm.trans h')) (hn _)
  · rename_i h'
    exact h'.symm.trans h
  · rename_i h'
    cases h.symm.trans h'

end PageScript.Script
