import PageScript.Proofs.Text.Cut
import PageScript.Text.Position

/-!
# Positions and offsets

A line and a column name one offset into a text: that many characters behind the start of the line.
The part of a text in front of an offset falls into whole lines and the start of one more; the lemmas
about positions all go back to that (`lineStart_append`). The lines themselves are the pieces between
the line feeds, and a position stands in one of them or right behind it (`position_in`).
-/

namespace PageScript.Text

/-- The offset at which the line with this number starts, the first line having the number zero. -/
def lineOffset : Nat → List Char → Nat
  | 0, _ => 0
  | _ + 1, [] => 0
  | n + 1, c :: text => if c = '\n' then lineOffset n text + 1 else lineOffset (n + 1) text + 1

/-- The offset that a line and a column of a text name. -/
def Position.offset (place : Position) (text : List Char) : Nat :=
  lineOffset (place.line - 1) text + (place.column - 1)

/-- The text is empty or ends with a line feed. -/
def WholeLines (text : List Char) : Prop := text = [] ∨ ∃ before, text = before ++ ['\n']

/-- Any text is whole lines and the start of another one. -/
theorem exists_wholeLines (text : List Char) :
    ∃ lines last, text = lines ++ last ∧ WholeLines lines ∧ '\n' ∉ last := by
  induction text with
  | nil => exact ⟨[], [], rfl, .inl rfl, List.not_mem_nil⟩
  | cons c text ih =>
    obtain ⟨lines, last, rfl, hw, hl⟩ := ih
    rcases hw with rfl | ⟨before, rfl⟩
    · by_cases hc : c = '\n'
      · subst hc
        exact ⟨['\n'], last, rfl, .inr ⟨[], rfl⟩, hl⟩
      · refine ⟨[], c :: last, rfl, .inl rfl, ?_⟩
        rw [List.mem_cons, not_or]
        exact ⟨fun h => hc h.symm, hl⟩
    · exact ⟨c :: before ++ ['\n'], last, rfl, .inr ⟨c :: before, rfl⟩, hl⟩

/-- The last line starts behind the whole lines. -/
theorem lineStart_append {lines last : List Char} (hw : WholeLines lines) (hl : '\n' ∉ last) :
    lineStart (lines ++ last) = lines.length := by
  have all : ∀ c ∈ last.reverse, (c != '\n') = true := by
    intro c hc
    rw [List.mem_reverse] at hc
    rw [bne_iff_ne]
    rintro rfl
    exact hl hc
  have taken : ((lines ++ last).reverse.takeWhile (· != '\n')) = last.reverse := by
    rw [List.reverse_append, List.takeWhile_append_of_pos all]
    rcases hw with rfl | ⟨before, rfl⟩
    · simp
    · simp
  rw [lineStart, taken, List.length_reverse, List.length_append, Nat.add_sub_cancel_right]

/-- Behind as many line feeds as whole lines hold the next line starts. -/
theorem lineOffset_append {lines : List Char} (hw : WholeLines lines) (rest : List Char) :
    lineOffset (lines.count '\n') (lines ++ rest) = lines.length := by
  rcases hw with rfl | ⟨before, rfl⟩
  · simp [lineOffset]
  · induction before with
    | nil => simp [lineOffset]
    | cons c before ih =>
      have hpos : (before ++ ['\n']).count '\n' = before.count '\n' + 1 := by simp
      rw [hpos] at ih
      by_cases hc : c = '\n'
      · have hcount : (c :: before ++ ['\n']).count '\n' = before.count '\n' + 1 + 1 := by
          simp [hc]
        rw [hcount, List.cons_append, List.cons_append, lineOffset, if_pos hc, ih]
        rfl
      · have hcount : (c :: before ++ ['\n']).count '\n' = before.count '\n' + 1 := by
          simp [hc]
        rw [hcount, List.cons_append, List.cons_append, lineOffset, if_neg hc, ih]
        rfl

/-- The position of the offset behind whole lines and the start of a line. -/
theorem position_append {lines last : List Char} (hw : WholeLines lines) (hl : '\n' ∉ last)
    (rest : List Char) :
    position (lines ++ last ++ rest) (lines ++ last).length =
      ⟨lines.count '\n' + 1, last.length + 1⟩ := by
  rw [position, List.take_left, lineStart_append hw hl, List.count_append,
    List.count_eq_zero_of_not_mem hl, List.length_append]
  simp only [Nat.add_zero, Nat.add_sub_cancel_left]

/-- In front of an offset there are whole lines and the start of another one. -/
theorem exists_before {text : List Char} {n : Nat} (h : n ≤ text.length) :
    ∃ lines last, text = lines ++ last ++ text.drop n ∧ (lines ++ last).length = n ∧
      WholeLines lines ∧ '\n' ∉ last := by
  obtain ⟨lines, last, hs, hw, hl⟩ := exists_wholeLines (text.take n)
  refine ⟨lines, last, ?_, ?_, hw, hl⟩
  · rw [← hs, List.take_append_drop]
  · rw [← hs, List.length_take, Nat.min_eq_left h]

/-- The position of an offset names the offset. -/
theorem offset_position {text : List Char} {n : Nat} (h : n ≤ text.length) :
    (position text n).offset text = n := by
  obtain ⟨lines, last, ht, hn, hw, hl⟩ := exists_before h
  have hp := position_append hw hl (text.drop n)
  rw [← ht, hn] at hp
  have ho := lineOffset_append hw (last ++ text.drop n)
  rw [← List.append_assoc, ← ht] at ho
  rw [hp, Position.offset, Nat.add_sub_cancel, Nat.add_sub_cancel, ho, ← hn, List.length_append]

/-- What follows a text does not change the positions in it. -/
theorem position_append_left {text : List Char} {n : Nat} (h : n ≤ text.length) (more : List Char) :
    position (text ++ more) n = position text n := by
  rw [position, position, List.take_append_of_le_length h]

/-- In front of a text whole lines only add to the numbers of its lines. -/
theorem position_append_right {lines : List Char} (hw : WholeLines lines) (text : List Char) (n : Nat)
    (h : n ≤ text.length) :
    position (lines ++ text) (lines.length + n) =
      ⟨lines.count '\n' + (position text n).line, (position text n).column⟩ := by
  obtain ⟨inner, last, ht, hn, hi, hl⟩ := exists_before h
  have joined : WholeLines (lines ++ inner) := by
    rcases hi with rfl | ⟨before, rfl⟩
    · rw [List.append_nil]
      exact hw
    · exact .inr ⟨lines ++ before, by rw [List.append_assoc]⟩
  have inside := position_append hi hl (text.drop n)
  rw [← ht, hn] at inside
  have outside := position_append joined hl (text.drop n)
  have hwhole : lines ++ inner ++ last ++ text.drop n = lines ++ text := by
    rw [List.append_assoc, List.append_assoc, ← List.append_assoc inner, ← ht]
  have hlength : (lines ++ inner ++ last).length = lines.length + n := by
    rw [List.append_assoc, List.length_append, hn]
  rw [hwhole, hlength, List.count_append] at outside
  rw [outside, inside, Nat.add_assoc]

/-! ## Lines -/

/-- The line of a position is one of the text, and the column stands in it or right behind it. -/
def Position.In (place : Position) (text : List Char) : Prop :=
  0 < place.line ∧ 0 < place.column ∧
    ∃ content, (splitAtEach '\n' text)[place.line - 1]? = some content ∧
      place.column ≤ content.length + 1

/-- Whole lines in front of a text are as many pieces in front of its pieces. -/
theorem splitAtEach_wholeLines {lines : List Char} (hw : WholeLines lines) (rest : List Char) :
    (splitAtEach '\n' (lines ++ rest))[lines.count '\n']? = (splitAtEach '\n' rest)[0]? := by
  rcases hw with rfl | ⟨before, rfl⟩
  · simp
  · induction before with
    | nil => simp [splitAtEach_mark]
    | cons c before ih =>
      by_cases hc : c = '\n'
      · subst hc
        rw [List.cons_append, List.cons_append, splitAtEach_mark, List.count_cons_self,
          List.getElem?_cons_succ, ih]
      · -- The first line grows by a character, and the line that is asked for is a later one.
        have hcount : (before ++ ['\n']).count '\n' = before.count '\n' + 1 := by simp
        rw [List.cons_append, List.cons_append, splitAtEach_other hc, List.count_cons_of_ne hc, ← ih,
          hcount]
        cases splitAtEach '\n' (before ++ ['\n'] ++ rest) <;> rfl

/-- The position of an offset is one of the text. -/
theorem position_in {text : List Char} {n : Nat} (h : n ≤ text.length) : (position text n).In text := by
  obtain ⟨lines, last, ht, hn, hw, hl⟩ := exists_before h
  have hp := position_append hw hl (text.drop n)
  rw [← ht, hn] at hp
  have hline := splitAtEach_wholeLines hw (last ++ text.drop n)
  rw [← List.append_assoc, ← ht, splitAtEach_append hl] at hline
  rw [hp]
  refine ⟨Nat.succ_pos _, Nat.succ_pos _, ?_⟩
  cases hsplit : splitAtEach '\n' (text.drop n) with
  | nil => exact absurd hsplit (splitAtEach_ne_nil _ _)
  | cons piece pieces =>
    rw [hsplit] at hline
    refine ⟨last ++ piece, hline, ?_⟩
    rw [List.length_append]
    dsimp only
    omega

/-- An offset behind a line feed is in a later line than one in front of it. -/
theorem line_lt_line {before behind : List Char} {m n : Nat} (hm : m ≤ before.length)
    (hn : before.length < n) :
    (position (before ++ '\n' :: behind) m).line < (position (before ++ '\n' :: behind) n).line := by
  have first : ((before ++ '\n' :: behind).take m).count '\n' ≤ before.count '\n' := by
    rw [List.take_append_of_le_length hm]
    exact (List.take_sublist m before).count_le '\n'
  have second : before.count '\n' + 1 ≤ ((before ++ '\n' :: behind).take n).count '\n' := by
    obtain ⟨k, rfl⟩ := Nat.exists_eq_add_of_lt hn
    rw [Nat.add_assoc, List.take_length_add_append, List.take_succ_cons, List.count_append,
      List.count_cons_self]
    omega
  rw [position, position]
  dsimp only
  omega

/-! ## Order -/

/-- A reader comes to the first place before the second. -/
def Position.Before (first second : Position) : Prop :=
  first.line < second.line ∨ first.line = second.line ∧ first.column < second.column

/-- A later offset has a later position: on a later line if a line feed lies between the two, and
further to the right otherwise. -/
theorem position_before {text : List Char} {m n : Nat} (h : m < n) (hn : n ≤ text.length) :
    (position text m).Before (position text n) := by
  obtain ⟨lines, last, ht, hm, hw, hl⟩ := exists_before (Nat.le_trans (Nat.le_of_lt h) hn)
  obtain ⟨between, rest, hd, hb⟩ : ∃ between rest, text.drop m = between ++ rest ∧
      m + between.length = n := by
    refine ⟨(text.drop m).take (n - m), _, (List.take_append_drop (n - m) _).symm, ?_⟩
    rw [List.length_take, List.length_drop]
    omega
  rw [hd] at ht
  by_cases hf : '\n' ∈ between
  · obtain ⟨front, behind, rfl⟩ := List.append_of_mem hf
    have hfeed : text = lines ++ last ++ front ++ '\n' :: (behind ++ rest) := by
      rw [ht, List.append_assoc front, List.cons_append, List.append_assoc (lines ++ last)]
    rw [List.length_append, List.length_cons] at hb
    refine .inl ?_
    rw [hfeed]
    refine line_lt_line ?_ ?_
    · rw [List.length_append, hm]
      omega
    · rw [List.length_append, hm]
      omega
  · have hlast : '\n' ∉ last ++ between := by
      rw [List.mem_append, not_or]
      exact ⟨hl, hf⟩
    have first := position_append hw hl (between ++ rest)
    have second := position_append hw hlast rest
    rw [← ht, hm] at first
    rw [← List.append_assoc, List.append_assoc _ between, ← ht, List.length_append, hm, hb] at second
    rw [first, second]
    refine .inr ⟨rfl, ?_⟩
    dsimp only
    rw [List.length_append]
    omega

/-- A line and the lines behind it. -/
theorem WholeLines.cons {lines : List Char} (hw : WholeLines lines) (line : List Char) :
    WholeLines (line ++ '\n' :: lines) := by
  rcases hw with rfl | ⟨before, rfl⟩
  · exact .inr ⟨line, rfl⟩
  · exact .inr ⟨line ++ '\n' :: before, by rw [List.append_assoc, List.cons_append]⟩

/-- A text is one line, or a line, a line feed and the text of the other lines. -/
theorem splitAtEach_lines (text : List Char) :
    ('\n' ∉ text ∧ splitAtEach '\n' text = [text]) ∨
      ∃ line rest, text = line ++ '\n' :: rest ∧ '\n' ∉ line ∧
        splitAtEach '\n' text = line :: splitAtEach '\n' rest := by
  by_cases hf : '\n' ∈ text
  · obtain ⟨line, rest, rfl, hl⟩ := List.eq_append_cons_of_mem hf
    exact .inr ⟨line, rest, rfl, hl, splitAtEach_piece hl rest⟩
  · have := splitAtEach_append hf []
    rw [List.append_nil] at this
    exact .inl ⟨hf, this.trans (by rw [splitAtEach, List.modifyHead_cons, List.append_nil])⟩

/-- A line of a text stands between whole lines, as many as its number says, and the rest. -/
theorem exists_line {text content : List Char} {n : Nat}
    (h : (splitAtEach '\n' text)[n]? = some content) :
    ∃ lines rest, text = lines ++ (content ++ rest) ∧ WholeLines lines ∧ lines.count '\n' = n ∧
      '\n' ∉ content := by
  induction n generalizing text with
  | zero =>
    rcases splitAtEach_lines text with ⟨hl, hs⟩ | ⟨line, rest, rfl, hl, hs⟩
    · rw [hs] at h
      cases h
      exact ⟨[], [], (List.append_nil _).symm, .inl rfl, rfl, hl⟩
    · rw [hs] at h
      cases h
      exact ⟨[], '\n' :: rest, rfl, .inl rfl, rfl, hl⟩
  | succ n ih =>
    rcases splitAtEach_lines text with ⟨-, hs⟩ | ⟨line, behind, rfl, hl, hs⟩
    · rw [hs] at h
      cases h
    · rw [hs, List.getElem?_cons_succ] at h
      obtain ⟨lines, rest, rfl, hw, rfl, hc⟩ := ih h
      refine ⟨line ++ '\n' :: lines, rest, ?_, hw.cons line, ?_, hc⟩
      · rw [List.append_assoc, List.cons_append]
      · rw [List.count_append, List.count_eq_zero_of_not_mem hl, List.count_cons_self, Nat.zero_add]

/-- A position of a text is the position of an offset. -/
theorem exists_offset {text : List Char} {place : Position} (h : place.In text) :
    ∃ n, n ≤ text.length ∧ position text n = place := by
  obtain ⟨hline, hcolumn, content, hc, hle⟩ := h
  obtain ⟨lines, rest, rfl, hw, hcount, hn⟩ := exists_line hc
  have hcut : content ++ rest =
      content.take (place.column - 1) ++ (content.drop (place.column - 1) ++ rest) := by
    rw [← List.append_assoc, List.take_append_drop]
  have hlast : '\n' ∉ content.take (place.column - 1) := fun hm => hn (List.mem_of_mem_take hm)
  have hp := position_append hw hlast (content.drop (place.column - 1) ++ rest)
  rw [List.append_assoc, ← hcut] at hp
  refine ⟨_, ?_, hp.trans ?_⟩
  · simp only [List.length_append, List.length_take]
    omega
  · rw [List.length_take, Nat.min_eq_left (by omega), hcount, Nat.sub_add_cancel hline,
      Nat.sub_add_cancel hcolumn]

end PageScript.Text
