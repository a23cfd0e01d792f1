/-!
# Cutting texts

Cutting at the first occurrence of a pattern, at the last one, and at every one. Nothing is lost:
the pieces joined by the pattern give the text back.
-/

namespace PageScript.Text

/-- The parts of `text` before and after the first occurrence of `pattern`. -/
def cut? (pattern : List Char) : List Char → Option (List Char × List Char)
  | [] => if pattern.isEmpty then some ([], []) else none
  | c :: rest =>
    if pattern.isPrefixOf (c :: rest) then some ([], (c :: rest).drop pattern.length)
    else (cut? pattern rest).map fun (before, after) => (c :: before, after)

/-- What follows the first occurrence of `pattern`. -/
def after? (pattern text : List Char) : Option (List Char) := (cut? pattern text).map (·.2)

theorem eq_of_cut? {pattern text before after : List Char}
    (h : cut? pattern text = some (before, after)) : text = before ++ pattern ++ after := by
  induction text generalizing before after with
  | nil =>
    simp only [cut?] at h
    split at h <;> simp_all
  | cons c rest ih =>
    simp only [cut?] at h
    split at h
    · rename_i hp
      simp only [Option.some.injEq, Prod.mk.injEq] at h
      obtain ⟨rfl, rfl⟩ := h
      obtain ⟨t, ht⟩ := List.isPrefixOf_iff_prefix.1 hp
      simp [← ht]
    · obtain ⟨⟨b, a⟩, hc, he⟩ := Option.map_eq_some_iff.1 h
      simp only [Prod.mk.injEq] at he
      obtain ⟨rfl, rfl⟩ := he
      rw [ih hc]
      simp

theorem suffix_of_after? {pattern text rest : List Char} (h : after? pattern text = some rest) :
    rest <:+ text := by
  obtain ⟨⟨before, after⟩, hc, rfl⟩ := Option.map_eq_some_iff.1 h
  exact ⟨before ++ pattern, (eq_of_cut? hc).symm⟩

/-- The parts before and after the first `mark`, or the whole text and nothing. -/
def cutFirst (mark : Char) (text : List Char) : List Char × Option (List Char) :=
  match text.dropWhile (· != mark) with
  | [] => (text, none)
  | _ :: after => (text.takeWhile (· != mark), some after)

/-- The parts before and after the last `mark`, or nothing and the whole text. -/
def cutLast (mark : Char) (text : List Char) : Option (List Char) × List Char :=
  match cutFirst mark text.reverse with
  | (_, none) => (none, text)
  | (after, some before) => (some before.reverse, after.reverse)

/-- The pieces of `text` between the occurrences of `mark`; always at least one. -/
def splitAtEach (mark : Char) : List Char → List (List Char)
  | [] => [[]]
  | c :: rest =>
    if c = mark then [] :: splitAtEach mark rest
    else
      match splitAtEach mark rest with
      | piece :: pieces => (c :: piece) :: pieces
      | [] => [[c]]

/-- `text` with every CR LF replaced by LF. -/
def unifyLineEnds : List Char → List Char
  | '\r' :: '\n' :: rest => '\n' :: unifyLineEnds rest
  | c :: rest => c :: unifyLineEnds rest
  | [] => []

/-- Unifying the line ends keeps the last character. -/
theorem getLast?_unifyLineEnds (text : List Char) :
    (unifyLineEnds text).getLast? = text.getLast? := by
  fun_induction unifyLineEnds text with
  | case1 rest ih =>
    rw [List.getLast?_cons, ih, List.getLast?_cons, List.getLast?_cons]
    rfl
  | case2 c rest _ ih => rw [List.getLast?_cons, ih, List.getLast?_cons]
  | case3 => rfl

/-- `text` with every line feed replaced by `lineEnd`. -/
def replaceLineEnds (lineEnd text : List Char) : List Char :=
  text.flatMap fun c => if c = '\n' then lineEnd else [c]

end PageScript.Text
