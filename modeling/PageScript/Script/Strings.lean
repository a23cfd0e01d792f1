import PageScript.Script.Blanks

/-!
# Single-quoted strings and here-strings

A single-quoted string ends at the first apostrophe that is not doubled. A here-string opens with an
at sign, a quote and the end of its line, and closes with the same quote and an at sign at the start
of a line. Both are read without regard to anything inside them.
-/

namespace PageScript.Script

/-- The value and the rest of a single-quoted string behind its opening quote at `opened`. -/
def singleQuotedBody (opened : List Char) : List Char → Except Fault (List Char × List Char)
  | '\'' :: '\'' :: rest =>
    (singleQuotedBody opened rest).map fun (value, after) => ('\'' :: value, after)
  | '\'' :: rest => .ok ([], rest)
  | c :: rest => (singleQuotedBody opened rest).map fun (value, after) => (c :: value, after)
  | [] => .error (.problem (.openString "'") opened [])

/-- Reads a single-quoted string; a doubled quote stands for one quote. -/
def singleQuoted (text : List Char) : Except Fault (List Char × List Char) :=
  singleQuotedBody text text.tail

theorem singleQuotedBody_suffix {opened text value rest : List Char}
    (h : singleQuotedBody opened text = .ok (value, rest)) :
    rest <:+ text ∧ rest.length < text.length := by
  fun_induction singleQuotedBody opened text generalizing value with
  | case1 t ih =>
    cases ht : singleQuotedBody opened t with
    | error => simp [ht, Except.map] at h
    | ok p =>
      simp only [ht, Except.map, Except.ok.injEq, Prod.mk.injEq] at h
      obtain ⟨hs, hl⟩ := @ih p.1 (by rw [ht, ← h.2])
      exact ⟨hs.trans ⟨['\'', '\''], rfl⟩, by simp only [List.length_cons]; omega⟩
  | case2 t _ =>
    simp only [Except.ok.injEq, Prod.mk.injEq] at h
    rw [← h.2]
    exact ⟨List.suffix_cons _ _, by simp⟩
  | case3 c t _ _ ih =>
    cases ht : singleQuotedBody opened t with
    | error => simp [ht, Except.map] at h
    | ok p =>
      simp only [ht, Except.map, Except.ok.injEq, Prod.mk.injEq] at h
      obtain ⟨hs, hl⟩ := @ih p.1 (by rw [ht, ← h.2])
      exact ⟨hs.trans (List.suffix_cons _ _), by simp only [List.length_cons]; omega⟩
  | case4 => cases h

/-- The quote of a here-string that starts `text`, and what follows its first line. -/
def hereStringHead? : List Char → Option (Char × List Char)
  | '@' :: quote :: rest =>
    if quote == '\'' || quote == '"' then
      match rest.dropWhile fun c => c == ' ' || c == '\t' with
      | '\n' :: body => some (quote, body)
      | _ => none
    else none
  | _ => none

/-- The body and the rest of the here-string at `opened`, where `text` follows its first line. -/
def hereStringBody (opened : List Char) (quote : Char) (text : List Char) :
    Except Fault (List Char × List Char) :=
  match Text.cut? ['\n', quote, '@'] ('\n' :: text) with
  | some (body, rest) => .ok (body.tail, rest)
  | none => .error (.problem (.openString (String.ofList [quote, '@'])) opened opened)

theorem hereStringHead?_suffix {text body : List Char} {quote : Char}
    (h : hereStringHead? text = some (quote, body)) :
    body <:+ text ∧ body.length + 3 ≤ text.length := by
  unfold hereStringHead? at h
  split at h
  · rename_i q rest
    split at h
    · split at h
      · rename_i b hb
        simp only [Option.some.injEq, Prod.mk.injEq] at h
        obtain ⟨rfl, rfl⟩ := h
        have hs : '\n' :: b <:+ rest := hb ▸ List.dropWhile_suffix _
        have hl := hs.length_le
        simp only [List.length_cons] at hl
        exact ⟨((List.suffix_cons '\n' b).trans hs).trans ⟨['@', q], rfl⟩,
          by simp only [List.length_cons]; omega⟩
      · cases h
    · cases h
  · cases h

theorem hereStringBody_suffix {opened text body rest : List Char} {quote : Char}
    (h : hereStringBody opened quote text = .ok (body, rest)) : rest <:+ text := by
  unfold hereStringBody at h
  split at h
  · rename_i b r hc
    simp only [Except.ok.injEq, Prod.mk.injEq] at h
    obtain ⟨-, rfl⟩ := h
    have he := Text.eq_of_cut? hc
    cases b with
    | nil =>
      simp only [List.nil_append, List.cons_append, List.cons.injEq, true_and] at he
      exact ⟨[quote, '@'], by simp [he]⟩
    | cons x b =>
      simp only [List.cons_append, List.cons.injEq, List.append_assoc] at he
      exact ⟨b ++ ['\n', quote, '@'], by simp [he.2]⟩
  · cases h

end PageScript.Script
