import PageScript.Proofs.Script.Gaps

/-!
# Items that open nothing

Between brackets stand, besides groups and double-quoted strings, single-quoted strings, here-strings,
comments, escaped characters and plain ones. `FlatItem` says what these are without the functions that
read them. Where an item ends may depend on what follows it, so a piece of text is an item in front of
some text. The reader passes over such an item and over nothing else, but for a backtick at the end of
the text (`FlatItem.read`, `item_of_flatItem`).
-/

namespace PageScript.Script

/-- What may stand between apostrophes: an apostrophe only doubled. -/
inductive SingleBody : List Char → Prop where
  | nil : SingleBody []
  | doubled {body : List Char} : SingleBody body → SingleBody ('\'' :: '\'' :: body)
  | plain {c : Char} {body : List Char} : c ≠ '\'' → SingleBody body → SingleBody (c :: body)

/-- The first line of a here-string behind its at sign, without the line feed. -/
structure HereOpening (quote : Char) (blanks : List Char) : Prop where
  quote : quote = '\'' ∨ quote = '"'
  blanks : ∀ c ∈ blanks, c = ' ' ∨ c = '\t'

/-- The lines of a here-string, each behind its line feed: they do not close it. -/
structure HereLines (quote : Char) (lines : List Char) : Prop where
  start : lines = [] ∨ ∃ body, lines = '\n' :: body
  open_ : ¬ ['\n', quote, '@'] <:+: lines ++ ['\n', quote]

/-- A here-string starts here. -/
def StartsHere (text : List Char) : Prop :=
  ∃ quote blanks body, HereOpening quote blanks ∧ text = '@' :: quote :: (blanks ++ '\n' :: body)

/-- A character that stands for itself in front of `rest`. -/
structure Plain (c : Char) (rest : List Char) : Prop where
  ordinary : c ∉ ['(', ')', '\x7b', '\x7d', '[', ']', '\'', '"', '#', '`']
  noComment : c = '<' → rest.head? ≠ some '#'
  noHere : ¬ StartsHere (c :: rest)

/-- `piece`, in front of `rest`, is an item without others in it. -/
inductive FlatItem : List Char → List Char → Prop where
  | single {body rest : List Char} : SingleBody body → rest.head? ≠ some '\'' →
    FlatItem ('\'' :: (body ++ ['\''])) rest
  | here {quote : Char} {blanks lines rest : List Char} : HereOpening quote blanks →
    HereLines quote lines → FlatItem ('@' :: quote :: (blanks ++ lines ++ ['\n', quote, '@'])) rest
  | lineComment {body rest : List Char} : '\n' ∉ body → AtLineEnd rest → FlatItem ('#' :: body) rest
  | blockComment {body rest : List Char} : CommentBody body →
    FlatItem ('<' :: '#' :: (body ++ ['#', '>'])) rest
  | escaped (c : Char) (rest : List Char) : FlatItem ['`', c] rest
  | plain {c : Char} {rest : List Char} : Plain c rest → FlatItem [c] rest

theorem singleQuotedBody_of_body {body rest : List Char} (h : SingleBody body)
    (hr : rest.head? ≠ some '\'') (opened : List Char) :
    ∃ value, singleQuotedBody opened (body ++ '\'' :: rest) = .ok (value, rest) := by
  induction h with
  | nil =>
    refine ⟨[], ?_⟩
    rw [List.nil_append, singleQuotedBody]
    rintro behind rfl
    exact hr rfl
  | doubled _ ih =>
    obtain ⟨value, hv⟩ := ih
    refine ⟨'\'' :: value, ?_⟩
    rw [List.cons_append, List.cons_append, singleQuotedBody, hv]
    rfl
  | @plain c body hc _ ih =>
    obtain ⟨value, hv⟩ := ih
    refine ⟨c :: value, ?_⟩
    rw [List.cons_append, singleQuotedBody.eq_3, hv]
    · rfl
    · intro behind he
      exact absurd he hc
    · intro he
      exact absurd he hc

theorem body_of_singleQuotedBody {opened text value rest : List Char}
    (h : singleQuotedBody opened text = .ok (value, rest)) :
    ∃ body, text = body ++ '\'' :: rest ∧ SingleBody body ∧ rest.head? ≠ some '\'' := by
  fun_induction singleQuotedBody opened text generalizing value with
  | case1 t ih =>
    obtain ⟨out, ho, he⟩ := ok_of_map h
    cases he
    obtain ⟨body, rfl, hb, hr⟩ := ih ho
    exact ⟨'\'' :: '\'' :: body, rfl, .doubled hb, hr⟩
  | case2 t hn =>
    cases h
    refine ⟨[], rfl, .nil, ?_⟩
    intro hh
    obtain ⟨behind, rfl⟩ := List.head?_eq_some_iff.1 hh
    exact hn behind rfl
  | case3 c t _ hc ih =>
    obtain ⟨out, ho, he⟩ := ok_of_map h
    cases he
    obtain ⟨body, rfl, hb, hr⟩ := ih ho
    exact ⟨c :: body, rfl, .plain hc hb, hr⟩
  | case4 => cases h

theorem isHereBlank_iff {c : Char} : (c == ' ' || c == '\t') = true ↔ c = ' ' ∨ c = '\t' := by
  rw [Bool.or_eq_true, beq_iff_eq, beq_iff_eq]

theorem hereStringHead?_of_opening {quote : Char} {blanks : List Char} (h : HereOpening quote blanks)
    (body : List Char) :
    hereStringHead? ('@' :: quote :: (blanks ++ '\n' :: body)) = some (quote, body) := by
  have hq : (quote == '\'' || quote == '"') = true := by
    rw [Bool.or_eq_true, beq_iff_eq, beq_iff_eq]
    exact h.quote
  have hd : (blanks ++ '\n' :: body).dropWhile (fun c => c == ' ' || c == '\t') = '\n' :: body :=
    List.dropWhile_append_of_pos fun c hc => isHereBlank_iff.2 (h.blanks c hc)
  rw [hereStringHead?, if_pos hq, hd]
  rfl

theorem opening_of_hereStringHead? {text body : List Char} {quote : Char}
    (h : hereStringHead? text = some (quote, body)) :
    ∃ blanks, HereOpening quote blanks ∧ text = '@' :: quote :: (blanks ++ '\n' :: body) := by
  unfold hereStringHead? at h
  split at h
  · rename_i q rest
    split at h
    · rename_i hq
      split at h
      · rename_i hd
        cases h
        refine ⟨rest.takeWhile fun c => c == ' ' || c == '\t', ⟨?_, ?_⟩, ?_⟩
        · rwa [Bool.or_eq_true, beq_iff_eq, beq_iff_eq] at hq
        · intro c hc
          exact isHereBlank_iff.1 (List.all_eq_true.1 List.all_takeWhile c hc)
        · rw [← hd, List.takeWhile_append_dropWhile]
      · cases h
    · cases h
  · cases h

/-- The head of a here-string is recognised exactly where one starts. -/
theorem hereStringHead?_eq_none_iff {text : List Char} :
    hereStringHead? text = none ↔ ¬ StartsHere text := by
  constructor
  · rintro h ⟨quote, blanks, body, ho, rfl⟩
    rw [hereStringHead?_of_opening ho] at h
    cases h
  · intro h
    cases hh : hereStringHead? text with
    | none => rfl
    | some head =>
      obtain ⟨blanks, ho, ht⟩ := opening_of_hereStringHead? hh
      exact absurd ⟨_, blanks, _, ho, ht⟩ h

theorem hereStringBody_of_lines {quote : Char} {lines body rest : List Char}
    (h : HereLines quote lines) (hb : '\n' :: body = lines ++ ['\n', quote, '@'] ++ rest)
    (opened : List Char) : ∃ value, hereStringBody opened quote body = .ok (value, rest) := by
  refine ⟨lines.tail, ?_⟩
  rw [hereStringBody, hb, Text.cut?_of_not_infix (by simp) h.open_]

theorem lines_of_hereStringBody {quote : Char} {opened body value rest : List Char}
    (h : hereStringBody opened quote body = .ok (value, rest)) :
    ∃ lines, HereLines quote lines ∧ '\n' :: body = lines ++ ['\n', quote, '@'] ++ rest := by
  unfold hereStringBody at h
  split at h
  · rename_i lines after hc
    cases h
    have ht := Text.eq_of_cut? hc
    refine ⟨lines, ⟨?_, Text.not_infix_of_cut? (by simp) hc⟩, ht⟩
    cases lines with
    | nil => exact .inl rfl
    | cons c lines =>
      obtain ⟨rfl, -⟩ := List.cons.inj ht
      exact .inr ⟨lines, rfl⟩
  · cases h

/-! ## The reader of flat items -/

/-- A character that a flat item can start with: no bracket and no double quote. -/
structure StartsFlat (c : Char) : Prop where
  noOpener : closerOf? c = none
  noCloser : isCloser c = false
  noQuote : c ≠ '"'

theorem closerOf?_eq_none {c : Char} (ho : c ≠ '(') (hb : c ≠ '\x7b') (hs : c ≠ '[') :
    closerOf? c = none := by
  unfold closerOf?
  split
  · exact absurd rfl ho
  · exact absurd rfl hb
  · exact absurd rfl hs
  · rfl

theorem Plain.startsFlat {c : Char} {rest : List Char} (h : Plain c rest) : StartsFlat c := by
  have ho := h.ordinary
  simp only [List.mem_cons, List.not_mem_nil, or_false, not_or] at ho
  obtain ⟨h1, h2, h3, h4, h5, h6, -, h8, -, -⟩ := ho
  exact ⟨closerOf?_eq_none h1 h3 h5, by simp [isCloser, h2, h4, h6], h8⟩

theorem StartsFlat.plain {c : Char} {rest : List Char} (hs : StartsFlat c)
    (hc : c ≠ '\'' ∧ c ≠ '#' ∧ c ≠ '`') (hl : c = '<' → rest.head? ≠ some '#')
    (hh : ¬ StartsHere (c :: rest)) : Plain c rest := by
  refine ⟨?_, hl, hh⟩
  have opener {d : Char} (hd : (closerOf? d).isSome = true) : c ≠ d := by
    rintro rfl
    rw [hs.noOpener] at hd
    cases hd
  have closer := hs.noCloser
  simp only [isCloser, Bool.or_eq_false_iff, beq_eq_false_iff_ne] at closer
  simp only [List.mem_cons, List.not_mem_nil, or_false, not_or]
  exact ⟨opener rfl, closer.1.1, opener rfl, closer.1.2, opener rfl, closer.2, hc.1, hs.noQuote,
    hc.2.1, hc.2.2⟩

/-- The reader passes over a flat item. -/
theorem FlatItem.read {piece rest : List Char} (h : FlatItem piece rest) :
    ∃ c tail, piece = c :: tail ∧ StartsFlat c ∧ flatItem c (tail ++ rest) = .ok rest := by
  cases h with
  | @single body _ hb hr =>
    refine ⟨'\'', body ++ ['\''], rfl, ⟨rfl, rfl, by decide⟩, ?_⟩
    obtain ⟨value, hv⟩ := singleQuotedBody_of_body hb hr ('\'' :: (body ++ '\'' :: rest))
    rw [List.append_assoc, List.singleton_append, flatItem, if_pos rfl, hv]
    rfl
  | @here quote blanks lines _ ho hl =>
    refine ⟨'@', quote :: (blanks ++ lines ++ ['\n', quote, '@']), rfl, ⟨rfl, rfl, by decide⟩, ?_⟩
    -- The lines start with the line feed that ends the first one.
    obtain ⟨body, hbody⟩ : ∃ body, '\n' :: body = lines ++ ['\n', quote, '@'] ++ rest := by
      rcases hl.start with rfl | ⟨body, rfl⟩
      · exact ⟨_, rfl⟩
      · exact ⟨_, rfl⟩
    have htext : quote :: (blanks ++ lines ++ ['\n', quote, '@']) ++ rest =
        quote :: (blanks ++ '\n' :: body) := by
      rw [hbody]
      simp only [List.cons_append, List.append_assoc]
    obtain ⟨value, hv⟩ := hereStringBody_of_lines hl hbody ('@' :: quote :: (blanks ++ '\n' :: body))
    rw [htext, flatItem, if_neg (by decide), hereStringHead?_of_opening ho]
    dsimp only
    rw [hv]
    rfl
  | @lineComment body _ hb hr =>
    refine ⟨'#', body, rfl, ⟨rfl, rfl, by decide⟩, ?_⟩
    have hd : (body ++ rest).dropWhile (· != '\n') = rest := by
      rw [List.dropWhile_append_of_pos]
      · rcases hr with rfl | ⟨behind, rfl⟩ <;> rfl
      · intro c hc
        rw [bne_iff_ne]
        rintro rfl
        exact hb hc
    exact congrArg Except.ok hd
  | @blockComment body _ hb =>
    refine ⟨'<', '#' :: (body ++ ['#', '>']), rfl, ⟨rfl, rfl, by decide⟩, ?_⟩
    have hc : Text.cut? ['#', '>'] (body ++ ['#', '>'] ++ rest) = some (body, rest) :=
      Text.cut?_of_not_infix (by simp) hb rest
    show skipBlockComment ('<' :: '#' :: (body ++ ['#', '>'] ++ rest)) = .ok rest
    rw [skipBlockComment, List.drop_succ_cons, List.drop_succ_cons, List.drop_zero, Text.after?, hc]
    rfl
  | escaped c _ => exact ⟨'`', [c], rfl, ⟨rfl, rfl, by decide⟩, rfl⟩
  | @plain c _ hp =>
    refine ⟨c, [], rfl, hp.startsFlat, ?_⟩
    have ho := hp.ordinary
    simp only [List.mem_cons, List.not_mem_nil, or_false, not_or] at ho
    obtain ⟨-, -, -, -, -, -, h7, -, h9, h10⟩ := ho
    rw [List.nil_append, flatItem, if_neg h7, hereStringHead?_eq_none_iff.2 hp.noHere]
    dsimp only
    rw [if_neg h9, if_neg fun hc => hp.noComment hc.1 hc.2, if_neg h10]

/-- What the reader passes over is a flat item, or a backtick at the end of the text. -/
theorem item_of_flatItem {c : Char} {rest after : List Char} (hs : StartsFlat c)
    (h : flatItem c rest = .ok after) :
    (c = '`' ∧ rest = []) ∨ ∃ piece, c :: rest = piece ++ after ∧ FlatItem piece after := by
  unfold flatItem at h
  split at h
  · rename_i hc
    subst hc
    obtain ⟨⟨value, behind⟩, hb, rfl⟩ := ok_of_map h
    obtain ⟨body, rfl, hbody, hr⟩ := body_of_singleQuotedBody hb
    refine .inr ⟨'\'' :: (body ++ ['\'']), ?_, .single hbody hr⟩
    rw [List.cons_append, List.append_assoc]
    rfl
  · rename_i hsingle
    split at h
    · rename_i quote body hh
      obtain ⟨⟨value, behind⟩, hb, rfl⟩ := ok_of_map h
      obtain ⟨blanks, ho, ht⟩ := opening_of_hereStringHead? hh
      obtain ⟨lines, hl, hbody⟩ := lines_of_hereStringBody hb
      refine .inr ⟨_, ?_, .here ho hl⟩
      rw [ht, hbody]
      simp only [List.cons_append, List.append_assoc]
    · rename_i hhere
      split at h
      · rename_i hc
        subst hc
        cases h
        obtain ⟨body, ht, hb, hend⟩ := skipLineComment_body rest
        exact .inr ⟨'#' :: body, congrArg ('#' :: ·) ht, .lineComment hb hend⟩
      · rename_i hhash
        split at h
        · rename_i hc
          obtain ⟨rfl, hhead⟩ := hc
          obtain ⟨t, rfl⟩ := List.head?_eq_some_iff.1 hhead
          obtain ⟨body, rfl, hb⟩ := skipBlockComment_body h
          refine .inr ⟨'<' :: '#' :: (body ++ ['#', '>']), ?_, .blockComment hb⟩
          rw [List.cons_append, List.cons_append, List.append_assoc]
          rfl
        · rename_i hcomment
          split at h
          · rename_i hc
            subst hc
            cases h
            cases rest with
            | nil => exact .inl ⟨rfl, rfl⟩
            | cons d t => exact .inr ⟨['`', d], rfl, .escaped d t⟩
          · rename_i htick
            cases h
            refine .inr ⟨[c], rfl, .plain (hs.plain ?_ ?_ (hereStringHead?_eq_none_iff.1 hhere))⟩
            · exact ⟨hsingle, hhash, htick⟩
            · intro hc hhead
              exact hcomment ⟨hc, hhead⟩

end PageScript.Script
