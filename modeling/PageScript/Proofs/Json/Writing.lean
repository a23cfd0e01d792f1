import PageScript.Proofs.Json.Scalars

/-!
# What a piece of a JSON text writes

Reading a value looks at the value and, to see where a number ends, at the character behind it. So a
value that is found in front of one text is found in front of every text that does not go on with a
number: `finds_written` cuts the piece out of the text that writes the value, and `Writes` says what
that piece is worth elsewhere. Lists are taken apart in the same way, into pieces with blanks around
them (`Piece`) that are separated by commas (`listed`).
-/

namespace PageScript.Json

/-! ## Blanks -/

/-- The text consists of blanks. -/
def Blanks (text : List Char) : Prop := ∀ c ∈ text, isSpace c = true

theorem blanks_nil : Blanks [] := by simp [Blanks]

theorem skipSpace_split (text : List Char) : ∃ b, Blanks b ∧ text = b ++ skipSpace text :=
  ⟨text.takeWhile isSpace, List.all_eq_true.1 List.all_takeWhile,
    List.takeWhile_append_dropWhile.symm⟩

theorem skipSpace_ends {text : List Char} (h : Ends isSpace text) : skipSpace text = text := by
  cases text with
  | nil => rfl
  | cons c t => exact List.dropWhile_cons_of_neg (by simp [ends_cons.1 h])

theorem skipSpace_blanks {b : List Char} (hb : Blanks b) {text : List Char} (h : Ends isSpace text) :
    skipSpace (b ++ text) = text := by
  rw [skipSpace, List.dropWhile_append_of_pos hb]
  exact skipSpace_ends h

/-- What follows blanks does not go on with a number in front of them. -/
theorem stops_blanks {b : List Char} (hb : Blanks b) {c : Char} (hc : continues c = false)
    (t : List Char) : Stops (b ++ c :: t) := by
  cases b with
  | nil => exact ends_cons.2 hc
  | cons d b =>
    have hd := hb d List.mem_cons_self
    simp only [isSpace, Bool.or_eq_true, beq_iff_eq] at hd
    rw [Stops, List.cons_append, ends_cons]
    rcases hd with ((rfl | rfl) | rfl) | rfl <;> rfl

/-! ## Lists -/

section

variable {α : Type} {inner other : Reader α} {closer : Char}

/-- The text writes a value for a reader: it does not start with a blank, and in front of anything that
does not go on with a number the reader finds the value in it and stops behind it. -/
structure Writes (reader : Reader α) (w : List Char) (value : α) : Prop where
  starts : Ends isSpace w
  finds : ∀ rest, Stops rest → Finds reader (w ++ rest) value rest

theorem Writes.ne_nil {w : List Char} {value : α} (h : Writes inner w value) : w ≠ [] := by
  rintro rfl
  obtain ⟨found, -, -, hr⟩ := h.finds [] (ends_nil _)
  have := found.shorter
  simp at this

theorem Writes.starts_append {w : List Char} {value : α} (h : Writes inner w value)
    (rest : List Char) : Ends isSpace (w ++ rest) := by
  obtain ⟨c, t, rfl⟩ := List.exists_cons_of_ne_nil h.ne_nil
  exact ends_cons.2 (ends_cons.1 h.starts)

/-- The parts of a list that is not empty, found one after the other up to the character that closes
the list. -/
inductive Parts (closer : Char) (inner : Reader α) : List Char → List α → List Char → Prop where
  | last {text behind rest : List Char} {value : α} : Finds inner text value behind →
    skipSpace behind = closer :: rest → Parts closer inner text [value] rest
  | next {text behind after rest : List Char} {value : α} {values : List α} :
    Finds inner text value behind → skipSpace behind = ',' :: after →
    Parts closer inner (skipSpace after) values rest →
    Parts closer inner text (value :: values) rest

theorem Finds.length {text rest : List Char} {value : α} (h : Finds inner text value rest) :
    rest.length < text.length := by
  obtain ⟨found, -, -, rfl⟩ := h
  exact found.shorter

/-- Behind a part the text is shorter. -/
theorem length_skipSpace_lt {text behind after : List Char} {c : Char}
    (h : behind.length < text.length) (hs : skipSpace behind = c :: after) :
    (skipSpace after).length < text.length := by
  have h1 := (skipSpace_suffix behind).length_le
  have h2 := (skipSpace_suffix after).length_le
  rw [hs, List.length_cons] at h1
  omega

theorem parts_of_finds {text rest : List Char} {values : List α}
    (h : Finds (readListFrom closer inner) text values rest) :
    Parts closer inner text values rest := by
  obtain ⟨found, h, rfl, rfl⟩ := h
  rw [readListFrom] at h
  obtain ⟨first, hf, h⟩ := ok_of_bind h
  have hfirst : Finds inner text first.value first.rest := ⟨first, hf, rfl, rfl⟩
  split at h
  · rename_i c after hs
    dsimp only at h
    split at h
    · rename_i hc
      cases h
      exact .last hfirst (hc ▸ hs)
    · split at h
      · rename_i hc
        obtain ⟨others, ho, h⟩ := ok_of_bind h
        cases h
        have shorter := length_skipSpace_lt first.shorter hs
        exact .next hfirst (hc ▸ hs) (parts_of_finds ⟨others, ho, rfl, rfl⟩)
      · cases h
  · cases h
termination_by text.length

theorem Parts.finds {text rest : List Char} {values : List α} (hc : closer ≠ ',')
    (h : Parts closer inner text values rest) :
    Finds (readListFrom closer inner) text values rest := by
  induction h with
  | last hv hs =>
    obtain ⟨first, hf, rfl, rfl⟩ := hv
    rw [Finds, readListFrom, hf]
    simp only [bind, Except.bind]
    split
    · rename_i he
      cases hs.symm.trans he
      rw [if_pos rfl]
      exact ⟨_, rfl, rfl, rfl⟩
    · rename_i he
      cases hs.symm.trans he
  | next hv hs _ ih =>
    obtain ⟨first, hf, rfl, rfl⟩ := hv
    obtain ⟨others, ho, rfl, rfl⟩ := ih
    rw [Finds, readListFrom, hf]
    simp only [bind, Except.bind]
    split
    · rename_i he
      cases hs.symm.trans he
      rw [if_neg hc.symm, if_pos rfl, ho]
      exact ⟨_, rfl, rfl, rfl⟩
    · rename_i he
      cases hs.symm.trans he

/-- Readers that agree on all texts up to a length find the same parts. -/
theorem Parts.mono {n : Nat} {text rest : List Char} {values : List α}
    (h : Parts closer inner text values rest) (hl : text.length < n)
    (hi : ∀ t, t.length < n → ∀ value behind, Finds inner t value behind → Finds other t value behind) :
    Parts closer other text values rest := by
  induction h with
  | last hv hs => exact .last (hi _ hl _ _ hv) hs
  | next hv hs _ ih =>
    exact .next (hi _ hl _ _ hv) hs (ih (Nat.lt_trans (length_skipSpace_lt hv.length hs) hl))

/-- A part of a list as it is written, between blanks, and what it says. -/
structure Piece (reader : Reader α) where
  before : List Char
  text : List Char
  behind : List Char
  value : α
  blanks_before : Blanks before
  blanks_behind : Blanks behind
  writes : Writes reader text value

/-- The part with the blanks around it. -/
def Piece.padded (p : Piece inner) : List Char := p.before ++ (p.text ++ p.behind)

/-- The parts of a list, separated by commas. -/
def listed : List (Piece inner) → List Char
  | [] => []
  | [p] => p.padded
  | p :: q :: rest => p.padded ++ ',' :: listed (q :: rest)

/-- Parts that are found in a text lie there side by side, if each of them writes its value. -/
theorem Parts.pieces {n : Nat} {text rest : List Char} {values : List α}
    (h : Parts closer inner text values rest) (hl : text.length < n)
    (hi : ∀ t, t.length < n → ∀ value behind, Finds inner t value behind →
      ∃ w, t = w ++ behind ∧ Writes inner w value)
    {before : List Char} (hb : Blanks before) :
    ∃ (p : Piece inner) (ps : List (Piece inner)),
      before ++ text = listed (p :: ps) ++ closer :: rest ∧ (p :: ps).map Piece.value = values := by
  induction h generalizing before with
  | @last text behind rest value hv hs =>
    obtain ⟨w, rfl, hw⟩ := hi _ hl _ _ hv
    obtain ⟨b, hbb, he⟩ := skipSpace_split behind
    refine ⟨⟨before, w, b, value, hb, hbb, hw⟩, [], ?_, rfl⟩
    rw [hs] at he
    simp only [he, listed, Piece.padded, List.append_assoc]
  | @next text behind after rest value values hv hs _ ih =>
    obtain ⟨w, rfl, hw⟩ := hi _ hl _ _ hv
    obtain ⟨b, hbb, he⟩ := skipSpace_split behind
    obtain ⟨gap, hgap, ha⟩ := skipSpace_split after
    obtain ⟨p, ps, hp, rfl⟩ := ih (Nat.lt_trans (length_skipSpace_lt hv.length hs) hl) hgap
    refine ⟨⟨before, w, b, value, hb, hbb, hw⟩, p :: ps, ?_, rfl⟩
    rw [hs, ha, hp] at he
    simp only [he, listed, Piece.padded, List.append_assoc, List.cons_append]

theorem Piece.skipSpace_padded (p : Piece inner) (rest : List Char) :
    skipSpace (p.padded ++ rest) = p.text ++ (p.behind ++ rest) := by
  rw [Piece.padded, List.append_assoc, List.append_assoc]
  exact skipSpace_blanks p.blanks_before (p.writes.starts_append _)

/-- A list starts with its first part, and behind that with a comma or with what follows the list. -/
theorem skipSpace_listed (p : Piece inner) (ps : List (Piece inner)) (rest : List Char) :
    ∃ more, skipSpace (listed (p :: ps) ++ rest) = p.text ++ (p.behind ++ more) ∧
      (more = rest ∨ ∃ t, more = ',' :: t) := by
  cases ps with
  | nil => exact ⟨rest, p.skipSpace_padded rest, .inl rfl⟩
  | cons q ps =>
    rw [listed, List.append_assoc]
    exact ⟨_, p.skipSpace_padded _, .inr ⟨_, rfl⟩⟩

theorem ends_listed {kind : Char → Bool} (p : Piece inner) (ps : List (Piece inner))
    (rest : List Char) : Ends kind (skipSpace (listed (p :: ps) ++ rest)) ↔ Ends kind p.text := by
  obtain ⟨more, hmore, -⟩ := skipSpace_listed p ps rest
  obtain ⟨c, u, hp⟩ := List.exists_cons_of_ne_nil p.writes.ne_nil
  rw [hmore, hp, List.cons_append, ends_cons, ends_cons]

/-- Pieces side by side are found as the parts of a list. -/
theorem parts_listed (hs : isSpace closer = false) (hc : continues closer = false) (p : Piece inner)
    (ps : List (Piece inner)) (rest : List Char) :
    Parts closer inner (skipSpace (listed (p :: ps) ++ closer :: rest)) ((p :: ps).map Piece.value)
      rest := by
  have found (p : Piece inner) {c : Char} (h : continues c = false) (t : List Char) :=
    p.writes.finds _ (stops_blanks p.blanks_behind h t)
  have skip (p : Piece inner) {c : Char} (h : isSpace c = false) (t : List Char) :=
    skipSpace_blanks p.blanks_behind (ends_cons.2 h : Ends isSpace (c :: t))
  induction ps generalizing p with
  | nil =>
    rw [listed, p.skipSpace_padded]
    exact .last (found p hc rest) (skip p hs rest)
  | cons q ps ih =>
    rw [listed, List.append_assoc, p.skipSpace_padded, List.cons_append]
    exact .next (found p rfl _) (skip p rfl _) (ih q)

/-- The parts of a list behind the character that opens it, which may be none. -/
inductive Between (closer : Char) (inner : Reader α) (t : List Char) : List α → List Char → Prop where
  | empty {rest : List Char} : skipSpace t = closer :: rest → Between closer inner t [] rest
  | parts {values : List α} {rest : List Char} : Ends (· == closer) (skipSpace t) →
    Parts closer inner (skipSpace t) values rest → Between closer inner t values rest

theorem readList_iff {t rest : List Char} {values : List α} (hc : closer ≠ ',') (opener : Char) :
    (∃ found : Found (List α) (opener :: t), readList closer inner t = .ok found ∧
      found.value = values ∧ found.rest = rest) ↔ Between closer inner t values rest := by
  constructor
  · rintro ⟨found, h, rfl, rfl⟩
    unfold readList at h
    split at h
    · rename_i hh
      cases h
      obtain ⟨u, hu⟩ := List.head?_eq_some_iff.1 hh
      exact .empty (by simp [Found.behind, hu])
    · rename_i hh
      obtain ⟨parts, hp, h⟩ := ok_of_bind h
      cases h
      refine .parts (fun c u he => ?_) (parts_of_finds ⟨parts, hp, rfl, rfl⟩)
      rw [he] at hh
      simpa using hh
  · intro h
    unfold readList
    cases h with
    | empty hs =>
      rw [if_pos (by rw [hs]; rfl)]
      exact ⟨_, rfl, rfl, by simp [Found.behind, hs]⟩
    | parts hs hp =>
      obtain ⟨found, hf, rfl, rfl⟩ := hp.finds hc
      rw [if_neg, hf]
      · exact ⟨_, rfl, rfl, rfl⟩
      · intro hh
        obtain ⟨u, hu⟩ := List.head?_eq_some_iff.1 hh
        simpa using hs _ _ hu

theorem Between.mono {t rest : List Char} {values : List α}
    (h : Between closer inner t values rest)
    (hi : ∀ s, s.length ≤ t.length → ∀ value behind,
      Finds inner s value behind → Finds other s value behind) :
    Between closer other t values rest := by
  cases h with
  | empty hs => exact .empty hs
  | parts hs hp =>
    have hl := (skipSpace_suffix t).length_le
    exact .parts hs (hp.mono (Nat.lt_succ_of_le hl) fun s h => hi s (Nat.le_of_lt_succ h))

/-- What lies between the characters that open and close a list: blanks, or pieces side by side. -/
theorem Between.pieces {t rest : List Char} {values : List α} (h : Between closer inner t values rest)
    (hi : ∀ s, s.length ≤ t.length → ∀ value behind, Finds inner s value behind →
      ∃ w, s = w ++ behind ∧ Writes inner w value) :
    (∃ b, Blanks b ∧ t = b ++ closer :: rest ∧ values = []) ∨
      ∃ (p : Piece inner) (ps : List (Piece inner)), t = listed (p :: ps) ++ closer :: rest ∧
        values = (p :: ps).map Piece.value ∧ Ends (· == closer) p.text := by
  obtain ⟨b, hblank, ht⟩ := skipSpace_split t
  cases h with
  | empty he =>
    rw [he] at ht
    exact .inl ⟨b, hblank, ht, rfl⟩
  | parts he hp =>
    have hl := Nat.lt_succ_of_le (skipSpace_suffix t).length_le
    obtain ⟨p, ps, hlist, rfl⟩ := hp.pieces hl (fun s h => hi s (Nat.le_of_lt_succ h)) hblank
    rw [← ht] at hlist
    rw [hlist, ends_listed] at he
    exact .inr ⟨p, ps, hlist, rfl, he⟩

end

/-! ## Members and values -/

theorem readString_iff {t rest : List Char} {s : List Text.CodePoint} :
    (∃ found, readString t = .ok found ∧ found.value = s ∧ found.rest = rest) ↔
      ∃ units, stringBody ('"' :: t) t = .ok (units, rest) ∧ Text.joinPairs units = s := by
  constructor
  · rintro ⟨found, h, rfl, rfl⟩
    obtain ⟨⟨⟨units, behind⟩, hu⟩, -, h⟩ := ok_of_bind h
    cases h
    exact ⟨units, hu, rfl⟩
  · rintro ⟨units, hu, rfl⟩
    rw [readString, checked_ok hu]
    exact ⟨_, rfl, rfl, rfl⟩

theorem finds_string {t rest : List Char} {value : Json} :
    Finds readValue ('"' :: t) value rest ↔
      ∃ units, stringBody ('"' :: t) t = .ok (units, rest) ∧
        value = .string (Text.joinPairs units) := by
  rw [Finds, readValue]
  constructor
  · rintro ⟨found, h, rfl, rfl⟩
    obtain ⟨string, hs, rfl⟩ := ok_of_map h
    obtain ⟨units, hu, he⟩ := readString_iff.1 ⟨string, hs, rfl, rfl⟩
    exact ⟨units, hu, by rw [he]; rfl⟩
  · rintro ⟨units, hu, rfl⟩
    obtain ⟨string, hs, he, hr⟩ := readString_iff.2 ⟨units, hu, rfl⟩
    rw [hs]
    exact ⟨_, rfl, congrArg Json.string he, hr⟩

theorem readValue_scalar {text : List Char} (h : Ends opens text) :
    readValue text = readScalar text := by
  have head {c : Char} (hc : opens c = true) (t : List Char) : text ≠ c :: t := by
    rintro rfl
    rw [ends_cons.1 h] at hc
    cases hc
  rw [readValue]
  · exact fun t ht => head rfl t ht
  · exact fun t ht => head rfl t ht
  · exact fun t ht => head rfl t ht

/-- What a value is can be seen from the character that it starts with, if that opens something. -/
theorem head?_of_finds {text rest : List Char} {value : Json} (h : Finds readValue text value rest) :
    text.head?.filter opens = opener? value := by
  obtain ⟨found, h, rfl, -⟩ := h
  unfold readValue at h
  split at h
  · obtain ⟨string, -, rfl⟩ := ok_of_map h
    rfl
  · obtain ⟨list, -, rfl⟩ := ok_of_map h
    rfl
  · obtain ⟨list, -, rfl⟩ := ok_of_map h
    rfl
  · obtain ⟨w, hw, ⟨c, u, rfl, hc⟩, -, hn, -⟩ := readScalar_again ⟨found, h, rfl, rfl⟩
    rw [hn, hw, List.cons_append, List.head?_cons, Option.filter_some, hc, if_neg Bool.false_ne_true]

theorem cons_of_finds {text rest : List Char} {value : Json} {c : Char}
    (h : Finds readValue text value rest) (hc : opener? value = some c) : ∃ t, text = c :: t := by
  have hh := (head?_of_finds h).trans hc
  exact List.head?_eq_some_iff.1 (Option.eq_some_of_filter_eq_some hh)

/-- A member is a string, a colon and a value. -/
theorem finds_readMember {inner : Reader Json} {text rest : List Char}
    {member : List Text.CodePoint × Json} :
    Finds (readMember inner) text member rest ↔
      ∃ behind after, Finds readValue text (.string member.1) behind ∧
        skipSpace behind = ':' :: after ∧ Finds inner (skipSpace after) member.2 rest := by
  constructor
  · rintro ⟨found, h, rfl, rfl⟩
    unfold readMember at h
    split at h
    · rename_i t
      obtain ⟨name, hn, h⟩ := ok_of_bind h
      split at h
      · rename_i after hs
        obtain ⟨value, hv, h⟩ := ok_of_bind h
        cases h
        obtain ⟨units, hu, he⟩ := readString_iff.1 ⟨name, hn, rfl, rfl⟩
        exact ⟨name.rest, after, finds_string.2 ⟨units, hu, congrArg Json.string he.symm⟩, hs,
          value, hv, rfl, rfl⟩
      · cases h
    · cases h
  · rintro ⟨behind, after, hn, hs, value, hv, hval, rfl⟩
    obtain ⟨t, rfl⟩ := cons_of_finds hn rfl
    obtain ⟨units, hu, he⟩ := finds_string.1 hn
    obtain ⟨name, hr, hname, rfl⟩ := readString_iff.2 ⟨units, hu, (Json.string.inj he).symm⟩
    rw [Finds, readMember, hr]
    simp only [bind, Except.bind]
    split
    · rename_i rest' he
      cases hs.symm.trans he
      rw [hv]
      exact ⟨_, rfl, Prod.ext hname hval, rfl⟩
    · rename_i hne
      exact absurd hs (hne _)

/-- Inside a value its own reader is at hand for all shorter texts. -/
theorem finds_guarded {n : Nat} {text rest : List Char} {value : Json} (h : text.length < n) :
    Finds (fun t => if t.length < n then readValue t else .error (.problem .noValue t)) text value
      rest ↔ Finds readValue text value rest := by
  rw [Finds, Finds, if_pos h]

/-- A list is read by a reader of its parts that is as good as `inner` for the texts it can meet. -/
theorem finds_list {α : Type} {inner guarded : Reader α} {wrap : List α → Json} {opener closer : Char}
    {t rest : List Char} {value : Json} (hc : closer ≠ ',')
    (hr : readValue (opener :: t) = (readList closer guarded t).map (Found.map wrap))
    (hg : ∀ s, s.length ≤ t.length → ∀ part behind,
      Finds guarded s part behind ↔ Finds inner s part behind) :
    Finds readValue (opener :: t) value rest ↔
      ∃ parts, Between closer inner t parts rest ∧ value = wrap parts := by
  rw [Finds, hr]
  constructor
  · rintro ⟨found, h, rfl, rfl⟩
    obtain ⟨list, hl, rfl⟩ := ok_of_map h
    have hb := (readList_iff hc opener).1 ⟨list, hl, rfl, rfl⟩
    exact ⟨_, hb.mono fun s hs part behind => (hg s hs part behind).1, rfl⟩
  · rintro ⟨parts, hb, rfl⟩
    have hb := hb.mono fun s hs part behind => (hg s hs part behind).2
    obtain ⟨list, hl, rfl, hr⟩ := (readList_iff hc opener).2 hb
    rw [hl]
    exact ⟨_, rfl, rfl, hr⟩

theorem finds_array {t rest : List Char} {value : Json} :
    Finds readValue ('[' :: t) value rest ↔
      ∃ items, Between ']' readValue t items rest ∧ value = .array items := by
  refine finds_list (by decide) (by rw [readValue]) fun s hs item behind => ?_
  exact finds_guarded (Nat.lt_succ_of_le hs)

theorem finds_object {t rest : List Char} {value : Json} :
    Finds readValue ('\x7b' :: t) value rest ↔
      ∃ members, Between '\x7d' (readMember readValue) t members rest ∧ value = .object members := by
  refine finds_list (by decide) (by rw [readValue]) fun s hs member behind => ?_
  rw [finds_readMember, finds_readMember]
  refine exists_congr fun _ => exists_congr fun _ => and_congr_right fun hn =>
    and_congr_right fun hc => finds_guarded ?_
  exact Nat.lt_succ_of_lt (Nat.lt_of_lt_of_le (length_skipSpace_lt hn.length hc) hs)

/-! ## Values -/

/-- The text has a first and a last character, and these are no blanks. -/
structure Solid (w : List Char) : Prop where
  first : ∃ c t, w = c :: t ∧ Text.isBlank c = false
  last : ∃ t c, w = t ++ [c] ∧ Text.isBlank c = false

theorem isBlank_of_isSpace {c : Char} (h : isSpace c = true) : Text.isBlank c = true := by
  simp only [isSpace, Bool.or_eq_true, beq_iff_eq] at h
  rcases h with ((rfl | rfl) | rfl) | rfl <;> rfl

theorem Solid.starts {w : List Char} (h : Solid w) : Ends isSpace w := by
  obtain ⟨c, t, rfl, hc⟩ := h.first
  rw [ends_cons, Bool.eq_false_iff]
  intro hs
  rw [isBlank_of_isSpace hs] at hc
  cases hc

theorem Solid.trim {w : List Char} (h : Solid w) : Text.trimOf Text.isBlank w = w := by
  obtain ⟨c, t, hw, hc⟩ := h.first
  obtain ⟨u, d, he, hd⟩ := h.last
  have hs : Text.trimStartOf Text.isBlank w = w := by
    rw [hw, Text.trimStartOf, List.dropWhile_cons_of_neg (by simp [hc])]
  rw [Text.trimOf, hs, Text.trimEndOf, he, List.reverse_append, List.reverse_singleton,
    List.singleton_append, List.dropWhile_cons_of_neg (by simp [hd]), List.reverse_cons,
    List.reverse_reverse]

/-- Pieces side by side between the characters that open and close a list write the list. -/
theorem writes_list {α : Type} {inner : Reader α} {wrap : List α → Json} {opener closer : Char}
    (hfinds : ∀ {t rest : List Char} {value : Json}, Finds readValue (opener :: t) value rest ↔
      ∃ parts, Between closer inner t parts rest ∧ value = wrap parts)
    (hs : isSpace closer = false) (hc : continues closer = false) (p : Piece inner)
    (ps : List (Piece inner)) (ho : Ends isSpace (opener :: (listed (p :: ps) ++ [closer])))
    (hp : Ends (· == closer) p.text) :
    Writes readValue (opener :: (listed (p :: ps) ++ [closer])) (wrap ((p :: ps).map Piece.value)) := by
  refine ⟨ho, fun rest _ => ?_⟩
  rw [List.cons_append, List.append_assoc]
  exact hfinds.2 ⟨_, .parts ((ends_listed p ps _).2 hp) (parts_listed hs hc p ps rest), rfl⟩

/-- A list that is read as a value is a piece of the text from its opening to its closing character,
and is read in front of any other text too. `inner` reads the parts of the list. -/
theorem list_written {α : Type} {inner : Reader α} {wrap : List α → Json} {opener closer : Char}
    (hfinds : ∀ {t rest : List Char} {value : Json}, Finds readValue (opener :: t) value rest ↔
      ∃ parts, Between closer inner t parts rest ∧ value = wrap parts)
    (hs : isSpace closer = false) (hc : continues closer = false)
    (hb : Text.isBlank opener = false ∧ Text.isBlank closer = false)
    {t rest : List Char} {value : Json}
    (hi : ∀ s, s.length ≤ t.length → ∀ part behind, Finds inner s part behind →
      ∃ w, s = w ++ behind ∧ Writes inner w part)
    (h : Finds readValue (opener :: t) value rest) :
    ∃ w, opener :: t = w ++ rest ∧ Writes readValue w value ∧ Solid w := by
  obtain ⟨parts, hbetween, rfl⟩ := hfinds.1 h
  have solid (u : List Char) : Solid (opener :: (u ++ [closer])) :=
    ⟨⟨opener, _, rfl, hb.1⟩, opener :: u, closer, rfl, hb.2⟩
  rcases hbetween.pieces hi with ⟨b, hblank, rfl, rfl⟩ | ⟨p, ps, rfl, rfl, hp⟩
  · refine ⟨opener :: (b ++ [closer]), by simp, ⟨(solid b).starts, fun rest' _ => ?_⟩, solid b⟩
    rw [List.cons_append, List.append_assoc]
    exact hfinds.2 ⟨[], .empty (skipSpace_blanks hblank (ends_cons.2 hs)), rfl⟩
  · exact ⟨opener :: (listed (p :: ps) ++ [closer]), by simp,
      writes_list hfinds hs hc p ps (solid _).starts hp, solid _⟩

/-- A member that is found in a text is a name, a colon and a value, each of which writes what it
says. -/
theorem member_written {text rest : List Char} {member : List Text.CodePoint × Json}
    (hi : ∀ s, s.length ≤ text.length → ∀ value behind, Finds readValue s value behind →
      ∃ w, s = w ++ behind ∧ Writes readValue w value ∧ Solid w)
    (h : Finds (readMember readValue) text member rest) :
    ∃ key gap gap' w, text = key ++ (gap ++ ':' :: (gap' ++ (w ++ rest))) ∧ Blanks gap ∧ Blanks gap' ∧
      Writes readValue key (.string member.1) ∧ Writes readValue w member.2 := by
  obtain ⟨behind, after, hn, hc, hv⟩ := finds_readMember.1 h
  obtain ⟨key, rfl, hkey, -⟩ := hi text (Nat.le_refl _) _ _ hn
  obtain ⟨gap, hgap, hb⟩ := skipSpace_split behind
  obtain ⟨gap', hgap', ha⟩ := skipSpace_split after
  obtain ⟨w, hw, hvalue, -⟩ :=
    hi (skipSpace after) (Nat.le_of_lt (length_skipSpace_lt hn.length hc)) _ _ hv
  refine ⟨key, gap, gap', w, ?_, hgap, hgap', hkey, hvalue⟩
  rw [← hw, ← ha, ← hc, ← hb]

theorem writes_member {key gap gap' w : List Char} {member : List Text.CodePoint × Json}
    (hgap : Blanks gap) (hgap' : Blanks gap') (hkey : Writes readValue key (.string member.1))
    (hw : Writes readValue w member.2) :
    Writes (readMember readValue) (key ++ (gap ++ ':' :: (gap' ++ w))) member := by
  refine ⟨hkey.starts_append _, fun rest hr => finds_readMember.2 ?_⟩
  simp only [List.append_assoc, List.cons_append]
  refine ⟨_, gap' ++ (w ++ rest), hkey.finds _ (stops_blanks hgap rfl _),
    skipSpace_blanks hgap (ends_cons.2 rfl), ?_⟩
  rw [skipSpace_blanks hgap' (hw.starts_append rest)]
  exact hw.finds rest hr

theorem member_piece {text rest : List Char} {member : List Text.CodePoint × Json}
    (hi : ∀ s, s.length ≤ text.length → ∀ value behind, Finds readValue s value behind →
      ∃ w, s = w ++ behind ∧ Writes readValue w value ∧ Solid w)
    (h : Finds (readMember readValue) text member rest) :
    ∃ w, text = w ++ rest ∧ Writes (readMember readValue) w member := by
  obtain ⟨key, gap, gap', w, rfl, hgap, hgap', hkey, hw⟩ := member_written hi h
  refine ⟨key ++ (gap ++ ':' :: (gap' ++ w)), ?_, writes_member hgap hgap' hkey hw⟩
  simp only [List.append_assoc, List.cons_append]

/-- A value that is found in a text is written there by a piece of it, which is found in front of any
other text too, unless that goes on with a number. -/
theorem finds_written {text rest : List Char} {value : Json} (h : Finds readValue text value rest) :
    ∃ w, text = w ++ rest ∧ Writes readValue w value ∧ Solid w := by
  -- The values inside of a list stand in shorter texts.
  have inside {t : List Char} (ht : t.length < text.length) (s : List Char)
      (hs : s.length ≤ t.length) (value : Json) (behind : List Char)
      (hv : Finds readValue s value behind) :
      ∃ w, s = w ++ behind ∧ Writes readValue w value ∧ Solid w :=
    have := Nat.lt_of_le_of_lt hs ht
    finds_written hv
  by_cases hopen : Ends opens text
  · rw [Finds, readValue_scalar hopen] at h
    obtain ⟨w, rfl, ⟨c, u, rfl, hc⟩, hblank, -, ha⟩ := readScalar_again h
    have hlast := List.dropLast_concat_getLast (List.cons_ne_nil c u)
    have solid : Solid (c :: u) :=
      ⟨⟨c, u, rfl, hblank c List.mem_cons_self⟩, _, _, hlast.symm,
        hblank _ (List.getLast_mem (List.cons_ne_nil c u))⟩
    refine ⟨c :: u, rfl, ⟨solid.starts, fun rest' hr => ?_⟩, solid⟩
    have hopen : Ends opens (c :: u ++ rest') := ends_cons.2 hc
    rw [Finds, readValue_scalar hopen]
    exact ha rest' hr
  · cases text with
    | nil => exact absurd (ends_nil opens) hopen
    | cons c t =>
      have hc : opens c = true := by simpa using hopen
      have ht : t.length < (c :: t).length := Nat.lt_succ_self _
      simp only [opens, Bool.or_eq_true, beq_iff_eq] at hc
      rcases hc with (rfl | rfl) | rfl
      · obtain ⟨units, hu, rfl⟩ := finds_string.1 h
        obtain ⟨u, rfl, ha⟩ := stringBody_again hu
        have solid : Solid ('"' :: (u ++ ['"'])) := ⟨⟨'"', _, rfl, rfl⟩, '"' :: u, '"', rfl, rfl⟩
        refine ⟨'"' :: (u ++ ['"']), by simp, ⟨solid.starts, fun rest' _ => ?_⟩, solid⟩
        rw [List.cons_append, List.append_assoc]
        exact finds_string.2 ⟨units, ha _ rest', rfl⟩
      · refine list_written finds_array rfl rfl ⟨rfl, rfl⟩ (fun s hs item behind hv => ?_) h
        obtain ⟨w, hw, hwrites, -⟩ := inside ht s hs item behind hv
        exact ⟨w, hw, hwrites⟩
      · refine list_written finds_object rfl rfl ⟨rfl, rfl⟩ (fun s hs member behind hv => ?_) h
        exact member_piece (inside (Nat.lt_of_le_of_lt hs ht)) hv
termination_by text.length

/-- The text of a value has no blanks around it. -/
theorem Writes.solid {w : List Char} {value : Json} (h : Writes readValue w value) : Solid w := by
  obtain ⟨u, hu, -, hsolid⟩ := finds_written (h.finds [] (ends_nil _))
  rwa [List.append_cancel_right hu]

theorem padded_infix_listed {α : Type} {reader : Reader α} {p : Piece reader}
    {ps : List (Piece reader)} (h : p ∈ ps) : p.padded <:+: listed ps := by
  induction ps with
  | nil => cases h
  | cons q ps ih =>
    cases ps with
    | nil =>
      cases List.mem_singleton.1 h
      exact List.infix_refl _
    | cons r ps =>
      rw [listed]
      rcases List.mem_cons.1 h with rfl | h
      · exact (List.prefix_append _ _).isInfix
      · exact (ih h).trans ((List.suffix_cons ',' _).trans (List.suffix_append _ _)).isInfix

theorem Piece.text_infix_padded {α : Type} {reader : Reader α} (p : Piece reader) :
    p.text <:+: p.padded :=
  ⟨p.before, p.behind, by rw [Piece.padded, List.append_assoc]⟩

/-! ## Whole texts -/

/-- No value starts with a byte order mark. -/
theorem not_finds_mark {t rest : List Char} {value : Json} :
    ¬Finds readValue ('\ufeff' :: t) value rest := by
  rintro ⟨found, h, -⟩
  rw [readValue_scalar (ends_cons.2 rfl)] at h
  cases h

theorem Writes.read {w : List Char} {value : Json} (h : Writes readValue w value) :
    read w = .ok value := by
  have hw := h.finds [] (ends_nil _)
  rw [List.append_nil] at hw
  have hm : w.head? ≠ some '\ufeff' := by
    intro hm
    obtain ⟨t, rfl⟩ := List.head?_eq_some_iff.1 hm
    exact not_finds_mark hw
  rw [← skipSpace_ends h.starts] at hw
  obtain ⟨found, hf, rfl, hr⟩ := hw
  simp only [Json.read, if_neg hm, hf, hr, pure, Except.pure, bind, Except.bind]
  rfl

theorem finds_of_read {text : List Char} {value : Json} (h : read text = .ok value) :
    ∃ rest, Finds readValue (skipSpace text) value rest ∧ Blanks rest := by
  rw [read] at h
  split at h
  · cases h
  · obtain ⟨found, hf, h⟩ := ok_of_bind h
    split at h
    · rename_i he
      cases h
      obtain ⟨rest, hblank, hr⟩ := skipSpace_split found.rest
      rw [he, List.append_nil] at hr
      exact ⟨found.rest, ⟨found, hf, rfl, rfl⟩, hr ▸ hblank⟩
    · cases h

end PageScript.Json
