import PageScript.Proofs.Url.Address

/-!
# Relative paths

A relative path without empty segments and dot segments, resolved against the root of an address, is
the path below the root with the characters escaped that may not stand there (`Authority.join_root`).
Colons, semicolons and dots that are not alone do no harm, as long as the first segment cannot be taken
for a scheme and the last one has no parameters.
-/

namespace PageScript.Url

/-- The segments of a relative path that is neither taken for something else nor shortened. -/
structure RelativePath (segments : List (List Char)) : Prop where
  ne_nil : segments ≠ []
  nonempty : ∀ segment ∈ segments, segment ≠ []
  noDots : ∀ segment ∈ segments, segment ≠ ['.'] ∧ segment ≠ ['.', '.']
  chars : ∀ segment ∈ segments, ∀ c ∈ segment, c ∉ ['/', '?', '#'] ∧ isControl c = false
  noColon : ∀ segment ∈ segments.head?, ':' ∉ segment
  noSemicolon : ∀ segment ∈ segments.getLast?, ';' ∉ segment

/-- The text of a relative path. -/
def pathText (segments : List (List Char)) : List Char := ['/'].intercalate segments

namespace RelativePath

variable {segments : List (List Char)} (h : RelativePath segments)
include h

theorem noSlash : ∀ segment ∈ segments, '/' ∉ segment :=
  fun segment hs hm => (h.chars segment hs '/' hm).1 (by decide)

theorem splitAtEach_pathText : Text.splitAtEach '/' (pathText segments) = segments :=
  Text.splitAtEach_intercalate h.ne_nil h.noSlash

theorem mem_pathText {c : Char} (hc : c ∈ pathText segments) :
    c ≠ '?' ∧ c ≠ '#' ∧ isControl c = false := by
  rcases Text.mem_intercalate hc with rfl | ⟨segment, hs, hm⟩
  · decide
  · obtain ⟨marks, control⟩ := h.chars segment hs c hm
    simp only [List.mem_cons, not_or] at marks
    exact ⟨marks.2.1, marks.2.2.1, control⟩

/-- The text is the first segment, followed by nothing or by a slash. -/
theorem exists_first : ∃ first rest, first ∈ segments.head? ∧ first ∈ segments ∧
    pathText segments = first ++ rest ∧ ∀ c ∈ rest.head?, c = '/' := by
  obtain ⟨first, others, rfl⟩ := List.exists_cons_of_ne_nil h.ne_nil
  cases others with
  | nil =>
    refine ⟨first, [], rfl, List.mem_cons_self, ?_, ?_⟩
    · rw [pathText, List.intercalate_singleton, List.append_nil]
    · rintro c ⟨⟩
  | cons next others =>
    refine ⟨first, '/' :: pathText (next :: others), rfl, List.mem_cons_self, ?_, ?_⟩
    · rw [pathText, List.intercalate_cons_cons, List.append_assoc]
      rfl
    · rintro c ⟨⟩
      rfl

theorem head?_pathText : ∃ c, (pathText segments).head? = some c ∧ c ≠ '/' ∧ c ≠ ':' := by
  obtain ⟨first, rest, hh, hf, ht, -⟩ := h.exists_first
  obtain ⟨c, more, rfl⟩ := List.exists_cons_of_ne_nil (h.nonempty first hf)
  refine ⟨c, by rw [ht]; rfl, ?_, ?_⟩
  · rintro rfl
    exact h.noSlash _ hf List.mem_cons_self
  · rintro rfl
    exact h.noColon _ hh List.mem_cons_self

theorem scheme?_pathText : scheme? (pathText segments) = none := by
  obtain ⟨first, rest, hh, -, ht, hr⟩ := h.exists_first
  have stop : ∀ more, (pathText segments).dropWhile isSchemeChar ≠ ':' :: more := by
    intro more
    rw [ht, List.dropWhile_append]
    split
    · -- The run goes over the first segment and ends at the slash.
      cases rest with
      | nil => simp
      | cons c rest =>
        cases hr c rfl
        simp [show isSchemeChar '/' = false by decide]
    · rename_i hd
      intro he
      have inside : ':' ∈ first.dropWhile isSchemeChar := by
        cases hf : first.dropWhile isSchemeChar with
        | nil => simp [hf] at hd
        | cons c tail =>
          rw [hf, List.cons_append, List.cons.injEq] at he
          rw [he.1]
          exact List.mem_cons_self
      exact h.noColon first hh ((List.dropWhile_suffix _).subset inside)
  unfold scheme?
  split
  · split
    · split
      · rename_i hd
        exact absurd hd (stop _)
      · rfl
    · rfl
  · rfl

theorem parts_pathText :
    Parts.ofText (pathText segments) = ⟨[], [], pathText segments, none, none⟩ := by
  obtain ⟨c, hc, hslash, -⟩ := h.head?_pathText
  have noHash : '#' ∉ pathText segments := fun hm => (h.mem_pathText hm).2.1 rfl
  have noQuestion : '?' ∉ pathText segments := fun hm => (h.mem_pathText hm).1 rfl
  rw [Parts.ofText, h.scheme?_pathText]
  dsimp only
  unfold Parts.behindScheme
  split
  rename_i authority rest hm
  split at hm
  · rename_i more ht
    rw [ht] at hc
    cases hc
    exact absurd rfl hslash
  · cases hm
    simp only [Text.cutFirst_none noHash, Text.cutFirst_none noQuestion]

/-! ## Resolving -/

theorem pathText_ne_nil : pathText segments ≠ [] := by
  obtain ⟨c, hc, -⟩ := h.head?_pathText
  intro hn
  rw [hn] at hc
  cases hc

/-- The last segment has no parameters to cut off. -/
theorem cutParameters_pathText :
    cutParameters "https".toList (pathText segments) = (pathText segments, []) := by
  have known : parameterSchemes.contains (String.ofList "https".toList) = true := by decide
  obtain ⟨last, hl⟩ : ∃ last, segments.getLast? = some last :=
    ⟨_, List.getLast?_eq_some_getLast h.ne_nil⟩
  have noSlash := h.noSlash last (List.mem_of_getLast? hl)
  rw [cutParameters, known, if_pos rfl, pathText, Text.cutLast_intercalate hl noSlash]
  simp only [Text.cutFirst_none (h.noSemicolon last hl), Option.getD_none]
  obtain ⟨before, rfl⟩ := List.getLast?_eq_some_iff.1 hl
  rw [List.dropLast_concat]
  by_cases hb : before = []
  · subst hb
    rw [if_pos rfl, List.nil_append, List.intercalate_singleton]
  · rw [if_neg hb, Text.intercalate_concat hb]

/-- Dropping empty segments inside the path drops none. -/
theorem filter_dropLast :
    segments.dropLast.filter (!·.isEmpty) ++ segments.getLast?.toList = segments := by
  have all : segments.dropLast.filter (!·.isEmpty) = segments.dropLast := by
    refine List.filter_eq_self.2 fun segment hs => ?_
    rw [Bool.not_eq_true', List.isEmpty_eq_false_iff]
    exact h.nonempty segment (List.dropLast_subset _ hs)
  rw [all, List.getLast?_eq_some_getLast h.ne_nil]
  exact List.dropLast_append_getLast h.ne_nil

theorem joinedSegments_root {base : List Char} (hb : base = [] ∨ base = ['/']) :
    joinedSegments base (pathText segments) = [] :: segments := by
  have notRooted : ¬ (pathText segments).head? = some '/' := by
    obtain ⟨c, hc, hslash, -⟩ := h.head?_pathText
    rw [hc, Option.some.injEq]
    exact hslash
  unfold joinedSegments
  rw [if_neg notRooted, h.splitAtEach_pathText]
  obtain ⟨first, others, hs⟩ := List.exists_cons_of_ne_nil h.ne_nil
  rcases hb with rfl | rfl
  · exact congrArg ([] :: ·) h.filter_dropLast
  · have behind : (([] : List Char) :: segments).dropLast.filter (!·.isEmpty) ++
        (([] : List Char) :: segments).getLast?.toList = segments := by
      rw [hs, List.dropLast_cons_cons, List.getLast?_cons_cons, List.filter_cons_of_neg (by decide),
        ← hs]
      exact h.filter_dropLast
    exact congrArg ([] :: ·) behind

end RelativePath

theorem resolvedSegments_append {segments : List (List Char)}
    (h : ∀ segment ∈ segments, segment ≠ ['.'] ∧ segment ≠ ['.', '.']) (kept : List (List Char)) :
    resolvedSegments kept segments = kept.reverse ++ segments := by
  induction segments generalizing kept with
  | nil => rw [resolvedSegments, List.append_nil]
  | cons segment segments ih =>
    rw [List.forall_mem_cons] at h
    rw [resolvedSegments, ih h.2, List.reverse_cons, List.append_assoc, List.singleton_append]
    · exact h.1.1
    · exact h.1.2

namespace RelativePath

variable {segments : List (List Char)} (h : RelativePath segments)
include h

theorem joinedPath_root {base : List Char} (hb : base = [] ∨ base = ['/']) :
    joinedPath base (pathText segments) = '/' :: pathText segments := by
  have noDots : ∀ segment ∈ [] :: segments, segment ≠ ['.'] ∧ segment ≠ ['.', '.'] :=
    List.forall_mem_cons.2 ⟨by decide, h.noDots⟩
  have last : (([] :: segments).getLast? == some ['.'] ||
      ([] :: segments).getLast? == some ['.', '.']) = false := by
    rw [Bool.or_eq_false_iff, beq_eq_false_iff_ne, beq_eq_false_iff_ne]
    exact ⟨fun hl => (noDots _ (List.mem_of_getLast? hl)).1 rfl,
      fun hl => (noDots _ (List.mem_of_getLast? hl)).2 rfl⟩
  have joined : ['/'].intercalate ([] :: segments) = '/' :: pathText segments := by
    obtain ⟨first, others, hs⟩ := List.exists_cons_of_ne_nil h.ne_nil
    rw [pathText, hs, List.intercalate_cons_cons]
    rfl
  unfold joinedPath
  simp only [h.joinedSegments_root hb, resolvedSegments_append noDots, last, List.reverse_nil,
    List.nil_append, if_neg Bool.false_ne_true, joined]
  rfl

/-! ## Escaping -/

theorem escaped (hp : ∀ segment ∈ segments, '%' ∉ segment) :
    RelativePath (segments.map (Codec.Percent.escape isPathSafe)) := by
  -- A segment whose escaped form has nothing to take back is that form.
  have same {segment plain : List Char} (hs : segment ∈ segments) (hu : '%' ∉ plain)
      (he : Codec.Percent.escape isPathSafe segment = plain) : segment = plain := by
    have read := @Codec.Percent.unescaped_escape isPathSafe segment fun c hc _ hx =>
      hp segment hs (hx ▸ hc)
    rw [he, Codec.Percent.unescaped_of_not_mem hu] at read
    exact (Except.ok.inj read).symm
  have absent {mark : Char} (hm : mark ≠ '%') (hx : Codec.Percent.isHex mark = false)
      {segment : List Char} (hs : mark ∉ segment) :
      mark ∉ Codec.Percent.escape isPathSafe segment := by
    intro hc
    rcases (mem_escape_path hc).2 with hc | hc | hc
    · exact hs hc
    · exact hm hc
    · cases hx.symm.trans hc
  refine ⟨by simpa using h.ne_nil, ?_, ?_, ?_, ?_, ?_⟩
  · exact List.forall_mem_map.2 fun segment hs he => h.nonempty segment hs (same hs (by decide) he)
  · exact List.forall_mem_map.2 fun segment hs =>
      ⟨fun he => (h.noDots segment hs).1 (same hs (by decide) he),
        fun he => (h.noDots segment hs).2 (same hs (by decide) he)⟩
  · refine List.forall_mem_map.2 fun segment hs c hc => ?_
    obtain ⟨control, question, hash⟩ := of_isPathSafe (mem_escape_path hc).1
    refine ⟨?_, control⟩
    simp only [List.mem_cons, List.not_mem_nil, or_false, not_or]
    refine ⟨?_, question, hash⟩
    rintro rfl
    exact absent (by decide) (by decide) (h.noSlash segment hs) hc
  · intro segment hs
    rw [List.head?_map] at hs
    obtain ⟨first, hf, rfl⟩ := Option.map_eq_some_iff.1 hs
    exact absent (by decide) (by decide) (h.noColon first hf)
  · intro segment hs
    rw [List.getLast?_map] at hs
    obtain ⟨last, hl, rfl⟩ := Option.map_eq_some_iff.1 hs
    exact absent (by decide) (by decide) (h.noSemicolon last hl)

omit h in
theorem escape_pathText (segments : List (List Char)) :
    Codec.Percent.escape isPathSafe (pathText segments) =
      pathText (segments.map (Codec.Percent.escape isPathSafe)) :=
  Codec.Percent.escape_intercalate (by decide) segments

theorem plainPath_escaped (hp : ∀ segment ∈ segments, '%' ∉ segment) :
    PlainPath ('/' :: Codec.Percent.escape isPathSafe (pathText segments)) := by
  have escaped := h.escaped hp
  have noDots : ∀ dots, dots = ['.'] ∨ dots = ['.', '.'] →
      dots ∉ Text.splitAtEach '/' ('/' :: Codec.Percent.escape isPathSafe (pathText segments)) := by
    intro dots hd hm
    rw [Text.splitAtEach_mark, escape_pathText, escaped.splitAtEach_pathText] at hm
    rcases List.mem_cons.1 hm with rfl | hm
    · rcases hd with hd | hd <;> cases hd
    · rcases hd with rfl | rfl
      · exact (escaped.noDots _ hm).1 rfl
      · exact (escaped.noDots _ hm).2 rfl
  exact ⟨.inr rfl, List.forall_mem_cons.2 ⟨by decide, fun c hc => (mem_escape_path hc).1⟩,
    noDots _ (.inl rfl), noDots _ (.inr rfl)⟩

/-- A relative path is read as itself, with its characters escaped. -/
theorem ofText_pathText (hp : ∀ segment ∈ segments, '%' ∉ segment)
    (hl : (pathText segments).length ≤ lengthLimit) :
    ofText (pathText segments) =
      .ok ⟨[], [], [], none, Codec.Percent.escape isPathSafe (pathText segments), none, none⟩ := by
  obtain ⟨c, hc, hslash, hcolon⟩ := h.head?_pathText
  have noControl : (pathText segments).find? isControl = none :=
    List.find?_eq_none.2 fun c hc => by simp [(h.mem_pathText hc).2.2]
  have noPercent : '%' ∉ pathText segments := by
    intro hm
    rcases Text.mem_intercalate hm with he | ⟨segment, hs, hm⟩
    · cases he
    · exact hp segment hs hm
  have noFault : pathFault? false false (pathText segments) = none := by
    obtain ⟨rest, hr⟩ := List.head?_eq_some_iff.1 hc
    simp [pathFault?, hr, hcolon, Ne.symm hslash]
  have noColon : ¬ (pathText segments).head? = some ':' := by
    rw [hc, Option.some.injEq]
    exact hcolon
  rw [ofText, if_neg (Nat.not_lt.2 hl), noControl, if_neg noColon, h.parts_pathText]
  split
  · rename_i he
    cases he
  · have split : splitAuthority [] = ([], [], []) := by decide
    have host : encodeHost [] = .ok [] := rfl
    have port : portOf [] [] = .ok none := rfl
    have user : Codec.Percent.escapeAgain isUserSafe [] = [] := rfl
    simp only [ofParts, split, host, port, user, pure, Except.pure, bind, Except.bind, List.isEmpty_nil,
      Bool.not_true, Bool.or_self, Option.isSome_none, noFault, if_neg Bool.false_ne_true,
      Codec.Percent.escapeAgain_of_not_mem noPercent, List.map_nil, Option.map_none]

end RelativePath

/-! ## Authorities without a fault -/

theorem any_isLookalike {text : List Char} (h : ∀ c ∈ text, c.toNat < 0x80) :
    text.any isLookalike = false := by
  have high : ("⁇⁈⁉℀℁℅℆⩴︓︖﹕﹖﹟﹫＃／：？＠".toList.all (0x80 ≤ ·.toNat)) = true := by decide
  rw [List.any_eq_false]
  intro c hc hl
  have beyond := List.all_eq_true.1 high c (List.contains_iff_mem.1 hl)
  exact absurd (h c hc) (Nat.not_lt.2 (of_decide_eq_true beyond))

namespace Authority

variable (authority : Authority) (ascii : ∀ c ∈ authority.text, c.toNat < 0x80)
include ascii

theorem authorityFault?_name {name : List Char} (hh : authority.host = .name name) :
    authorityFault? authority.text = none := by
  have proper := authority.proper
  rw [hh] at proper
  have noBracket {bracket : Char} (h : bracket = '[' ∨ bracket = ']') : bracket ∉ authority.text := by
    rw [text, hh, List.mem_append, not_or]
    refine ⟨fun hm => ?_, authority.bracket_not_mem_portText h⟩
    have delimiter := (proper.2 bracket hm).1
    rcases h with rfl | rfl <;> exact absurd delimiter (by decide)
  have opened : authority.text.contains '[' = false := by simpa using noBracket (.inl rfl)
  have closed : authority.text.contains ']' = false := by simpa using noBracket (.inr rfl)
  rw [authorityFault?, opened, closed, Text.cutFirst_none (noBracket (.inl rfl)),
    any_isLookalike ascii]
  rfl

theorem authorityFault?_literal {address : List Char} (hh : authority.host = .literal address)
    (hi : isIpv6 address = true) : authorityFault? authority.text = none := by
  have proper := authority.proper
  rw [hh] at proper
  have closing : ']' ∉ address := fun hm => absurd (proper ']' hm).1 (by decide)
  have whole : authority.text = '[' :: (address ++ ']' :: authority.portText) := by
    rw [text, hh]
    simp [Host.text]
  have notFuture : ¬ address.head? = some 'v' := by
    intro hv
    obtain ⟨rest, rfl⟩ := List.head?_eq_some_iff.1 hv
    exact absurd ((mem_of_isIpv6 hi).2 'v' List.mem_cons_self) (by decide)
  have opened : authority.text.contains '[' = true := by simp [whole]
  have closed : authority.text.contains ']' = true := by simp [whole]
  have inner : Text.cutFirst '[' authority.text = ([], some (address ++ ']' :: authority.portText)) := by
    rw [whole]
    exact Text.cutFirst_mark List.not_mem_nil _
  rw [authorityFault?, opened, closed, inner, any_isLookalike ascii]
  simp only [Option.map_some, Text.cutFirst_mark closing, Option.bind_some, bracketFault?,
    if_neg notFuture, if_pos hi]
  rfl

end Authority

/-! ## Joining -/

theorem plainPath_root {base : List Char} (h : base = [] ∨ base = ['/']) : PlainPath base := by
  rcases h with rfl | rfl
  · exact ⟨.inl rfl, List.forall_mem_nil _, by decide, by decide⟩
  · exact ⟨.inr rfl, List.forall_mem_singleton.2 (by decide), by decide, by decide⟩

namespace Authority

variable (authority : Authority)

theorem toText_parts (path : List Char) :
    Parts.toText ⟨"https".toList, authority.text, '/' :: path, none, none⟩ =
      authority.address ('/' :: path) := by
  have start : "https://".toList = "https".toList ++ [':', '/', '/'] := by decide
  have someText : authority.text.isEmpty = false :=
    List.isEmpty_eq_false_iff.2 authority.text_ne_nil
  unfold Parts.toText address
  simp [someText, start]

variable {segments : List (List Char)} (h : RelativePath segments)
include h

theorem joinText_root {base : List Char} (hb : base = [] ∨ base = ['/']) :
    joinText (authority.address base) (pathText segments) =
      match authorityFault? authority.text with
      | some fault => .error fault
      | none => .ok (authority.address ('/' :: pathText segments)) := by
  have plain := plainPath_root hb
  have lower : "https".toList.map Char.toLower = "https".toList := by decide
  have relative : relativeSchemes.contains (String.ofList "https".toList) = true := by decide
  have cutBase : cutParameters "https".toList base = (base, []) := by
    rcases hb with rfl | rfl <;> decide
  have someBase : (authority.address base).isEmpty = false := by
    rw [address_eq]
    rfl
  have some : (pathText segments).isEmpty = false :=
    List.isEmpty_eq_false_iff.2 h.pathText_ne_nil
  have nothing : authorityFault? [] = none := by decide
  unfold joinText
  rw [someBase, some]
  simp only [if_neg Bool.false_ne_true, authority.parts_address plain, h.parts_pathText,
    Parts.lowered, lower, List.map_nil, nothing, Option.or_none]
  cases authorityFault? authority.text with
  | some fault => rfl
  | none =>
    simp only [relative, List.isEmpty_nil, Bool.true_or, Bool.true_and, if_pos,
      Parts.resolve, cutBase, h.cutParameters_pathText, some, h.joinedPath_root hb]
    exact congrArg Except.ok (authority.toText_parts _)

theorem join_root_of_length {written base : List Char}
    (he : encodeHost authority.host.text = .ok written) (hb : base = [] ∨ base = ['/'])
    (hp : ∀ segment ∈ segments, '%' ∉ segment) (hl : (pathText segments).length ≤ lengthLimit) :
    (authority.url written base).join (pathText segments) =
      match authorityFault? (authority.rewritten he).text with
      | some fault => .error fault
      | none => ofText ((authority.rewritten he).address
          ('/' :: Codec.Percent.escape isPathSafe (pathText segments))) := by
  have relative (path : List Char) : toText ⟨[], [], [], none, path, none, none⟩ = path := by
    simp [toText, Url.authority, hostAndPort]
  rw [join, h.ofText_pathText hp hl]
  show (joinText _ (toText _) >>= ofText) = _
  rw [relative, authority.toText_url he, RelativePath.escape_pathText,
    (authority.rewritten he).joinText_root (h.escaped hp) hb]
  cases authorityFault? (authority.rewritten he).text with
  | some fault => rfl
  | none => rfl

/-- A relative path that stands at the root of an address names the path below the root, escaped. The
host is read a second time then. -/
theorem join_root {written base : List Char} (he : encodeHost authority.host.text = .ok written)
    (hb : base = [] ∨ base = ['/']) (hp : ∀ segment ∈ segments, '%' ∉ segment) {url : Url} :
    (authority.url written base).join (pathText segments) = .ok url ↔
      authorityFault? (authority.rewritten he).text = none ∧
      ((authority.rewritten he).address
        ('/' :: Codec.Percent.escape isPathSafe (pathText segments))).length ≤ lengthLimit ∧
      ∃ again, encodeHost (authority.rewritten he).host.text = .ok again ∧
        url = authority.url again ('/' :: Codec.Percent.escape isPathSafe (pathText segments)) := by
  by_cases hl : (pathText segments).length ≤ lengthLimit
  · rw [authority.join_root_of_length h he hb hp hl]
    cases authorityFault? (authority.rewritten he).text with
    | some fault => simp
    | none =>
      simp only [(authority.rewritten he).ofText_address (h.plainPath_escaped hp),
        authority.url_rewritten he, true_and]
  · constructor
    · intro hj
      obtain ⟨relative, hr, -⟩ := ok_of_bind hj
      rw [ofText, if_pos (Nat.not_le.1 hl)] at hr
      cases hr
    · rintro ⟨-, ha, -⟩
      have longer := Codec.Percent.length_le_escape isPathSafe (pathText segments)
      rw [address_eq] at ha
      simp only [List.length_cons, List.length_append] at ha
      omega

end Authority

end PageScript.Url
