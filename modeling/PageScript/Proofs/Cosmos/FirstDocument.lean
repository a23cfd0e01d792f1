import PageScript.Cosmos.Document
import PageScript.Proofs.Json.Writing

/-!
# The first document is where it is read

An answer is read as a whole first, and is then looked through a second time, by place. The two stay
in step: what the first reading takes for the members of an object are pieces of the text, side by
side, and one step of the walk gets from a piece to the next (`memberSite?_member`). So the walk ends
at the closing brace, at the site of the last member with the name it looks for, and from there the
text of the first item is cut out.
-/

namespace PageScript.Cosmos

open Json (readValue readMember Writes Finds Piece listed Blanks Stops)

/-! ## Members -/

section

variable {name : String} {site : Option (List Char)}

/-- The text of a member is its name, a colon and `w`, which writes its value. -/
def Spells (text : List Char) (member : List Text.CodePoint × Json) (w : List Char) : Prop :=
  ∃ key gap gap', text = key ++ (gap ++ ':' :: (gap' ++ w)) ∧ Blanks gap ∧ Blanks gap' ∧
    Writes readValue key (.string member.1) ∧ Writes readValue w member.2

theorem Spells.writes {text w : List Char} {member : List Text.CodePoint × Json}
    (h : Spells text member w) : Writes readValue w member.2 := by
  obtain ⟨-, -, -, -, -, -, -, hw⟩ := h
  exact hw

theorem spells (p : Piece (readMember readValue)) : ∃ w, Spells p.text p.value w := by
  have h := p.writes.finds [] (Json.ends_nil _)
  obtain ⟨key, gap, gap', w, he, hgap, hgap', hkey, hw⟩ :=
    Json.member_written (fun s _ value behind => Json.finds_written) h
  refine ⟨w, key, gap, gap', ?_, hgap, hgap', hkey, hw⟩
  simpa only [List.append_nil] using he

theorem pastColon_gap {gap gap' t : List Char} (hgap : Blanks gap) (hgap' : Blanks gap')
    (ht : Json.Ends Json.isSpace t) : pastColon (gap ++ ':' :: (gap' ++ t)) = t := by
  rw [pastColon, Json.skipSpace_blanks hgap (Json.ends_cons.2 rfl), List.drop_succ_cons,
    List.drop_zero, Json.skipSpace_blanks hgap' ht]

theorem pastComma_comma {b : List Char} (hb : Blanks b) (t : List Char) :
    pastComma (b ++ ',' :: t) = Json.skipSpace t := by
  rw [pastComma, Json.skipSpace_blanks hb (Json.ends_cons.2 rfl)]
  rfl

theorem pastComma_brace {b : List Char} (hb : Blanks b) (t : List Char) :
    pastComma (b ++ '\x7d' :: t) = '\x7d' :: t := by
  rw [pastComma, Json.skipSpace_blanks hb (Json.ends_cons.2 rfl)]
  rfl

theorem memberSite?_step {text behind after : List Char} {key value : Json}
    (hb : ∀ t, text ≠ '\x7d' :: t) (hkey : Finds readValue text key behind)
    (hvalue : Finds readValue (pastColon behind) value after) :
    memberSite? name site text =
      memberSite? name (if key.isText name then some (pastColon behind) else site)
        (pastComma after) := by
  obtain ⟨key, hk, rfl, rfl⟩ := hkey
  obtain ⟨value, hv, rfl, rfl⟩ := hvalue
  rw [memberSite?, hk]
  · simp only [bind, Except.bind]
    rw [hv]
  · exact hb

/-- One step of the walk gets past a member, and has its site if it has the name. -/
theorem memberSite?_member {text w : List Char} {member : List Text.CodePoint × Json}
    (h : Spells text member w) {after : List Char} (hs : Stops after) :
    memberSite? name site (text ++ after) =
      memberSite? name (if member.1 = Text.codePoints name then some (w ++ after) else site)
        (pastComma after) := by
  obtain ⟨key, gap, gap', rfl, hgap, hgap', hkey, hw⟩ := h
  simp only [List.append_assoc, List.cons_append]
  have hcolon := pastColon_gap hgap hgap' (hw.starts_append after)
  have hstops : Stops (gap ++ ':' :: (gap' ++ (w ++ after))) := Json.stops_blanks hgap rfl _
  have hname := hkey.finds _ hstops
  have hvalue := hw.finds after hs
  rw [← hcolon] at hvalue
  rw [memberSite?_step _ hname hvalue, hcolon]
  · simp only [Json.isText, beq_iff_eq]
  · intro t ht
    obtain ⟨u, hu⟩ := Json.cons_of_finds hname rfl
    cases hu.symm.trans ht

/-- Where the walk is behind some members: at the value of the last of them that has the name, or where
it was. -/
inductive LastSite (name : String) (site : Option (List Char))
    (ps : List (Piece (readMember readValue))) : Option (List Char) → Prop where
  | unmet : (∀ p ∈ ps, p.value.1 ≠ Text.codePoints name) → LastSite name site ps site
  | met {earlier later : List (Piece (readMember readValue))} {member : Piece (readMember readValue)}
    {w rest : List Char} : ps = earlier ++ member :: later →
    member.value.1 = Text.codePoints name → (∀ p ∈ later, p.value.1 ≠ Text.codePoints name) →
    Spells member.text member.value w → Stops rest → LastSite name site ps (some (w ++ rest))

theorem LastSite.cons {p : Piece (readMember readValue)} {ps : List (Piece (readMember readValue))}
    {w rest : List Char} {result : Option (List Char)} (hp : Spells p.text p.value w)
    (hs : Stops rest)
    (h : LastSite name (if p.value.1 = Text.codePoints name then some (w ++ rest) else site) ps
      result) :
    LastSite name site (p :: ps) result := by
  cases h with
  | unmet hn =>
    split
    · rename_i hname
      exact .met (List.nil_append _).symm hname hn hp hs
    · rename_i hname
      exact .unmet (List.forall_mem_cons.2 ⟨hname, hn⟩)
  | met he hname hlast hm hr => exact .met (by rw [he, List.cons_append]) hname hlast hm hr

/-- The walk over the members of an object ends at the closing brace. -/
theorem memberSite?_listed (name : String) (site : Option (List Char))
    (p : Piece (readMember readValue)) (ps : List (Piece (readMember readValue))) (rest : List Char) :
    ∃ result, memberSite? name site (Json.skipSpace (listed (p :: ps) ++ '\x7d' :: rest)) = .ok result ∧
      LastSite name site (p :: ps) result := by
  obtain ⟨w, hw⟩ := spells p
  induction ps generalizing p site w with
  | nil =>
    have hs : Stops (p.behind ++ '\x7d' :: rest) := Json.stops_blanks p.blanks_behind rfl rest
    rw [listed, p.skipSpace_padded, memberSite?_member hw hs, pastComma_brace p.blanks_behind,
      memberSite?]
    exact ⟨_, rfl, .cons hw hs (.unmet (List.forall_mem_nil _))⟩
  | cons q ps ih =>
    have hs : Stops (p.behind ++ ',' :: (listed (q :: ps) ++ '\x7d' :: rest)) :=
      Json.stops_blanks p.blanks_behind rfl _
    obtain ⟨u, hu⟩ := spells q
    rw [listed, List.append_assoc, p.skipSpace_padded, List.cons_append, memberSite?_member hw hs,
      pastComma_comma p.blanks_behind]
    obtain ⟨result, hresult, hl⟩ := ih _ q u hu
    exact ⟨result, hresult, .cons hw hs hl⟩

theorem lastMember?_eq_none {members : List (List Text.CodePoint × Json)}
    (h : ∀ m ∈ members, m.1 ≠ Text.codePoints name) : Json.lastMember? name members = none := by
  rw [Json.lastMember?, Option.map_eq_none_iff, List.find?_eq_none]
  intro m hm
  rw [beq_iff_eq]
  exact h m (List.mem_reverse.1 hm)

theorem lastMember?_append {earlier later : List (List Text.CodePoint × Json)}
    {member : List Text.CodePoint × Json} (hm : member.1 = Text.codePoints name)
    (h : ∀ m ∈ later, m.1 ≠ Text.codePoints name) :
    Json.lastMember? name (earlier ++ member :: later) = some member.2 := by
  have hlater := lastMember?_eq_none h
  rw [Json.lastMember?, Option.map_eq_none_iff] at hlater
  rw [Json.lastMember?, List.reverse_append, List.reverse_cons, List.append_assoc, List.find?_append,
    hlater, Option.none_or, List.singleton_append, List.find?_cons_of_pos (by rw [beq_iff_eq, hm])]
  rfl

end

/-! ## Items -/

/-- The first item of an array that is written by `w`, seen from behind its opening bracket. -/
theorem firstItem?_written {w : List Char} {items : List Json} (h : Writes readValue w (.array items))
    (rest : List Char) :
    ∃ u, w = '[' :: u ∧
      (items = [] ∧ firstItem? (u ++ rest) = .ok none ∨
        ∃ (p : Piece readValue) (ps : List (Piece readValue)), u = listed (p :: ps) ++ [']'] ∧
          items = (p :: ps).map Piece.value ∧ firstItem? (u ++ rest) = .ok (some p.text)) := by
  have hw := h.finds [] (Json.ends_nil _)
  rw [List.append_nil] at hw
  obtain ⟨u, rfl⟩ := Json.cons_of_finds hw rfl
  obtain ⟨parts, hb, he⟩ := Json.finds_array.1 hw
  cases he
  refine ⟨u, rfl, ?_⟩
  have hi (s : List Char) (_ : s.length ≤ u.length) (value : Json) (behind : List Char)
      (hv : Finds readValue s value behind) : ∃ w, s = w ++ behind ∧ Writes readValue w value := by
    obtain ⟨w, hw, hwrites, -⟩ := Json.finds_written hv
    exact ⟨w, hw, hwrites⟩
  rcases hb.pieces hi with ⟨b, hblank, rfl, rfl⟩ | ⟨p, ps, rfl, rfl, hp⟩
  · refine .inl ⟨rfl, ?_⟩
    rw [List.append_assoc, firstItem?, List.singleton_append,
      Json.skipSpace_blanks hblank (Json.ends_cons.2 rfl)]
    rfl
  · refine .inr ⟨p, ps, rfl, rfl, ?_⟩
    rw [List.append_assoc, List.singleton_append]
    obtain ⟨more, hmore, hm⟩ := Json.skipSpace_listed p ps (']' :: rest)
    have hs : Stops (p.behind ++ more) := by
      rcases hm with rfl | ⟨t, rfl⟩ <;> exact Json.stops_blanks p.blanks_behind rfl _
    obtain ⟨found, hf, -, hr⟩ := p.writes.finds _ hs
    unfold firstItem?
    rw [hmore]
    split
    · rename_i t ht
      rw [← Json.ends_listed p ps (']' :: rest), hmore] at hp
      cases hp _ _ ht
    · rw [hf]
      simp only [Except.map, hr, List.length_append, Nat.add_sub_cancel, List.take_left]

/-! ## The whole answer -/

/-- How an answer is laid out around the first item of its last member with a name. -/
structure Layout (name : String) (content : List Char)
    (members : List (List Text.CodePoint × Json)) where
  lead : List Char
  trail : List Char
  earlier : List (Piece (readMember readValue))
  member : Piece (readMember readValue)
  later : List (Piece (readMember readValue))
  item : Piece readValue
  items : List (Piece readValue)
  content_eq : content =
    lead ++ '\x7b' :: (listed (earlier ++ member :: later) ++ '\x7d' :: trail)
  blanks : Blanks lead ∧ Blanks trail
  members_eq : members = (earlier ++ member :: later).map Piece.value
  named : member.value.1 = Text.codePoints name
  last : ∀ p ∈ later, p.value.1 ≠ Text.codePoints name
  spelled : Spells member.text member.value ('[' :: (listed (item :: items) ++ [']']))
  value_eq : member.value.2 = .array ((item :: items).map Piece.value)

theorem Spells.infix {text w : List Char} {member : List Text.CodePoint × Json}
    (h : Spells text member w) : w <:+: text := by
  obtain ⟨key, gap, gap', rfl, -⟩ := h
  refine List.IsSuffix.isInfix ⟨key ++ (gap ++ ':' :: gap'), ?_⟩
  simp only [List.append_assoc, List.cons_append]

/-- The item is a slice of the answer. -/
theorem Layout.item_infix {name : String} {content : List Char}
    {members : List (List Text.CodePoint × Json)} (layout : Layout name content members) :
    layout.item.text <:+: content := by
  have hitem : layout.item.text <:+: listed (layout.item :: layout.items) :=
    layout.item.text_infix_padded.trans (Json.padded_infix_listed List.mem_cons_self)
  have harray : listed (layout.item :: layout.items) <:+: layout.member.text :=
    List.IsInfix.trans ⟨['['], [']'], rfl⟩ layout.spelled.infix
  have hmember : layout.member.text <:+: listed (layout.earlier ++ layout.member :: layout.later) :=
    layout.member.text_infix_padded.trans
      (Json.padded_infix_listed (List.mem_append_right _ List.mem_cons_self))
  have hobject : listed (layout.earlier ++ layout.member :: layout.later) <:+: content := by
    refine ⟨layout.lead ++ ['\x7b'], '\x7d' :: layout.trail, ?_⟩
    simpa only [List.append_assoc, List.cons_append, List.nil_append] using layout.content_eq.symm
  exact hitem.trans (harray.trans (hmember.trans hobject))

theorem firstDocument?_not_object {content : List Char} {value : Json}
    (hr : Json.read content = .ok value) (ho : Json.opener? value ≠ some '\x7b') :
    firstDocument? content = .error .notObject := by
  obtain ⟨rest, hf, -⟩ := Json.finds_of_read hr
  have hhead := Json.head?_of_finds hf
  unfold firstDocument?
  rw [hr]
  simp only
  split
  · rename_i t ht
    rw [ht] at hhead
    exact absurd hhead.symm ho
  · rfl

/-- The members of an answer that is an object, and the walk over them. -/
theorem walk_of_object {content : List Char} {members : List (List Text.CodePoint × Json)}
    (hr : Json.read content = .ok (.object members)) (name : String) :
    ∃ t rest ps site, Json.skipSpace content = '\x7b' :: t ∧ Blanks rest ∧
      members = ps.map Piece.value ∧
      (ps ≠ [] → t = listed ps ++ '\x7d' :: rest) ∧
      memberSite? name none (Json.skipSpace t) = .ok site ∧ LastSite name none ps site := by
  obtain ⟨rest, hf, hrest⟩ := Json.finds_of_read hr
  obtain ⟨t, ht⟩ := Json.cons_of_finds hf rfl
  rw [ht] at hf
  obtain ⟨parts, hb, he⟩ := Json.finds_object.1 hf
  cases he
  have hpieces := hb.pieces fun s _ member behind =>
    Json.member_piece fun s _ value behind => Json.finds_written
  rcases hpieces with ⟨b, hblank, rfl, rfl⟩ | ⟨p, ps, rfl, rfl, -⟩
  · refine ⟨_, rest, [], none, ht, hrest, rfl, fun h => absurd rfl h, ?_, .unmet (List.forall_mem_nil _)⟩
    rw [Json.skipSpace_blanks hblank (Json.ends_cons.2 rfl), memberSite?]
  · obtain ⟨site, hsite, hlast⟩ := memberSite?_listed name none p ps rest
    exact ⟨_, rest, p :: ps, site, ht, hrest, rfl, fun _ => rfl, hsite, hlast⟩

theorem firstDocument?_not_array {content t text rest : List Char} {value whole : Json}
    (hr : Json.read content = .ok whole) (ht : Json.skipSpace content = '\x7b' :: t)
    (hsite : memberSite? Wire.documentsProperty none (Json.skipSpace t) = .ok (some text))
    (hf : Finds readValue text value rest) (ho : Json.opener? value ≠ some '[') :
    firstDocument? content = .error .notArray := by
  have hhead := Json.head?_of_finds hf
  simp only [firstDocument?, hr, ht, hsite]
  split
  · rename_i he
    cases he
  · rename_i he
    cases he
  · rename_i items he
    cases he
    exact absurd hhead.symm ho
  · rfl

/-- With the walk at an array, the first document is the first item of it. -/
theorem firstDocument?_of_array {content t rest w after : List Char} {whole : Json}
    {earlier later : List (Piece (readMember readValue))} {member : Piece (readMember readValue)}
    {items : List Json} (hr : Json.read content = .ok whole)
    (ht : Json.skipSpace content = '\x7b' :: t) (hrest : Blanks rest)
    (hmembers : t = listed (earlier ++ member :: later) ++ '\x7d' :: rest)
    (hsite : memberSite? Wire.documentsProperty none (Json.skipSpace t) = .ok (some (w ++ after)))
    (hname : member.value.1 = Text.codePoints Wire.documentsProperty)
    (hlater : ∀ p ∈ later, p.value.1 ≠ Text.codePoints Wire.documentsProperty)
    (hspells : Spells member.text member.value w) (hv : member.value.2 = .array items) :
    items = [] ∧ firstDocument? content = .ok none ∨
      ∃ layout : Layout Wire.documentsProperty content
          ((earlier ++ member :: later).map Piece.value),
        items = (layout.item :: layout.items).map Piece.value ∧
          firstDocument? content = .ok (some layout.item.text) := by
  have hw : Writes readValue w (.array items) := hv ▸ hspells.writes
  obtain ⟨u, rfl, ⟨rfl, hitem⟩ | ⟨p, ps, rfl, rfl, hitem⟩⟩ := firstItem?_written hw after
  · refine .inl ⟨rfl, ?_⟩
    rw [List.cons_append] at hsite
    simp only [firstDocument?, hr, ht, hsite, hitem]
  · obtain ⟨lead, hblank, hlead⟩ := Json.skipSpace_split content
    rw [ht, hmembers] at hlead
    refine .inr ⟨⟨lead, rest, earlier, member, later, p, ps, hlead, ⟨hblank, hrest⟩, rfl, hname, hlater,
      hspells, hv⟩, rfl, ?_⟩
    rw [List.cons_append] at hsite
    simp only [firstDocument?, hr, ht, hsite, hitem]

/-- The first document of every answer is what reading the answer says: the text of the first item, as
it stands in the last member with the name. The walk over the members ends at the closing brace of every
object that can be read. -/
theorem firstDocument?_agrees (content : List Char) :
    match Json.read content with
    | .error fault => firstDocument? content = .error (.malformed fault)
    | .ok (.object members) =>
      (∃ t site, Json.skipSpace content = '\x7b' :: t ∧
        memberSite? Wire.documentsProperty none (Json.skipSpace t) = .ok site) ∧
      match Json.lastMember? Wire.documentsProperty members with
      | none => firstDocument? content = .ok none
      | some (.array []) => firstDocument? content = .ok none
      | some (.array (item :: _)) =>
        ∃ layout : Layout Wire.documentsProperty content members,
          firstDocument? content = .ok (some layout.item.text) ∧ layout.item.value = item ∧
          layout.item.text <:+: content ∧
          Text.trimOf Text.isBlank layout.item.text = layout.item.text ∧
          Json.read layout.item.text = .ok item
      | some _ => firstDocument? content = .error .notArray
    | .ok _ => firstDocument? content = .error .notObject := by
  cases hr : Json.read content with
  | error fault => simp only [firstDocument?, hr]
  | ok value =>
    cases value with
    | object members =>
      obtain ⟨t, rest, ps, site, ht, hrest, rfl, hps, hsite, hlast⟩ :=
        walk_of_object hr Wire.documentsProperty
      refine ⟨⟨t, site, ht, hsite⟩, ?_⟩
      cases hlast with
      | unmet hn =>
        rw [lastMember?_eq_none (by simpa using hn)]
        simp only [firstDocument?, hr, ht, hsite]
      | @met earlier later member w after he hname hlater hspells hstops =>
        have hmember : Json.lastMember? Wire.documentsProperty (ps.map Piece.value) =
            some member.value.2 := by
          rw [he, List.map_append, List.map_cons, lastMember?_append hname (by simpa using hlater)]
        have hfinds := hspells.writes.finds after hstops
        rw [hmember]
        subst he
        cases hv : member.value.2 with
        | array items =>
          rcases firstDocument?_of_array hr ht hrest (hps (by simp)) hsite hname hlater hspells hv with
            ⟨rfl, hdocument⟩ | ⟨layout, rfl, hdocument⟩
          · exact hdocument
          · exact ⟨layout, hdocument, rfl, layout.item_infix, layout.item.writes.solid.trim,
              layout.item.writes.read⟩
        | _ =>
          rw [hv] at hfinds
          exact firstDocument?_not_array hr ht hsite hfinds nofun
    | _ => exact firstDocument?_not_object hr nofun

example :
    (firstDocument?
      "\x7b\"Documents\":[0],\"Documents\" : [ \x7b\"id\": 1\x7d , 2]\x7d".toList).toOption =
      some (some "\x7b\"id\": 1\x7d".toList) := by
  decide +kernel

end PageScript.Cosmos
