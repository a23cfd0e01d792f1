import PageScript.Page
import PageScript.Proofs.Text.Blank
import PageScript.Proofs.Text.Cut

/-!
# Pages put together from script elements

A page that is put together from script elements and other text is taken apart into the same bodies.
Bodies and the text between elements may hold anything but one pattern each: no body holds a closing
tag, and no text between elements holds the start of an opening one, in any letter case. What has to be
shown is that neither pattern appears where two parts meet. The angle bracket that starts a tag matches
no later character of a tag, so an occurrence that starts in front of a tag cannot reach into it
(`not_prefix_across`).
-/

namespace PageScript.Text

/-! ## Matching in any letter case -/

/-- `text` is `pattern` in any letter case. -/
def Spells (pattern text : List Char) : Prop := text.map looseKey = pattern.map looseKey

/-- `pattern` occurs in `text` in some letter case. -/
def OccursLoosely (pattern text : List Char) : Prop :=
  pattern.map looseKey <:+: text.map looseKey

instance (pattern text : List Char) : Decidable (Spells pattern text) :=
  inferInstanceAs (Decidable (_ = _))

instance (pattern text : List Char) : Decidable (OccursLoosely pattern text) :=
  inferInstanceAs (Decidable (_ <:+: _))

theorem Spells.exists_cons {p : Char} {pattern text : List Char} (h : Spells (p :: pattern) text) :
    ∃ c rest, text = c :: rest ∧ looseKey c = looseKey p ∧ Spells pattern rest := by
  cases text with
  | nil => cases h
  | cons c rest =>
    obtain ⟨hc, hr⟩ := List.cons.inj h
    exact ⟨c, rest, rfl, hc, hr⟩

theorem Spells.head?_append {p : Char} {pattern text : List Char} (h : Spells (p :: pattern) text)
    (rest : List Char) : ∀ c ∈ (text ++ rest).head?, looseKey c = looseKey p := by
  obtain ⟨first, text, rfl, hf, -⟩ := h.exists_cons
  intro c hc
  obtain rfl : first = c := Option.some.inj hc
  exact hf

theorem dropLoosely?_append {pattern spelled : List Char} (h : Spells pattern spelled)
    (rest : List Char) : dropLoosely? pattern (spelled ++ rest) = some rest := by
  induction pattern generalizing spelled with
  | nil =>
    rw [List.map_eq_nil_iff.1 h]
    rfl
  | cons p ps ih =>
    obtain ⟨c, cs, rfl, hc, hs⟩ := h.exists_cons
    rw [List.cons_append, dropLoosely?, if_pos (show looselyEqual p c = true from beq_iff_eq.2 hc.symm),
      ih hs]

theorem prefix_of_dropLoosely? {pattern text rest : List Char}
    (h : dropLoosely? pattern text = some rest) :
    pattern.map looseKey <+: text.map looseKey := by
  fun_induction dropLoosely? pattern text with
  | case1 text => exact List.nil_prefix
  | case2 p ps c cs hc ih =>
    rw [List.map_cons, List.map_cons, ← beq_iff_eq.1 hc]
    exact (List.prefix_cons_inj _).2 (ih h)
  | case3 => cases h
  | case4 => cases h

/-- A pattern whose first character does not come again in it cannot start in front of a place where
this character stands and end behind that place. -/
theorem not_prefix_across {k : Char} {ks before after : List Char} (hk : k ∉ ks) (hne : before ≠ [])
    (h : ¬ k :: ks <+: before) (ha : ∀ c ∈ after.head?, c = k) : ¬ k :: ks <+: before ++ after := by
  intro hp
  rcases Nat.lt_or_ge before.length (k :: ks).length with hl | hl
  · have hb : before <+: k :: ks :=
      List.prefix_of_prefix_length_le (List.prefix_append before _) hp (Nat.le_of_lt hl)
    obtain ⟨reached, hr⟩ := hb
    obtain ⟨b, bs, rfl⟩ := List.exists_cons_of_ne_nil hne
    rw [← hr, List.prefix_append_right_inj] at hp
    cases reached with
    | nil =>
      rw [List.append_nil] at hr
      exact h (hr ▸ List.prefix_rfl)
    | cons r rs =>
      -- The character at the meeting point would be one of the later characters of the pattern.
      obtain ⟨more, rfl⟩ := hp
      obtain rfl : r = k := ha r rfl
      have hks : bs ++ r :: rs = ks := (List.cons.inj hr).2
      exact hk (hks ▸ List.mem_append_right bs List.mem_cons_self)
  · exact h (List.prefix_of_prefix_length_le hp (List.prefix_append before _) hl)

/-- A pattern that does not occur in `before` does not start there either if what follows starts with
the first character of the pattern, which does not come again in it. -/
theorem dropLoosely?_across {p : Char} {ps before after : List Char}
    (hp : looseKey p ∉ ps.map looseKey) (hne : before ≠ []) (h : ¬ OccursLoosely (p :: ps) before)
    (ha : ∀ c ∈ after.head?, looseKey c = looseKey p) :
    dropLoosely? (p :: ps) (before ++ after) = none := by
  cases hd : dropLoosely? (p :: ps) (before ++ after) with
  | none => rfl
  | some rest =>
    have reached := prefix_of_dropLoosely? hd
    rw [List.map_append, List.map_cons] at reached
    refine absurd reached (not_prefix_across hp ?_ (fun hs => h hs.isInfix) ?_)
    · rwa [Ne, List.map_eq_nil_iff]
    · intro k hk
      rw [List.head?_map] at hk
      obtain ⟨c, hc, rfl⟩ := Option.map_eq_some_iff.1 hk
      exact ha c hc

theorem OccursLoosely.of_tail {pattern : List Char} {c : Char} {text : List Char}
    (h : OccursLoosely pattern text) : OccursLoosely pattern (c :: text) :=
  List.IsInfix.trans h (List.suffix_cons _ _).isInfix

/-- No blank is a letter t. -/
theorem looseKey_ne_of_isBlank {c : Char} (h : isBlank c = true) : looseKey c ≠ looseKey 't' := by
  have none : (blankCodes.all fun n => looseKey (Char.ofNat n) != looseKey 't') = true := by
    decide +kernel
  have this := List.all_eq_true.1 none _ (mem_blankCodes h)
  rwa [Char.ofNat_toNat, bne_iff_ne] at this

end PageScript.Text

namespace PageScript.Page

open Text (Spells OccursLoosely)

/-! ## Elements and what stands between them -/

/-- A script element of a type as it stands in a page. -/
structure Element (scriptType : String) where
  name : List Char
  blanks : List Char
  /-- The attribute that gives the type. -/
  kind : List Char
  /-- The other attributes. -/
  more : List Char
  body : List Char
  closing : List Char
  name_spells : Spells "<script".toList name
  blanks_ne_nil : blanks ≠ []
  blanks_blank : ∀ c ∈ blanks, Text.isBlank c = true
  kind_spells : Spells ("type=\"" ++ scriptType ++ "\"").toList kind
  more_open : '>' ∉ more
  body_open : ¬ OccursLoosely "</script>".toList body
  closing_spells : Spells "</script>".toList closing

/-- The element as it is written. -/
def Element.text {scriptType : String} (e : Element scriptType) : List Char :=
  e.name ++ e.blanks ++ e.kind ++ e.more ++ '>' :: e.body ++ e.closing

/-- Text in which no script element starts. -/
structure Gap where
  text : List Char
  open_free : ¬ OccursLoosely "<script".toList text

/-- A page of elements with text in front of the first one and behind each. -/
structure Assembly (scriptType : String) where
  start : Gap
  parts : List (Element scriptType × Gap)

/-- Elements with the text behind them. -/
def partsText {scriptType : String} (parts : List (Element scriptType × Gap)) : List Char :=
  parts.flatMap fun part => part.1.text ++ part.2.text

/-- The page as it is written. -/
def Assembly.text {scriptType : String} (page : Assembly scriptType) : String :=
  String.ofList (page.start.text ++ partsText page.parts)

section

variable {scriptType : String}

/-! ## One element -/

theorem typeAttribute_eq (scriptType : String) :
    typeAttribute scriptType = ("type=\"" ++ scriptType ++ "\"").toList := by
  rw [String.toList_append, String.toList_append]
  rfl

/-- The blanks of a tag end where its attribute starts. -/
theorem blanksRest?_append {blanks kind : List Char} (hne : blanks ≠ [])
    (hb : ∀ c ∈ blanks, Text.isBlank c = true)
    (ha : Spells (typeAttribute scriptType) kind) (rest : List Char) :
    blanksRest? (blanks ++ (kind ++ rest)) = some (kind ++ rest) := by
  obtain ⟨b, bs, rfl⟩ := List.exists_cons_of_ne_nil hne
  obtain ⟨t, kind, rfl, ht, -⟩ := ha.exists_cons
  have stop : ∀ c ∈ (t :: kind ++ rest).head?, Text.isBlank c = false := by
    intro c hc
    obtain rfl : t = c := Option.some.inj hc
    exact Bool.eq_false_iff.2 fun h => Text.looseKey_ne_of_isBlank h ht
  rw [List.cons_append, blanksRest?, if_pos (hb b List.mem_cons_self),
    Text.dropWhile_append_stop (fun c hc => hb c (List.mem_cons_of_mem b hc)) stop]

theorem tagRest?_append {more : List Char} (h : '>' ∉ more) (rest : List Char) :
    tagRest? (more ++ '>' :: rest) = some rest := by
  rw [tagRest?, Text.dropWhile_append_stop (Text.ne_mark h) (by simp)]
  rfl

theorem Element.openingRest?_text (e : Element scriptType) (rest : List Char) :
    openingRest? scriptType (e.text ++ rest) = some (e.body ++ e.closing ++ rest) := by
  have ha : Spells (typeAttribute scriptType) e.kind := typeAttribute_eq _ ▸ e.kind_spells
  have split : e.text ++ rest = e.name ++ (e.blanks ++ (e.kind ++ (e.more ++ '>' ::
      (e.body ++ e.closing ++ rest)))) := by
    simp [Element.text]
  rw [split, openingRest?, Text.dropLoosely?_append e.name_spells]
  simp only [Option.bind_eq_bind, Option.bind_some]
  rw [blanksRest?_append e.blanks_ne_nil e.blanks_blank ha, Option.bind_some,
    Text.dropLoosely?_append ha, Option.bind_some, tagRest?_append e.more_open]

/-- A body ends at the closing tag that was put behind it. -/
theorem bodyAndRest?_append {body closing : List Char}
    (hb : ¬ OccursLoosely "</script>".toList body) (hc : Spells "</script>".toList closing)
    (rest : List Char) : bodyAndRest? (body ++ (closing ++ rest)) = some (body, rest) := by
  have closed := Text.dropLoosely?_append hc rest
  have starts := hc.head?_append rest
  induction body with
  | nil =>
    cases ht : closing ++ rest with
    | nil => rw [ht] at closed; cases closed
    | cons c tail => rw [List.nil_append, bodyAndRest?, ← ht, closed]
  | cons c body ih =>
    have passed : Text.dropLoosely? "</script>".toList (c :: body ++ (closing ++ rest)) = none :=
      Text.dropLoosely?_across (by decide) (List.cons_ne_nil c body) hb starts
    rw [List.cons_append] at passed ⊢
    rw [bodyAndRest?, passed, ih fun h => hb h.of_tail]
    rfl

theorem Element.element?_text (e : Element scriptType) (rest : List Char) :
    element? scriptType (e.text ++ rest) = some (e.body, rest) := by
  rw [element?, e.openingRest?_text, Option.bind_some, List.append_assoc,
    bodyAndRest?_append e.body_open e.closing_spells]

/-! ## The whole page -/

theorem bodies_nil : bodies scriptType [] = [] := by
  rw [bodies]

theorem bodies_of_element? {c : Char} {text body rest : List Char}
    (h : element? scriptType (c :: text) = some (body, rest)) :
    bodies scriptType (c :: text) = body :: bodies scriptType rest := by
  rw [bodies]
  split
  · rename_i he
    obtain ⟨rfl, rfl⟩ := Prod.mk.inj (Option.some.inj (he.symm.trans h))
    rfl
  · rename_i he
    cases he.symm.trans h

theorem bodies_of_no_element {c : Char} {text : List Char}
    (h : element? scriptType (c :: text) = none) :
    bodies scriptType (c :: text) = bodies scriptType text := by
  rw [bodies]
  split
  · rename_i he
    cases he.symm.trans h
  · rfl

/-- No element starts where the name of its tag does not. -/
theorem element?_of_no_name {text : List Char}
    (h : Text.dropLoosely? "<script".toList text = none) : element? scriptType text = none := by
  rw [element?, openingRest?, h]
  rfl

/-- Text between elements is passed over, up to the end or to the next element. -/
theorem bodies_gap (gap : Gap) {rest : List Char}
    (hr : ∀ c ∈ rest.head?, Text.looseKey c = Text.looseKey '<') :
    bodies scriptType (gap.text ++ rest) = bodies scriptType rest := by
  obtain ⟨text, hg⟩ := gap
  induction text with
  | nil => rfl
  | cons c text ih =>
    have passed : Text.dropLoosely? "<script".toList (c :: text ++ rest) = none :=
      Text.dropLoosely?_across (by decide) (List.cons_ne_nil c text) hg hr
    rw [List.cons_append] at passed ⊢
    rw [bodies_of_no_element (element?_of_no_name passed)]
    exact ih fun h => hg h.of_tail

theorem Element.bodies_text (e : Element scriptType) (rest : List Char) :
    bodies scriptType (e.text ++ rest) = e.body :: bodies scriptType rest := by
  have found := e.element?_text rest
  cases ht : e.text ++ rest with
  | nil => rw [ht] at found; cases found
  | cons c tail => exact bodies_of_element? (ht ▸ found)

/-- What follows a gap is nothing or the start of a tag. -/
theorem head?_partsText (parts : List (Element scriptType × Gap)) :
    ∀ c ∈ (partsText parts).head?, Text.looseKey c = Text.looseKey '<' := by
  cases parts with
  | nil => exact fun c hc => nomatch hc
  | cons part parts =>
    have starts := part.1.name_spells.head?_append
    simp only [partsText, List.flatMap_cons, Element.text, List.append_assoc]
    exact starts _

theorem bodies_partsText (parts : List (Element scriptType × Gap)) :
    bodies scriptType (partsText parts) = parts.map (·.1.body) := by
  induction parts with
  | nil => exact bodies_nil
  | cons part parts ih =>
    rw [partsText, List.flatMap_cons, List.append_assoc, Element.bodies_text]
    rw [show (parts.flatMap fun part => part.1.text ++ part.2.text) = partsText parts from rfl,
      bodies_gap part.2 (head?_partsText parts), ih, List.map_cons]

/-- The texts of the blocks are the trimmed bodies that are not empty. -/
theorem map_text_blocks (page : String) :
    (blocks scriptType page).map Block.text =
      ((bodies scriptType page.toList).map fun body => Text.trim (String.ofList body)).filter
        (· ≠ "") := by
  have unnumbered (texts : List String) :
      (texts.mapIdx fun index text => Block.mk text index).map Block.text = texts :=
    List.ext_getElem (by simp) (by simp)
  rw [blocks, unnumbered]
  induction bodies scriptType page.toList with
  | nil => rfl
  | cons body rest ih =>
    rw [List.filterMap_cons, List.map_cons, List.filter_cons, ← ih]
    by_cases h : Text.trim (String.ofList body) = "" <;> simp [h]

/-- Blocks are numbered in order. -/
theorem map_index_blocks (page : String) :
    (blocks scriptType page).map Block.index = List.range (blocks scriptType page).length := by
  apply List.ext_getElem
  · simp
  · intro n _ _
    simp [blocks]

end

/-- A page put together from script elements of a type is taken apart into their bodies: the blocks are
the trimmed bodies that are not empty, in order, numbered from zero. -/
theorem blocks_assembly {scriptType : String} (page : Assembly scriptType) :
    (blocks scriptType page.text).map Block.text =
      (page.parts.map fun part => Text.trim (String.ofList part.1.body)).filter (· ≠ "") ∧
    (blocks scriptType page.text).map Block.index =
      List.range (blocks scriptType page.text).length := by
  have found : bodies scriptType page.text.toList = page.parts.map (·.1.body) := by
    rw [Assembly.text, String.toList_ofList, bodies_gap page.start (head?_partsText page.parts),
      bodies_partsText]
  constructor
  · rw [map_text_blocks, found, List.map_map]
    rfl
  · exact map_index_blocks page.text

/-- An element whose tag has letters beyond ASCII and whose body starts another element. -/
def nestedElement : Element "k>1" where
  name := "<ſCRİpt".toList
  blanks := "\n\u2003".toList
  kind := "Type=\"\u212a>1\"".toList
  more := " <script".toList
  body := " <script type=\"k>1\"></scrip ".toList
  closing := "</ScRıPT>".toList
  name_spells := by decide +kernel
  blanks_ne_nil := by decide +kernel
  blanks_blank := List.all_eq_true.1 (by decide +kernel)
  kind_spells := by decide +kernel
  more_open := by decide +kernel
  body_open := by decide +kernel
  closing_spells := by decide +kernel

/-- An element with an empty body. -/
def emptyElement : Element "k>1" :=
  { nestedElement with body := "\t".toList, body_open := by decide +kernel }

/-- The empty element in the middle is not counted, and the start of a tag in front of another one is
none. -/
theorem blocks_assembly_mixedPage :
    (blocks "k>1" (Assembly.text ⟨⟨"</script><scr".toList, by decide +kernel⟩,
      [(nestedElement, ⟨"<".toList, by decide +kernel⟩), (emptyElement, ⟨[], by decide +kernel⟩),
        (nestedElement, ⟨[], by decide +kernel⟩)]⟩)).map Block.text =
      ["<script type=\"k>1\"></scrip", "<script type=\"k>1\"></scrip"] :=
  (blocks_assembly _).1.trans (by decide +kernel)

end PageScript.Page
