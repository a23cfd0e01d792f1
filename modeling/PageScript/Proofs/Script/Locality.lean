import PageScript.Proofs.Script.Lookahead

/-!
# Readers do not look beyond their statement

What a reader finds in a text it also finds when the text goes on behind a line feed. The value is the
same, except that each part of it has more characters behind it (`moved`), and the rest goes on in the
same way (`Extends`). There is one lemma for each reader, in the order of the readers, and `Carries`
puts them together step by step.
-/

namespace PageScript.Script

/-! ## The parts of a longer script -/

/-- The extent with `k` more characters behind it. -/
def Extent.moved (k : Nat) (extent : Extent) : Extent :=
  { extent with remaining := extent.remaining + k }

mutual

/-- The expression with `k` more characters behind it. -/
def Expr.moved (k : Nat) : Expr → Expr
  | .string extent value quote => .string (extent.moved k) value quote
  | .expandable extent body => .expandable (extent.moved k) body
  | .number extent value => .number (extent.moved k) value
  | .reference extent name drive splatted => .reference (extent.moved k) name drive splatted
  | .hashtable extent entries => .hashtable (extent.moved k) (movedEntries k entries)
  | .raw extent kind => .raw (extent.moved k) kind

def movedEntries (k : Nat) : List (Expr × Expr) → List (Expr × Expr)
  | [] => []
  | entry :: rest => movedEntry k entry :: movedEntries k rest

def movedEntry (k : Nat) : Expr × Expr → Expr × Expr
  | (key, value) => (key.moved k, value.moved k)

end

/-- The word with `k` more characters behind it. -/
def Element.moved (k : Nat) : Element → Element
  | .parameter extent name argument =>
    .parameter (extent.moved k) name (argument.map (Expr.moved k))
  | .value expr => .value (expr.moved k)

/-- The command with `k` more characters behind it. -/
def Command.moved (k : Nat) (command : Command) : Command where
  extent := command.extent.moved k
  name := command.name
  elements := command.elements.map (Element.moved k)

/-- The statement with `k` more characters behind it. -/
def Statement.moved (k : Nat) : Statement → Statement
  | .assignment extent target operator value =>
    .assignment (extent.moved k) (target.moved k) operator (value.moved k)
  | .command c => .command (c.moved k)
  | .other extent kind => .other (extent.moved k) kind

theorem take_append_sub (text rest u : List Char) :
    (text ++ u).take ((text ++ u).length - (rest ++ u).length) =
      text.take (text.length - rest.length) := by
  rw [List.length_append, List.length_append, Nat.add_sub_add_right,
    List.take_append_of_le_length (Nat.sub_le _ _)]

theorem between_append (text rest u : List Char) :
    Extent.between (text ++ u) (rest ++ u) = (Extent.between text rest).moved u.length := by
  rw [Extent.between, take_append_sub, List.length_append]
  rfl

theorem trimmed_append (text rest u : List Char) :
    Extent.trimmed (text ++ u) (rest ++ u) = (Extent.trimmed text rest).moved u.length := by
  rw [Extent.trimmed, take_append_sub, List.length_append]
  rfl

/-! ## Outcomes -/

/-- If the first outcome is a result, then so is the second, and they are related by `r`. -/
def Carries {α β : Type} (r : α → β → Prop) (x : Except Fault α) (y : Except Fault β) : Prop :=
  ∀ a, x = .ok a → ∃ b, y = .ok b ∧ r a b

section

variable {α β γ δ : Type} {r : α → β → Prop} {s : γ → δ → Prop}

theorem Carries.ok {a : α} {b : β} (h : r a b) : Carries r (.ok a) (.ok b) := by
  intro a' ha
  cases ha
  exact ⟨b, rfl, h⟩

theorem Carries.error (fault : Fault) (y : Except Fault β) : Carries r (.error fault) y := by
  intro a h
  cases h

theorem Carries.of_eq {x x' : Except Fault α} {y y' : Except Fault β} (h : Carries r x' y')
    (hx : x = x') (hy : y = y') : Carries r x y := by
  subst hx hy
  exact h

theorem Carries.bind {x : Except Fault α} {y : Except Fault β} {f : α → Except Fault γ}
    {g : β → Except Fault δ} (h : Carries r x y) (hf : ∀ a b, r a b → Carries s (f a) (g b)) :
    Carries s (x >>= f) (y >>= g) := by
  cases x with
  | error fault => exact .error fault _
  | ok a =>
    obtain ⟨b, rfl, hr⟩ := h a rfl
    exact hf a b hr

theorem Carries.map {x : Except Fault α} {y : Except Fault β} {f : α → γ} {g : β → δ}
    (h : Carries r x y) (hf : ∀ a b, r a b → s (f a) (g b)) : Carries s (x.map f) (y.map g) := by
  cases x with
  | error fault => exact .error fault _
  | ok a =>
    obtain ⟨b, rfl, hr⟩ := h a rfl
    exact .ok (hf a b hr)

/-- A step that is looked back at. -/
theorem Carries.bind_related {x : Except Fault α} {y : Except Fault β} (h : Carries r x y)
    {f : { a // x = .ok a } → Except Fault γ} {g : { b // y = .ok b } → Except Fault δ}
    (hf : ∀ a ha b hb, r a b → Carries s (f ⟨a, ha⟩) (g ⟨b, hb⟩)) :
    Carries s (checked x >>= f) (checked y >>= g) := by
  cases x with
  | error fault => exact .error fault _
  | ok a =>
    obtain ⟨b, hb, hr⟩ := h a rfl
    rw [checked_ok hb]
    exact hf a rfl b hb hr

/-- The same, where the second result is a function of the first. -/
theorem Carries.bind_checked {x : Except Fault α} {y : Except Fault β} {φ : α → β}
    (h : ∀ a, x = .ok a → y = .ok (φ a)) {f : { a // x = .ok a } → Except Fault γ}
    {g : { b // y = .ok b } → Except Fault δ}
    (hf : ∀ a ha hb, Carries s (f ⟨a, ha⟩) (g ⟨φ a, hb⟩)) :
    Carries s (checked x >>= f) (checked y >>= g) := by
  have hx : Carries (fun a b => b = φ a) x y := fun a ha => ⟨φ a, h a ha, rfl⟩
  refine hx.bind_related fun a ha b hb hr => ?_
  subst hr
  exact hf a ha hb

/-- A step after which something has to follow: at the end of the text there is a fault. -/
theorem Carries.bind_cons {x y : Except Fault (List Char)} {u : List Char}
    (h : ∀ c rest, x = .ok (c :: rest) → y = .ok (c :: rest ++ u))
    {f : { rest // x = .ok rest } → Except Fault γ} {g : { rest // y = .ok rest } → Except Fault δ}
    (hnil : ∀ h, ∃ fault, f ⟨[], h⟩ = .error fault)
    (hcons : ∀ c rest h h', Carries s (f ⟨c :: rest, h⟩) (g ⟨c :: rest ++ u, h'⟩)) :
    Carries s (checked x >>= f) (checked y >>= g) := by
  cases x with
  | error fault => exact .error fault _
  | ok rest =>
    cases rest with
    | nil =>
      obtain ⟨fault, hf⟩ := hnil rfl
      exact (Carries.error fault _).of_eq hf rfl
    | cons c rest =>
      rw [checked_ok (h c rest rfl)]
      exact hcons c rest rfl _

end

/-- The same find in a text that goes on with `u`. -/
structure Extends {α : Type} (moved : α → α) (u : List Char) {text : List Char}
    (found : Found α text) (later : Found α (text ++ u)) : Prop where
  value : later.value = moved found.value
  rest : later.rest = found.rest ++ u

/-- The same of a find that there may be. -/
def ExtendsAny {α : Type} (moved : α → α) (u : List Char) {text : List Char} :
    Option (Found α text) → Option (Found α (text ++ u)) → Prop
  | some found, some later => Extends moved u found later
  | none, none => True
  | _, _ => False

section

variable {α γ δ : Type} {moved : α → α} {s : γ → δ → Prop} {u text : List Char}

/-- A step that finds something. -/
theorem Carries.bind_found {x : Except Fault (Found α text)} {y : Except Fault (Found α (text ++ u))}
    {f : Found α text → Except Fault γ} {g : Found α (text ++ u) → Except Fault δ}
    (h : Carries (Extends moved u) x y)
    (hf : ∀ found hs hl, Carries s (f found) (g ⟨moved found.value, found.rest ++ u, hs, hl⟩)) :
    Carries s (x >>= f) (y >>= g) := by
  refine h.bind fun found later he => ?_
  obtain ⟨value, rest, hs, hl⟩ := later
  obtain ⟨rfl, rfl⟩ := he
  exact hf found hs hl

/-- A step that may find something. -/
theorem Carries.bind_any {x : Except Fault (Option (Found α text))}
    {y : Except Fault (Option (Found α (text ++ u)))} {f : Option (Found α text) → Except Fault γ}
    {g : Option (Found α (text ++ u)) → Except Fault δ} (h : Carries (ExtendsAny moved u) x y)
    (hnone : Carries s (f none) (g none))
    (hsome : ∀ found hs hl,
      Carries s (f (some found)) (g (some ⟨moved found.value, found.rest ++ u, hs, hl⟩))) :
    Carries s (x >>= f) (y >>= g) := by
  refine h.bind fun found later he => ?_
  match found, later, he with
  | none, none, _ => exact hnone
  | some found, some ⟨value, rest, hs, hl⟩, he =>
    obtain ⟨rfl, rfl⟩ := he
    exact hsome found hs hl

end

/-- The same expression in a text that goes on behind a line feed. -/
abbrev SameExpr (u : List Char) {text : List Char} (found : Found Expr text)
    (later : Found Expr (text ++ '\n' :: u)) : Prop :=
  Extends (Expr.moved ('\n' :: u).length) ('\n' :: u) found later

/-- The same expression, if there is one. -/
abbrev SameExpr? (u : List Char) {text : List Char} (found : Option (Found Expr text))
    (later : Option (Found Expr (text ++ '\n' :: u))) : Prop :=
  ExtendsAny (Expr.moved ('\n' :: u).length) ('\n' :: u) found later

theorem Carries.some {u text : List Char} {x : Except Fault (Found Expr text)}
    {y : Except Fault (Found Expr (text ++ '\n' :: u))} (h : Carries (SameExpr u) x y) :
    Carries (SameExpr? u) (some <$> x) (some <$> y) :=
  h.map fun _ _ he => he

/-- A reader of hashtables and one that reads the same in a text that goes on. -/
def SameTables (u : List Char) (table later : TableReader) : Prop :=
  ∀ text, Ended text →
    Carries (Extends (movedEntries ('\n' :: u).length) ('\n' :: u)) (table text)
      (later (text ++ '\n' :: u))

/-! ## Words and variables -/

section

variable {text : List Char} (u : List Char)

theorem word_carries (he : Ended text) :
    Carries (Extends id ('\n' :: u)) (word text) (word (text ++ '\n' :: u)) := by
  unfold word
  split
  · rename_i h
    have hl : (wordRest (text ++ '\n' :: u)).length < (text ++ '\n' :: u).length := by
      rw [wordRest_lineFeed he, List.length_append, List.length_append]
      omega
    rw [dif_pos hl]
    refine .ok ⟨?_, wordRest_lineFeed he u⟩
    dsimp only [id]
    rw [wordRest_lineFeed he, take_append_sub]
  · exact .error _ _

theorem wordExpr_carries (extent : Extent) (word : String) (k : Nat) :
    Carries (fun a b => b = a.moved k) (liftNumeral (wordExpr extent word))
      (liftNumeral (wordExpr (extent.moved k) word)) := by
  unfold wordExpr
  split
  · rename_i literal _
    cases literal.value with
    | error fault => exact .error _ _
    | ok value => exact .ok rfl
  · split <;> exact .ok rfl

theorem variableAt_carries (rest : List Char) :
    Carries (SameExpr u) (variableAt rest) (variableAt (rest ++ '\n' :: u)) := by
  refine Carries.bind_checked (fun out h => variableName?_lineFeed h u) fun out _ _ => ?_
  match out with
  | none => exact .ok ⟨congrArg (Expr.string · _ _) (between_append ('$' :: rest) rest _), rfl⟩
  | some (name, drive, after) =>
    exact .ok ⟨congrArg (Expr.reference · _ _ _) (between_append ('$' :: rest) after _), rfl⟩

theorem withMembers_carries (he : Ended text) (found : Found Expr text)
    (hs : found.rest ++ '\n' :: u <:+ text ++ '\n' :: u)
    (hl : (found.rest ++ '\n' :: u).length < (text ++ '\n' :: u).length) :
    Carries (SameExpr u) (withMembers found)
      (withMembers ⟨found.value.moved ('\n' :: u).length, found.rest ++ '\n' :: u, hs, hl⟩) := by
  have hmembers : ∀ rest, membersRest found.rest = .ok rest →
      membersRest (found.rest ++ '\n' :: u) = .ok (rest ++ '\n' :: u) :=
    fun rest hr => membersRest_lineFeed (he.suffix found.suffix) hr u
  refine Carries.bind_checked hmembers fun rest _ _ => ?_
  have hlength : (rest ++ '\n' :: u).length < (found.rest ++ '\n' :: u).length ↔
      rest.length < found.rest.length := by
    rw [List.length_append, List.length_append]
    omega
  dsimp only
  split
  · rename_i hr
    rw [if_pos (hlength.2 hr)]
    exact .ok ⟨congrArg (Expr.raw · _) (between_append text rest _), rfl⟩
  · rename_i hr
    rw [if_neg (mt hlength.1 hr)]
    exact .ok ⟨rfl, rfl⟩

/-! ## Expressions and commands -/

theorem groupExpr_carries (kind : RawKind) (closer : Char) {c : Char} {t : List Char}
    (he : Ended (c :: t)) :
    Carries (SameExpr u) (groupExpr kind closer c t) (groupExpr kind closer c (t ++ '\n' :: u)) :=
  Carries.bind_checked (fun _ h => groupRest_lineFeed he h u) fun rest _ _ =>
    .ok ⟨congrArg (Expr.raw · _) (between_append (c :: t) rest _), rfl⟩

theorem signedGroupExpr_carries (kind : RawKind) {c : Char} {t : List Char} (he : Ended ('(' :: t)) :
    Carries (SameExpr u) (signedGroupExpr kind c t) (signedGroupExpr kind c (t ++ '\n' :: u)) :=
  Carries.bind_checked (fun _ h => groupRest_lineFeed he h u) fun rest _ _ =>
    .ok ⟨congrArg (Expr.raw · _) (between_append (c :: '(' :: t) rest _), rfl⟩

theorem singleQuotedExpr_carries (t : List Char) :
    Carries (SameExpr u) (singleQuotedExpr t) (singleQuotedExpr (t ++ '\n' :: u)) := by
  have hbody : ∀ out, singleQuotedBody ('\'' :: t) t = .ok out →
      singleQuotedBody ('\'' :: (t ++ '\n' :: u)) (t ++ '\n' :: u) = .ok (out.1, out.2 ++ '\n' :: u) :=
    fun out h => singleQuotedBody_lineFeed h _ u
  refine Carries.bind_checked hbody fun out _ _ => ?_
  exact .ok ⟨congrArg (Expr.string · _ _) (between_append ('\'' :: t) out.2 _), rfl⟩

theorem doubleQuotedExpr_carries {t : List Char} (he : Ended ('"' :: t)) :
    Carries (SameExpr u) (doubleQuotedExpr t) (doubleQuotedExpr (t ++ '\n' :: u)) := by
  refine Carries.bind_checked (fun _ h => doubleQuotedRest_lineFeed he h u) fun rest _ _ => ?_
  have hbody : (t ++ '\n' :: u).take ((t ++ '\n' :: u).length - (rest ++ '\n' :: u).length - 1) =
      t.take (t.length - rest.length - 1) := by
    rw [List.length_append, List.length_append, Nat.add_sub_add_right,
      List.take_append_of_le_length (by omega)]
  have hextent := between_append ('"' :: t) rest ('\n' :: u)
  refine .ok ⟨?_, rfl⟩
  show Expr.expandable (.between ('"' :: t ++ '\n' :: u) (rest ++ '\n' :: u)) (String.ofList _) = _
  rw [hextent, hbody]
  rfl

theorem hereStringExpr_carries {body : List Char} {quote : Char}
    (head : hereStringHead? text = some (quote, body))
    (later : hereStringHead? (text ++ '\n' :: u) = some (quote, body ++ '\n' :: u)) :
    Carries (SameExpr u) (hereStringExpr head) (hereStringExpr later) := by
  have hbody : ∀ out, hereStringBody text quote body = .ok out →
      hereStringBody (text ++ '\n' :: u) quote (body ++ '\n' :: u) =
        .ok (out.1, out.2 ++ '\n' :: u) :=
    fun out h => hereStringBody_longer h _ _
  refine Carries.bind_checked hbody fun out _ _ => .ok ⟨?_, rfl⟩
  dsimp only
  rw [between_append]
  split <;> rfl

/-- A text that does not start with a character does not do so when it goes on in a new line. -/
theorem dollarExpr_carries {t : List Char} (he : Ended ('$' :: t)) :
    Carries (SameExpr u) (dollarExpr t) (dollarExpr (t ++ '\n' :: u)) := by
  by_cases ht : ∃ inner, t = '(' :: inner
  · obtain ⟨inner, rfl⟩ := ht
    exact Carries.bind_found (signedGroupExpr_carries u _ he.tail) (withMembers_carries u he)
  · have hn : ∀ inner, t ≠ '(' :: inner := fun inner h => ht ⟨inner, h⟩
    rw [dollarExpr, dollarExpr]
    · exact Carries.bind_found (variableAt_carries u t) (withMembers_carries u he)
    · exact ne_cons_lineFeed hn (by decide) u
    · exact hn

section

variable {table later : TableReader} (htable : SameTables u table later)
include htable

theorem atExpr_carries {t : List Char} (he : Ended ('@' :: t)) :
    Carries (SameExpr u) (atExpr table t) (atExpr later (t ++ '\n' :: u)) := by
  by_cases hb : ∃ inner, t = '\x7b' :: inner
  · obtain ⟨inner, rfl⟩ := hb
    refine Carries.bind_found (htable ('@' :: '\x7b' :: inner) he) fun found _ _ => .ok ⟨?_, rfl⟩
    exact congrArg (Expr.hashtable · _) (between_append ('@' :: '\x7b' :: inner) found.rest _)
  · by_cases hp : ∃ inner, t = '(' :: inner
    · obtain ⟨inner, rfl⟩ := hp
      exact signedGroupExpr_carries u _ he.tail
    · have hnb : ∀ inner, t ≠ '\x7b' :: inner := fun inner h => hb ⟨inner, h⟩
      have hnp : ∀ inner, t ≠ '(' :: inner := fun inner h => hp ⟨inner, h⟩
      rw [atExpr, atExpr, startsName_lineFeed]
      · split
        · have hextent := between_append ('@' :: t) (dropName t) ('\n' :: u)
          refine .ok ⟨?_, dropName_lineFeed t u⟩
          show Expr.reference (.between ('@' :: t ++ '\n' :: u) (dropName (t ++ '\n' :: u)))
            (takeName (t ++ '\n' :: u)) none true = _
          rw [dropName_lineFeed, takeName_lineFeed, hextent]
          rfl
        · exact .error _ _
      · exact ne_cons_lineFeed hnb (by decide) u
      · exact ne_cons_lineFeed hnp (by decide) u
      · exact hnb
      · exact hnp

omit htable in
/-- An at sign in front of a dangling quote starts nothing. -/
theorem primary?_dangling {t : List Char} (hd : Dangling ('@' :: t)) :
    primary? table ('@' :: t) = .error (.problem .strayAt ('@' :: t) ('@' :: t)) := by
  rw [primary?_at table (hereStringHead?_dangling hd)]
  obtain ⟨quote, blanks, he, hq, -⟩ := hd
  cases he
  have hn : startsName (quote :: blanks) = false := by
    rcases hq with rfl | rfl
    · show isNameChar '\'' = false
      decide +kernel
    · show isNameChar '"' = false
      decide +kernel
  rw [atExpr, hn]
  · rfl
  · intro inner h
    rcases hq with rfl | rfl <;> cases h
  · intro inner h
    rcases hq with rfl | rfl <;> cases h

theorem primary?_carries (he : Ended text) :
    Carries (SameExpr? u) (primary? table text) (primary? later (text ++ '\n' :: u)) := by
  cases text with
  | nil => exact .ok trivial
  | cons c t =>
    by_cases hc : c ∈ ['\'', '"', '@', '$', '(', '\x7b', '[']
    · simp only [List.mem_cons, List.not_mem_nil, or_false] at hc
      rcases hc with rfl | rfl | rfl | rfl | rfl | rfl | rfl
      · exact (singleQuotedExpr_carries u t).some
      · exact (doubleQuotedExpr_carries u he).some
      · by_cases hd : Dangling ('@' :: t)
        · rw [primary?_dangling hd]
          exact .error _ _
        · have hhead := hereStringHead?_lineFeed hd u
          cases hh : hereStringHead? ('@' :: t) with
          | none =>
            rw [hh] at hhead
            exact (atExpr_carries u htable he).some.of_eq (primary?_at table hh)
              (primary?_at later hhead)
          | some head =>
            rw [hh] at hhead
            exact (hereStringExpr_carries u hh hhead).some.of_eq (primary?_hereString table hh)
              (primary?_hereString later hhead)
      · exact (dollarExpr_carries u he).some
      · exact (groupExpr_carries u _ _ he).some
      · exact (groupExpr_carries u _ _ he).some
      · exact (groupExpr_carries u _ _ he).some
    · exact (Carries.ok trivial).of_eq (primary?_none hc table t) (primary?_none hc later _)

theorem argument_carries (he : Ended text) :
    Carries (SameExpr u) (argument table text) (argument later (text ++ '\n' :: u)) := by
  refine Carries.bind_any (primary?_carries u htable he) ?_ fun found _ _ => .ok ⟨rfl, rfl⟩
  refine Carries.bind_found (word_carries u he) fun found _ _ => ?_
  have hexpr := wordExpr_carries (.between text found.rest) found.value ('\n' :: u).length
  rw [← between_append] at hexpr
  exact Carries.bind hexpr fun expr moved hm => .ok ⟨hm, rfl⟩

omit htable in
theorem listComma?_carries (he : Ended text) :
    Carries (ExtendsAny id ('\n' :: u)) (listComma? text) (listComma? (text ++ '\n' :: u)) := by
  refine Carries.bind_checked (fun _ h => skipInline_lineFeed u he h) fun here h _ => ?_
  by_cases hcomma : ∃ t, here = ',' :: t
  · obtain ⟨t, rfl⟩ := hcomma
    have hblanks := fun c rest => skipBlanks_lineFeed_cons (c := c) (t := rest) u
      (he.suffix (skipInline_suffix h)).tail
    refine Carries.bind_cons hblanks (fun _ => ⟨_, rfl⟩) fun c rest _ _ => ?_
    dsimp only
    split
    · exact .error _ _
    · rename_i hs
      have hs' : ¬ stopped endsElement (c :: rest ++ '\n' :: u) = true := hs
      rw [if_neg hs']
      exact .ok ⟨rfl, rfl⟩
  · have hn : ∀ t, here ≠ ',' :: t := fun t he => hcomma ⟨t, he⟩
    split
    · rename_i heq
      exact absurd (congrArg Subtype.val heq) (hn _)
    · split
      · rename_i heq
        exact absurd (congrArg Subtype.val heq) (ne_cons_lineFeed hn (by decide) u _)
      · exact .ok trivial

theorem listRest_carries (he : Ended text) :
    Carries (fun a b => b.val = a.val ++ '\n' :: u) (listRest table text)
      (listRest later (text ++ '\n' :: u)) := by
  induction hn : text.length using Nat.strongRecOn generalizing text with
  | ind n ih =>
    subst hn
    rw [listRest, listRest]
    refine Carries.bind_any (listComma?_carries u he) (.ok rfl) fun comma _ _ => ?_
    have hcomma := he.suffix comma.suffix
    refine Carries.bind_found (argument_carries u htable hcomma) fun item _ _ => ?_
    have hlength := Nat.lt_trans item.shorter comma.shorter
    exact Carries.bind (ih _ hlength (hcomma.suffix item.suffix) rfl) fun _ _ hr => .ok hr

theorem parameter_carries {t : List Char} (he : Ended ('-' :: t)) :
    Carries (Extends (Element.moved ('\n' :: u).length) ('\n' :: u)) (parameter table t)
      (parameter later (t ++ '\n' :: u)) := by
  have htake : (t ++ '\n' :: u).takeWhile isParameterChar = t.takeWhile isParameterChar :=
    takeWhile_lineFeed (by decide) t u
  have hdrop : (t ++ '\n' :: u).dropWhile isParameterChar =
      t.dropWhile isParameterChar ++ '\n' :: u := dropWhile_lineFeed (by decide) t u
  unfold parameter
  dsimp only
  rw [htake]
  split
  · rename_i behind hd
    have hsuffix : behind <:+ '-' :: t :=
      ((List.suffix_cons ':' behind).trans (hd ▸ List.dropWhile_suffix _)).trans (List.suffix_cons _ t)
    split
    · rename_i hd'
      rw [hdrop, hd] at hd'
      obtain rfl := (List.cons.inj hd').2
      refine Carries.bind_checked (fun _ h => skipInline_lineFeed u (he.suffix hsuffix) h)
        fun here h _ => ?_
      have hhere := (he.suffix hsuffix).suffix (skipInline_suffix h)
      dsimp only
      rw [stopped_lineFeed rfl]
      split
      · exact .error _ _
      · refine Carries.bind_found (argument_carries u htable hhere) fun found _ _ => .ok ⟨?_, rfl⟩
        exact congrArg (Element.parameter · _ _) (between_append ('-' :: t) found.rest _)
    · rename_i hd'
      rw [hdrop, hd] at hd'
      exact absurd rfl (hd' _)
  · rename_i hd
    split
    · rename_i hd'
      rw [hdrop] at hd'
      exact absurd hd' (ne_cons_lineFeed hd (by decide) u _)
    · have hextent := between_append ('-' :: t) (t.dropWhile isParameterChar) ('\n' :: u)
      rw [← hdrop] at hextent
      exact .ok ⟨congrArg (Element.parameter · _ _) hextent, hdrop⟩

theorem positional_carries (he : Ended text) :
    Carries (Extends (Element.moved ('\n' :: u).length) ('\n' :: u)) (positional table text)
      (positional later (text ++ '\n' :: u)) := by
  refine Carries.bind_found (argument_carries u htable he) fun found _ _ => ?_
  refine Carries.bind (listRest_carries u htable (he.suffix found.suffix)) fun rest after hr => ?_
  obtain ⟨after, _⟩ := after
  dsimp only at hr
  subst hr
  have hlength : (rest.val ++ '\n' :: u).length < (found.rest ++ '\n' :: u).length ↔
      rest.val.length < found.rest.length := by
    rw [List.length_append, List.length_append]
    omega
  dsimp only
  split
  · rename_i hl
    rw [if_pos (hlength.2 hl)]
    refine .ok ⟨?_, rfl⟩
    exact congrArg (fun extent => Element.value (.raw extent .list)) (between_append text rest.val _)
  · rename_i hl
    rw [if_neg (mt hlength.1 hl)]
    exact .ok ⟨rfl, rfl⟩

theorem element_carries (he : Ended text) :
    Carries (Extends (Element.moved ('\n' :: u).length) ('\n' :: u)) (element table text)
      (element later (text ++ '\n' :: u)) := by
  by_cases hhyphen : ∃ t, text = '-' :: t
  · obtain ⟨t, rfl⟩ := hhyphen
    have hstarts : startsParameter (t ++ '\n' :: u) = startsParameter t := by
      cases t with
      | nil =>
        show (isNameStart '\n' || '\n' == '?') = false
        rw [isNameStart_lineFeed]
        rfl
      | cons c t => rfl
    show Carries _ (if startsParameter t then _ else _)
      (if startsParameter (t ++ '\n' :: u) then _ else _)
    rw [hstarts]
    split
    · exact parameter_carries u htable he
    · exact positional_carries u htable he
  · have hn : ∀ t, text ≠ '-' :: t := fun t h => hhyphen ⟨t, h⟩
    rw [element, element]
    · exact positional_carries u htable he
    · exact ne_cons_lineFeed hn (by decide) u
    · exact hn

theorem elements_carries (he : Ended text) :
    Carries (fun a b => b.1 = a.1.map (Element.moved ('\n' :: u).length) ∧
        b.2.val = a.2.val ++ '\n' :: u)
      (elements table text) (elements later (text ++ '\n' :: u)) := by
  induction hn : text.length using Nat.strongRecOn generalizing text with
  | ind n ih =>
    subst hn
    rw [elements, elements]
    refine Carries.bind_checked (fun _ h => skipInline_lineFeed u he h) fun here h _ => ?_
    have hs := skipInline_suffix h
    have hhere := he.suffix hs
    dsimp only
    rw [stopped_lineFeed rfl]
    split
    · exact .ok ⟨rfl, rfl⟩
    · refine Carries.bind_found (element_carries u htable hhere) fun first _ _ => ?_
      have hlength := Nat.lt_of_lt_of_le first.shorter hs.length_le
      refine Carries.bind (ih _ hlength (hhere.suffix first.suffix) rfl) fun out after hr => .ok ?_
      exact ⟨congrArg (_ :: ·) hr.1, hr.2⟩

theorem command_carries (he : Ended text) :
    Carries (Extends (Command.moved ('\n' :: u).length) ('\n' :: u)) (command table text)
      (command later (text ++ '\n' :: u)) := by
  refine Carries.bind_found (word_carries u he) fun name _ _ => ?_
  refine Carries.bind (elements_carries u htable (he.suffix name.suffix)) fun out after hr => ?_
  obtain ⟨others, rest, hrest⟩ := after
  obtain ⟨rfl, rfl⟩ := hr
  refine .ok ⟨?_, rfl⟩
  exact congrArg (Command.mk · _ _) (trimmed_append text out.2.val _)

theorem numberOrCommand?_carries (he : Ended text) :
    Carries (SameExpr? u) (numberOrCommand? table text)
      (numberOrCommand? later (text ++ '\n' :: u)) := by
  have hlater := Numeral.take?_lineFeed text u
  cases htake : Numeral.Literal.take? text with
  | some out =>
    obtain ⟨literal, rest⟩ := out
    rw [htake] at hlater
    refine Carries.of_eq ?_ (numberOrCommand?_number htake table) (numberOrCommand?_number hlater later)
    cases literal.value with
    | error fault => exact .error _ _
    | ok value => exact .ok ⟨congrArg (Expr.number · _) (between_append text rest _), rfl⟩
  | none =>
    rw [htake] at hlater
    refine Carries.of_eq ?_ (numberOrCommand?_command htake table)
      (numberOrCommand?_command hlater later)
    have hstarts : ((text ++ '\n' :: u).head?.map startsCommand).getD false =
        (text.head?.map startsCommand).getD false := by
      cases text with
      | nil => rfl
      | cons c t => rfl
    rw [hstarts]
    split
    · refine Carries.map (command_carries u htable he) fun found after h => ?_
      have hextent := trimmed_append text found.rest ('\n' :: u)
      rw [← h.rest] at hextent
      exact ⟨congrArg (Expr.raw · _) hextent, h.rest⟩
    · exact .ok trivial

omit htable in
theorem unaryExpr_carries {stops : Char → Bool} (hs : StopsLine stops) (he : Ended text) :
    Carries (SameExpr u) (unaryExpr stops text) (unaryExpr stops (text ++ '\n' :: u)) := by
  cases text with
  | nil => exact .error _ _
  | cons c t =>
    show Carries _ (if "-+!,".toList.contains c then _ else _)
      (if "-+!,".toList.contains c then _ else _)
    split
    · exact Carries.bind_checked (fun _ h => rawBehind_lineFeed hs he h u) fun rest _ _ =>
        .ok ⟨congrArg (Expr.raw · _) (trimmed_append (c :: t) rest _), rfl⟩
    · exact .error _ _

omit htable in
theorem extended_carries {stops : Char → Bool} (hstops : StopsLine stops) (he : Ended text)
    (found : Found Expr text) (hs : found.rest ++ '\n' :: u <:+ text ++ '\n' :: u)
    (hl : (found.rest ++ '\n' :: u).length < (text ++ '\n' :: u).length) :
    Carries (SameExpr u) (extended stops found)
      (extended stops ⟨found.value.moved ('\n' :: u).length, found.rest ++ '\n' :: u, hs, hl⟩) := by
  have hfound := he.suffix found.suffix
  refine Carries.bind_checked (fun _ h => skipInline_lineFeed u hfound h) fun here h _ => ?_
  dsimp only
  rw [stopped_lineFeed hstops.lineFeed]
  split
  · exact .ok ⟨rfl, rfl⟩
  · have hhere := hfound.suffix (skipInline_suffix h)
    exact Carries.bind_checked (fun _ h => rawRest_lineFeed hstops hhere h u) fun rest _ _ =>
      .ok ⟨congrArg (Expr.raw · _) (trimmed_append text rest _), rfl⟩

theorem expression_carries {stops : Char → Bool} (hs : StopsLine stops) (he : Ended text) :
    Carries (SameExpr u) (expression table stops text)
      (expression later stops (text ++ '\n' :: u)) := by
  refine Carries.bind_any (primary?_carries u htable he) ?_ (extended_carries u hs he)
  refine Carries.bind_any (numberOrCommand?_carries u htable he) ?_ (extended_carries u hs he)
  exact unaryExpr_carries u hs he

/-! ## Hashtable literals -/

omit htable in
theorem bareKey_carries : Carries (SameExpr u) (bareKey text) (bareKey (text ++ '\n' :: u)) := by
  cases text with
  | nil => exact .error _ _
  | cons c t =>
    have hdrop : (t ++ '\n' :: u).dropWhile (!endsKey ·) = t.dropWhile (!endsKey ·) ++ '\n' :: u :=
      dropWhile_lineFeed rfl t u
    have hextent := between_append (c :: t) (t.dropWhile (!endsKey ·)) ('\n' :: u)
    rw [List.cons_append, ← hdrop] at hextent
    show Carries _ (if endsKey c then _ else _) (if endsKey c then _ else _)
    split
    · exact .error _ _
    · have hexpr := wordExpr_carries (.between (c :: t) (t.dropWhile (!endsKey ·)))
        (Extent.between (c :: t) (t.dropWhile (!endsKey ·))).text ('\n' :: u).length
      refine Carries.bind (hexpr.of_eq rfl ?_) fun expr moved hm => .ok ⟨hm, hdrop⟩
      exact congrArg (fun extent => liftNumeral (wordExpr extent extent.text)) hextent

theorem key_carries (he : Ended text) :
    Carries (SameExpr u) (key table text) (key later (text ++ '\n' :: u)) :=
  Carries.bind_any (primary?_carries u htable he) (bareKey_carries u) fun _ _ _ => .ok ⟨rfl, rfl⟩

theorem entryValue_carries (he : Ended text) :
    Carries (SameExpr u) (entryValue table text) (entryValue later (text ++ '\n' :: u)) := by
  cases h : skipInline text with
  | error fault =>
    rw [entryValue, checked_error h]
    exact .error fault _
  | ok here =>
    have hhere := he.suffix (skipInline_suffix h)
    by_cases hequals : ∃ t, here = '=' :: t
    · obtain ⟨t, rfl⟩ := hequals
      rw [entryValue, entryValue, checked_ok h, checked_ok (skipInline_lineFeed u he h)]
      have hblanks := fun c rest => skipBlanks_lineFeed_cons (c := c) (t := rest) u hhere.tail
      refine Carries.bind_cons hblanks (fun _ => ⟨_, rfl⟩) fun c rest hb _ => ?_
      have hvalue := hhere.tail.suffix (skipBlanks_suffix hb)
      dsimp only
      split
      · exact .error _ _
      · rename_i hs
        have hs' : ¬ stopped (fun c => c == ';' || c == '\x7d') (c :: rest ++ '\n' :: u) = true := hs
        rw [if_neg hs']
        exact Carries.bind_found (expression_carries u htable stopsLine_endsEntry hvalue)
          fun found _ _ => .ok ⟨rfl, rfl⟩
    · rw [entryValue_missing h fun t ht => hequals ⟨t, ht⟩]
      exact .error _ _

theorem entries_carries (opened : List Char) (he : Ended text) :
    Carries (Extends (movedEntries ('\n' :: u).length) ('\n' :: u)) (entries table opened text)
      (entries later (opened ++ '\n' :: u) (text ++ '\n' :: u)) := by
  induction hn : text.length using Nat.strongRecOn generalizing text with
  | ind n ih =>
    subst hn
    cases h : skipBlanks text with
    | error fault =>
      rw [entries, checked_error h]
      exact .error fault _
    | ok here =>
      cases here with
      | nil =>
        rw [entries_nil h]
        exact .error _ _
      | cons c t =>
        have hs := skipBlanks_suffix h
        have hhere := he.suffix hs
        have hlater := skipBlanks_lineFeed_cons u he h
        by_cases hsemicolon : c = ';'
        · subst hsemicolon
          have hlength : t.length < text.length := hs.length_le
          rw [entries, entries, checked_ok h, checked_ok hlater]
          exact Carries.bind_found (ih _ hlength hhere.tail rfl) fun found _ _ => .ok ⟨rfl, rfl⟩
        · by_cases hbrace : c = '\x7d'
          · subst hbrace
            rw [entries, entries, checked_ok h, checked_ok hlater]
            exact .ok ⟨rfl, rfl⟩
          · refine Carries.of_eq ?_ (entries_entry h hsemicolon hbrace table opened)
              (entries_entry hlater hsemicolon hbrace later _)
            refine Carries.bind_found (key_carries u htable hhere) fun key _ _ => ?_
            have hkey := hhere.suffix key.suffix
            refine Carries.bind_found (entryValue_carries u htable hkey) fun value _ _ => ?_
            have hlength : value.rest.length < text.length :=
              Nat.lt_of_lt_of_le (Nat.lt_trans value.shorter key.shorter) hs.length_le
            exact Carries.bind_found (ih _ hlength (hkey.suffix value.suffix) rfl)
              fun others _ _ => .ok ⟨rfl, rfl⟩

end

theorem hashtable_carries (he : Ended text) :
    Carries (Extends (movedEntries ('\n' :: u).length) ('\n' :: u)) (hashtable text)
      (hashtable (text ++ '\n' :: u)) := by
  induction hn : text.length using Nat.strongRecOn generalizing text with
  | ind n ih =>
    subst hn
    have hblanks : skipBlanks [] = .ok [] :=
      skipBlanks_stays skipInline_nil fun rest => (List.cons_ne_nil _ rest).symm
    rw [hashtable, hashtable]
    -- A literal has two characters in front of its entries.
    cases text with
    | nil =>
      have hdrop : skipBlanks (List.drop 2 []) = .ok [] := hblanks
      rw [entries_nil hdrop]
      exact .error _ _
    | cons c text =>
      cases text with
      | nil =>
        have hdrop : skipBlanks (List.drop 2 [c]) = .ok [] := hblanks
        rw [entries_nil hdrop]
        exact .error _ _
      | cons d t =>
        refine Carries.bind_found (entries_carries u ?_ (c :: d :: t) he.tail.tail) fun found _ _ =>
          .ok ⟨rfl, rfl⟩
        intro inner hinner
        dsimp only
        split
        · rename_i hl
          rw [if_pos]
          · exact ih _ hl hinner rfl
          · rw [List.length_append, List.length_append]
            exact Nat.add_lt_add_right hl _
        · exact .error _ _

end

end PageScript.Script
