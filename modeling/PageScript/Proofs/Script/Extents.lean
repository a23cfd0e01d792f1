import PageScript.Proofs.Script.Faults

/-!
# Where the parts of a statement stand

Every part of a statement keeps the text it was read from and how much of the script was left at its
start. `HasExtent` lists the extents of all parts of an expression, a word or a statement, at any
depth; `Within` says of all of them that they lie in a text: at the place an extent names, the text goes
on with the text of the extent. It is kept when the text is seen from an earlier place, so there is one
short lemma for each reader, in the order of the readers.
-/

namespace PageScript.Script

/-! ## Extents -/

/-- At the place that the extent names, `text` goes on with the text of the extent. -/
def Extent.LiesIn (text : List Char) (extent : Extent) : Prop :=
  ∃ start, start <:+ text ∧ extent.remaining = start.length ∧ extent.text.toList <+: start

theorem Extent.LiesIn.mono {inner text : List Char} {extent : Extent} (h : extent.LiesIn inner)
    (hs : inner <:+ text) : extent.LiesIn text := by
  obtain ⟨start, hi, hr, hp⟩ := h
  exact ⟨start, hi.trans hs, hr, hp⟩

/-- What is taken off the end of a text is dropped characters only. -/
theorem trimEndOf_append (drop : Char → Bool) (text : List Char) :
    ∃ blanks, text = Text.trimEndOf drop text ++ blanks ∧ ∀ c ∈ blanks, drop c = true := by
  refine ⟨(text.reverse.takeWhile drop).reverse, ?_, fun c hc => ?_⟩
  · rw [Text.trimEndOf, ← List.reverse_append, List.takeWhile_append_dropWhile, List.reverse_reverse]
  · exact List.all_eq_true.1 List.all_takeWhile c (List.mem_reverse.1 hc)

theorem between_liesIn {start text : List Char} (h : start <:+ text) (stop : List Char) :
    (Extent.between start stop).LiesIn text := by
  refine ⟨start, h, rfl, ?_⟩
  rw [Extent.between, String.toList_ofList]
  exact List.take_prefix _ start

theorem trimmed_liesIn {start text : List Char} (h : start <:+ text) (stop : List Char) :
    (Extent.trimmed start stop).LiesIn text := by
  refine ⟨start, h, rfl, ?_⟩
  obtain ⟨blanks, ht, -⟩ := trimEndOf_append Text.isBlank (start.take (start.length - stop.length))
  rw [Extent.trimmed, String.toList_ofList]
  exact List.IsPrefix.trans ⟨blanks, ht.symm⟩ (List.take_prefix _ start)

/-! ## Parts -/

/-- The keys and values of a hashtable literal; other expressions have none. -/
def Expr.entries : Expr → Entries
  | .hashtable _ entries => entries
  | _ => []

/-- The extents of an expression and of the keys and values in it. -/
inductive Expr.HasExtent : Expr → Extent → Prop where
  | own (expr : Expr) : HasExtent expr expr.extent
  | key {expr key value : Expr} {extent : Extent} : (key, value) ∈ expr.entries →
    HasExtent key extent → HasExtent expr extent
  | value {expr key value : Expr} {extent : Extent} : (key, value) ∈ expr.entries →
    HasExtent value extent → HasExtent expr extent

/-- The extents of a word of a command and of what is in it. -/
inductive Element.HasExtent : Element → Extent → Prop where
  | own (element : Element) : HasExtent element element.extent
  | argument {whole extent : Extent} {name : String} {argument : Expr} :
    argument.HasExtent extent → HasExtent (.parameter whole name (some argument)) extent
  | value {expr : Expr} {extent : Extent} : expr.HasExtent extent → HasExtent (.value expr) extent

/-- The extents of a statement and of what is in it. -/
inductive Statement.HasExtent : Statement → Extent → Prop where
  | own (statement : Statement) : HasExtent statement statement.extent
  | target {whole extent : Extent} {target value : Expr} {operator : AssignOp} :
    target.HasExtent extent → HasExtent (.assignment whole target operator value) extent
  | value {whole extent : Extent} {target value : Expr} {operator : AssignOp} :
    value.HasExtent extent → HasExtent (.assignment whole target operator value) extent
  | element {command : Command} {element : Element} {extent : Extent} :
    element ∈ command.elements → element.HasExtent extent → HasExtent (.command command) extent

/-- All parts of the expression lie in the text. -/
def Expr.Within (text : List Char) (expr : Expr) : Prop :=
  ∀ extent, expr.HasExtent extent → extent.LiesIn text

/-- All parts of the word lie in the text. -/
def Element.Within (text : List Char) (element : Element) : Prop :=
  ∀ extent, element.HasExtent extent → extent.LiesIn text

/-- All parts of the statement lie in the text. -/
def Statement.Within (text : List Char) (statement : Statement) : Prop :=
  ∀ extent, statement.HasExtent extent → extent.LiesIn text

/-- All parts of the command lie in the text. -/
structure Command.Within (text : List Char) (command : Command) : Prop where
  extent : command.extent.LiesIn text
  elements : ∀ element ∈ command.elements, element.Within text

section

variable {inner text : List Char}

theorem Expr.Within.mono {expr : Expr} (h : expr.Within inner) (hs : inner <:+ text) :
    expr.Within text := fun extent he => (h extent he).mono hs

theorem Element.Within.mono {element : Element} (h : element.Within inner) (hs : inner <:+ text) :
    element.Within text := fun extent he => (h extent he).mono hs

theorem Statement.Within.mono {statement : Statement} (h : statement.Within inner)
    (hs : inner <:+ text) : statement.Within text := fun extent he => (h extent he).mono hs

/-- An expression lies in the text if it does itself and its keys and values do. -/
theorem within_of_entries {expr : Expr} (h : expr.extent.LiesIn text)
    (he : ∀ entry ∈ expr.entries, entry.1.Within text ∧ entry.2.Within text) :
    expr.Within text := by
  intro extent hx
  cases hx with
  | own => exact h
  | key hm hk => exact (he _ hm).1 extent hk
  | value hm hv => exact (he _ hm).2 extent hv

theorem within_of_extent {expr : Expr} (h : expr.extent.LiesIn text) (he : expr.entries = []) :
    expr.Within text := by
  refine within_of_entries h fun entry hm => ?_
  rw [he] at hm
  cases hm

theorem within_raw {start : List Char} (h : start <:+ text) (stop : List Char) (kind : RawKind) :
    (Expr.raw (.between start stop) kind).Within text :=
  within_of_extent (between_liesIn h stop) rfl

theorem within_trimmed {start : List Char} (h : start <:+ text) (stop : List Char) (kind : RawKind) :
    (Expr.raw (.trimmed start stop) kind).Within text :=
  within_of_extent (trimmed_liesIn h stop) rfl

theorem within_value {expr : Expr} (h : expr.Within text) : (Element.value expr).Within text := by
  intro extent hx
  cases hx with
  | own => exact h _ (.own expr)
  | value hv => exact h extent hv

theorem within_parameter {extent : Extent} {argument : Option Expr} (h : extent.LiesIn text)
    (ha : ∀ expr, argument = some expr → expr.Within text) (name : String) :
    (Element.parameter extent name argument).Within text := by
  intro found hx
  cases hx with
  | own => exact h
  | argument hv => exact ha _ rfl found hv

theorem within_command {command : Command} (h : command.Within text) :
    (Statement.command command).Within text := by
  intro extent hx
  cases hx with
  | own => exact h.extent
  | element hm hx => exact h.elements _ hm extent hx

theorem within_other {extent : Extent} (h : extent.LiesIn text) (kind : OtherKind) :
    (Statement.other extent kind).Within text := by
  intro found hx
  cases hx with
  | own => exact h

theorem within_assignment {extent : Extent} {target value : Expr} (h : extent.LiesIn text)
    (ht : target.Within text) (hv : value.Within text) (operator : AssignOp) :
    (Statement.assignment extent target operator value).Within text := by
  intro found hx
  cases hx with
  | own => exact h
  | target hx => exact ht found hx
  | value hx => exact hv found hx

end

/-! ## Outcomes -/

/-- If there is a result, it is as `P` says. -/
def Gives {α : Type} (P : α → Prop) (x : Except Fault α) : Prop := ∀ a, x = .ok a → P a

section

variable {α β : Type} {P : α → Prop} {Q : β → Prop}

theorem Gives.ok {a : α} (h : P a) : Gives P (.ok a) := by
  intro b hb
  cases hb
  exact h

theorem Gives.error (fault : Fault) : Gives P (.error fault) := by
  intro a h
  cases h

/-- The second step knows what the first one has given. -/
theorem Gives.bind {x : Except Fault α} {f : α → Except Fault β}
    (h : ∀ a, x = .ok a → Gives Q (f a)) : Gives Q (x >>= f) := by
  cases x with
  | error fault => exact .error fault
  | ok a => exact h a rfl

theorem Gives.map {x : Except Fault α} {f : α → β} (h : Gives (fun a => Q (f a)) x) :
    Gives Q (x.map f) := by
  cases x with
  | error fault => exact .error fault
  | ok a => exact .ok (h a rfl)

end

/-- A value of a find that lies in the text it was read from. -/
abbrev Placed {text : List Char} (found : Found Expr text) : Prop := found.value.Within text

/-- The same of a find that there may be. -/
def PlacedAny {text : List Char} (found : Option (Found Expr text)) : Prop :=
  ∀ expr, found = some expr → Placed expr

theorem Gives.some {text : List Char} {x : Except Fault (Found Expr text)} (h : Gives Placed x) :
    Gives PlacedAny (some <$> x) := by
  refine Gives.map fun found hf => ?_
  intro expr he
  cases he
  exact h found hf

/-! ## Words and variables -/

theorem wordExpr_shape {extent : Extent} {word : String} {expr : Expr}
    (h : wordExpr extent word = .ok expr) : expr.extent = extent ∧ expr.entries = [] := by
  unfold wordExpr at h
  split at h
  · rename_i literal _
    cases hv : literal.value with
    | error fault =>
      rw [hv] at h
      cases h
    | ok value =>
      rw [hv] at h
      cases h
      exact ⟨rfl, rfl⟩
  · split at h <;> cases h <;> exact ⟨rfl, rfl⟩

theorem liftNumeral_wordExpr {extent : Extent} {text : List Char} (h : extent.LiesIn text)
    (word : String) : Gives (Expr.Within text) (liftNumeral (wordExpr extent word)) := by
  intro expr he
  cases hw : wordExpr extent word with
  | error fault =>
    rw [hw] at he
    cases he
  | ok found =>
    rw [hw] at he
    cases he
    obtain ⟨hx, hn⟩ := wordExpr_shape hw
    exact within_of_extent (hx ▸ h) hn

theorem variableAt_placed (rest : List Char) : Gives Placed (variableAt rest) := by
  refine Gives.bind fun found _ => ?_
  split
  · exact .ok (within_of_extent (between_liesIn List.suffix_rfl _) rfl)
  · exact .ok (within_of_extent (between_liesIn List.suffix_rfl _) rfl)

theorem withMembers_placed {text : List Char} {found : Found Expr text} (h : Placed found) :
    Gives Placed (withMembers found) := by
  refine Gives.bind fun rest _ => ?_
  dsimp only
  split
  · exact .ok (within_raw List.suffix_rfl _ _)
  · exact .ok h

/-! ## Expressions and commands -/

theorem groupExpr_placed (kind : RawKind) (closer c : Char) (t : List Char) :
    Gives Placed (groupExpr kind closer c t) :=
  Gives.bind fun _ _ => .ok (within_raw List.suffix_rfl _ _)

theorem signedGroupExpr_placed (kind : RawKind) (c : Char) (t : List Char) :
    Gives Placed (signedGroupExpr kind c t) :=
  Gives.bind fun _ _ => .ok (within_raw List.suffix_rfl _ _)

theorem singleQuotedExpr_placed (t : List Char) : Gives Placed (singleQuotedExpr t) :=
  Gives.bind fun _ _ => .ok (within_of_extent (between_liesIn List.suffix_rfl _) rfl)

theorem doubleQuotedExpr_placed (t : List Char) : Gives Placed (doubleQuotedExpr t) :=
  Gives.bind fun _ _ => .ok (within_of_extent (between_liesIn List.suffix_rfl _) rfl)

theorem hereStringExpr_placed {text body : List Char} {quote : Char}
    (head : hereStringHead? text = some (quote, body)) : Gives Placed (hereStringExpr head) := by
  refine Gives.bind fun found _ => .ok ?_
  show Expr.Within text (if quote = '\'' then _ else _)
  split
  · exact within_of_extent (between_liesIn List.suffix_rfl _) rfl
  · exact within_of_extent (between_liesIn List.suffix_rfl _) rfl

theorem dollarExpr_placed (t : List Char) : Gives Placed (dollarExpr t) := by
  unfold dollarExpr
  split
  · exact Gives.bind fun found hf => withMembers_placed (signedGroupExpr_placed _ _ _ found hf)
  · exact Gives.bind fun found hf => withMembers_placed (variableAt_placed _ found hf)

/-- The keys and values of a literal lie in the text that the literal was read from. -/
def PlacedEntries {text : List Char} (found : Found Entries text) : Prop :=
  ∀ entry ∈ found.value, entry.1.Within text ∧ entry.2.Within text

section

variable {table : TableReader} (htable : ∀ text, Gives PlacedEntries (table text))
include htable

theorem atExpr_placed (t : List Char) : Gives Placed (atExpr table t) := by
  unfold atExpr
  split
  · refine Gives.bind fun found hf => .ok ?_
    exact within_of_entries (between_liesIn List.suffix_rfl _) (htable _ found hf)
  · exact signedGroupExpr_placed _ _ _
  · split
    · exact .ok (within_of_extent (between_liesIn List.suffix_rfl _) rfl)
    · exact .error _

theorem primary?_placed (text : List Char) : Gives PlacedAny (primary? table text) := by
  unfold primary?
  split
  · exact (singleQuotedExpr_placed _).some
  · exact (doubleQuotedExpr_placed _).some
  · split
    · exact (hereStringExpr_placed _).some
    · exact (atExpr_placed htable _).some
  · exact (dollarExpr_placed _).some
  · exact (groupExpr_placed _ _ _ _).some
  · exact (groupExpr_placed _ _ _ _).some
  · exact (groupExpr_placed _ _ _ _).some
  · refine .ok fun expr h => ?_
    cases h

theorem argument_placed (text : List Char) : Gives Placed (argument table text) := by
  refine Gives.bind fun first hf => ?_
  split
  · rename_i found
    exact .ok (primary?_placed htable text _ hf found rfl)
  · refine Gives.bind fun found _ => Gives.bind fun expr he => .ok ?_
    exact liftNumeral_wordExpr (between_liesIn List.suffix_rfl _) _ expr he

theorem parameter_placed (t : List Char) :
    Gives (fun found => found.value.Within ('-' :: t)) (parameter table t) := by
  unfold parameter
  dsimp only
  split
  · rename_i behind hd
    have hs : behind <:+ '-' :: t :=
      ((List.suffix_cons ':' behind).trans (hd ▸ List.dropWhile_suffix _)).trans (List.suffix_cons _ t)
    refine Gives.bind fun here _ => ?_
    obtain ⟨here, h⟩ := here
    have hh := (skipInline_suffix h).trans hs
    dsimp only
    split
    · exact .error _
    · refine Gives.bind fun found hf => .ok ?_
      refine within_parameter (between_liesIn List.suffix_rfl _) (fun expr he => ?_) _
      cases he
      exact (argument_placed htable here found hf).mono hh
  · refine .ok (within_parameter (between_liesIn List.suffix_rfl _) (fun expr he => ?_) _)
    cases he

theorem positional_placed (text : List Char) :
    Gives (fun found => found.value.Within text) (positional table text) := by
  refine Gives.bind fun found hf => Gives.bind fun rest _ => ?_
  split
  · exact .ok (within_value (within_raw List.suffix_rfl _ _))
  · exact .ok (within_value (argument_placed htable text found hf))

theorem element_placed (text : List Char) :
    Gives (fun found => found.value.Within text) (element table text) := by
  unfold element
  split
  · split
    · exact parameter_placed htable _
    · exact positional_placed htable _
  · exact positional_placed htable _

theorem elements_placed (text : List Char) :
    Gives (fun out => ∀ element ∈ out.1, element.Within text) (elements table text) := by
  induction hn : text.length using Nat.strongRecOn generalizing text with
  | ind n ih =>
    subst hn
    rw [elements]
    refine Gives.bind fun here _ => ?_
    obtain ⟨here, h⟩ := here
    have hs := skipInline_suffix h
    dsimp only
    split
    · exact .ok fun _ hm => absurd hm List.not_mem_nil
    · refine Gives.bind fun first hf => Gives.bind fun out ho => .ok ?_
      have hl := Nat.lt_of_lt_of_le first.shorter hs.length_le
      refine List.forall_mem_cons.2 ⟨(element_placed htable here first hf).mono hs, ?_⟩
      intro element hm
      exact (ih _ hl first.rest rfl out ho element hm).mono (first.suffix.trans hs)

theorem command_placed (text : List Char) :
    Gives (fun found => found.value.Within text) (command table text) := by
  refine Gives.bind fun name _ => Gives.bind fun out ho => .ok ?_
  refine ⟨trimmed_liesIn List.suffix_rfl _, fun element hm => ?_⟩
  exact (elements_placed htable name.rest out ho element hm).mono name.suffix

omit htable in
theorem numberOrCommand?_placed (text : List Char) :
    Gives PlacedAny (numberOrCommand? table text) := by
  unfold numberOrCommand?
  split
  · refine Gives.bind fun value _ => .ok fun expr he => ?_
    cases he
    exact within_of_extent (between_liesIn List.suffix_rfl _) rfl
  · split
    · refine Gives.bind fun found _ => .ok fun expr he => ?_
      cases he
      exact within_trimmed List.suffix_rfl _ _
    · refine .ok fun expr he => ?_
      cases he

omit htable in
theorem unaryExpr_placed (stops : Char → Bool) (text : List Char) :
    Gives Placed (unaryExpr stops text) := by
  unfold unaryExpr
  split
  · exact .error _
  · split
    · exact Gives.bind fun _ _ => .ok (within_trimmed List.suffix_rfl _ _)
    · exact .error _

omit htable in
theorem extended_placed {text : List Char} {first : Found Expr text} (stops : Char → Bool)
    (h : Placed first) : Gives Placed (extended stops first) := by
  refine Gives.bind fun here _ => ?_
  obtain ⟨here, _⟩ := here
  dsimp only
  split
  · exact .ok h
  · exact Gives.bind fun _ _ => .ok (within_trimmed List.suffix_rfl _ _)

theorem expression_placed (stops : Char → Bool) (text : List Char) :
    Gives Placed (expression table stops text) := by
  refine Gives.bind fun first hf => ?_
  cases first with
  | some first => exact extended_placed stops (primary?_placed htable text _ hf first rfl)
  | none =>
    refine Gives.bind fun first hf => ?_
    cases first with
    | some first => exact extended_placed stops (numberOrCommand?_placed text _ hf first rfl)
    | none => exact unaryExpr_placed stops text

/-! ## Hashtable literals -/

omit htable in
theorem bareKey_placed (text : List Char) : Gives Placed (bareKey text) := by
  unfold bareKey
  split
  · exact .error _
  · split
    · exact .error _
    · refine Gives.bind fun expr he => .ok ?_
      exact liftNumeral_wordExpr (between_liesIn List.suffix_rfl _) _ expr he

theorem key_placed (text : List Char) : Gives Placed (key table text) := by
  refine Gives.bind fun first hf => ?_
  cases first with
  | some first => exact .ok (primary?_placed htable text _ hf first rfl)
  | none => exact bareKey_placed text

theorem entryValue_placed (text : List Char) : Gives Placed (entryValue table text) := by
  cases h : skipInline text with
  | error fault =>
    rw [entryValue, checked_error h]
    exact .error fault
  | ok here =>
    by_cases hequals : ∃ t, here = '=' :: t
    · obtain ⟨t, rfl⟩ := hequals
      rw [entryValue, checked_ok h]
      refine Gives.bind fun behind hbehind => ?_
      cases hbehind
      refine Gives.bind fun found _ => ?_
      obtain ⟨here, hb⟩ := found
      have hh := (skipBlanks_suffix hb).trans ((List.suffix_cons '=' t).trans (skipInline_suffix h))
      dsimp only
      split
      · exact .error _
      · refine Gives.bind fun value hv => .ok ?_
        exact (expression_placed htable endsEntry here value hv).mono hh
    · rw [entryValue_missing h fun t ht => hequals ⟨t, ht⟩]
      exact .error _

theorem entries_placed (opened text : List Char) :
    Gives PlacedEntries (entries table opened text) := by
  induction hn : text.length using Nat.strongRecOn generalizing text with
  | ind n ih =>
    subst hn
    rw [entries]
    refine Gives.bind fun found _ => ?_
    split
    · exact .error _
    · rename_i t h _
      have hs := (List.suffix_cons ';' t).trans (skipBlanks_suffix h)
      have hl : t.length < text.length := (skipBlanks_suffix h).length_le
      refine Gives.bind fun others ho => .ok fun entry hm => ?_
      have he := ih _ hl t rfl others ho entry hm
      exact ⟨he.1.mono hs, he.2.mono hs⟩
    · exact .ok fun _ hm => absurd hm List.not_mem_nil
    · rename_i c t h _ _ _
      have hs := skipBlanks_suffix h
      refine Gives.bind fun key hk => Gives.bind fun value hv => Gives.bind fun others ho => .ok ?_
      have hkey := key.suffix.trans hs
      have hvalue := value.suffix.trans hkey
      have hl : value.rest.length < text.length :=
        Nat.lt_of_lt_of_le (Nat.lt_trans value.shorter key.shorter) hs.length_le
      refine List.forall_mem_cons.2 ⟨⟨?_, ?_⟩, fun entry hm => ?_⟩
      · exact (key_placed htable _ key hk).mono hs
      · exact (entryValue_placed htable _ value hv).mono hkey
      · have he := ih _ hl value.rest rfl others ho entry hm
        exact ⟨he.1.mono hvalue, he.2.mono hvalue⟩

end

theorem hashtable_placed (text : List Char) : Gives PlacedEntries (hashtable text) := by
  induction hn : text.length using Nat.strongRecOn generalizing text with
  | ind n ih =>
    subst hn
    rw [hashtable]
    refine Gives.bind fun found hf => .ok fun entry hm => ?_
    have he := entries_placed (fun t => ?_) text (text.drop 2) found hf entry hm
    · exact ⟨he.1.mono (List.drop_suffix 2 text), he.2.mono (List.drop_suffix 2 text)⟩
    · split
      · rename_i hl
        exact ih _ hl t rfl
      · exact .error _

/-! ## Statements -/

theorem keywordStatement_placed (c : Char) (t : List Char) :
    Gives (fun found => found.value.Within (c :: t)) (keywordStatement c t) :=
  Gives.bind fun _ _ => .ok (within_other (trimmed_liesIn List.suffix_rfl _) _)

/-- A part of a pipeline that is a command was read as one. -/
theorem stage_gives (text : List Char) :
    Gives (fun found => ∀ c, found.value = Stage.command c →
      ∃ inner, command hashtable text = .ok inner ∧ inner.value = c ∧ inner.rest = found.rest)
      (stage text) := by
  unfold stage
  split
  · exact .error _
  · split
    · refine Gives.bind fun here _ => Gives.bind fun rest _ => .ok fun c hc => ?_
      cases hc
    · split
      · refine Gives.map fun found hf c hc => ?_
        cases hc
        exact ⟨found, hf, rfl, rfl⟩
      · refine Gives.map fun found _ c hc => ?_
        cases hc

theorem pipeline_placed (text : List Char) :
    Gives (fun found => found.value.Within text) (pipeline text) := by
  refine Gives.bind fun first hf => Gives.bind fun out _ => .ok ?_
  obtain ⟨kind, rest⟩ := out
  have hx : (Extent.trimmed text rest.val).LiesIn text := trimmed_liesIn List.suffix_rfl _
  cases kind with
  | chained => exact within_other hx _
  | piped => exact within_other hx _
  | alone =>
    cases hv : first.value with
    | other =>
      exact within_other hx _
    | command c =>
      obtain ⟨inner, hi, rfl, -⟩ := stage_gives text first hf c hv
      exact within_command (command_placed hashtable_placed text inner hi)

theorem assignedValue_placed (text : List Char) : Gives Placed (assignedValue text) := by
  have kept : Gives Placed (assignedValue.asText text) :=
    Gives.bind fun _ _ => .ok (within_trimmed List.suffix_rfl _ _)
  unfold assignedValue
  split
  · exact kept
  · refine Gives.bind fun found hf => Gives.bind fun here _ => ?_
    split
    · exact kept
    · exact .ok (expression_placed hashtable_placed endsElement text found hf)

theorem assignment?_placed (t : List Char) :
    Gives (fun out => ∀ found, out = some found → found.value.Within ('$' :: t)) (assignment? t) := by
  refine Gives.bind fun target ht => Gives.bind fun here _ => ?_
  obtain ⟨here, hh⟩ := here
  have htarget : Placed target :=
    Gives.bind (fun found hf => withMembers_placed (variableAt_placed t found hf)) target ht
  dsimp only
  split
  · refine .ok fun found h => ?_
    cases h
  · rename_i op behind hop
    refine Gives.bind fun start _ => ?_
    obtain ⟨start, hs⟩ := start
    dsimp only
    split
    · exact .error _
    · refine Gives.bind fun value hv => Gives.bind fun rest _ => .ok fun found h => ?_
      have hstart := (skipBlanks_suffix hs).trans
        (((assignOp?_suffix hop).trans (skipInline_suffix hh)).trans target.suffix)
      cases h
      refine within_assignment (trimmed_liesIn List.suffix_rfl _) htarget ?_ op
      exact (assignedValue_placed start value hv).mono hstart

theorem pipelineStatement_placed (text : List Char) :
    Gives (fun found => found.value.Within text) (pipelineStatement text) :=
  Gives.bind fun found hf => Gives.bind fun _ _ => .ok (pipeline_placed text found hf)

/-- All parts of a statement lie in the text that it was read from. -/
theorem statement_placed (text : List Char) :
    Gives (fun found => found.value.Within text) (statement text) := by
  unfold statement
  split
  · exact .error _
  · rename_i t
    split
    · refine Gives.bind fun found hf => ?_
      cases found with
      | some found => exact .ok (assignment?_placed t _ hf found rfl)
      | none => exact pipelineStatement_placed _
    · exact pipelineStatement_placed _
  · split
    · exact .error _
    · split
      · exact keywordStatement_placed _ _
      · exact pipelineStatement_placed _

end PageScript.Script
