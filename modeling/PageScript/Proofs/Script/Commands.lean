import PageScript.Proofs.Compile.Quoting
import PageScript.Proofs.Text.Cut

/-!
# Commands of plain words

A command is written as its name and the words behind it, each with blanks in front: bare words,
strings in apostrophes, and parameters with or without an argument attached. The text of a command
is given with what stands behind it, since every reader has to stop there by itself.
`elements_words` says what the words are read as, and `command_plain` what the whole command is.
-/

namespace PageScript

variable {α : Type} {text behind rest : List Char}

/-- The find of what stands in front of `behind`, read up to `rest`. -/
def Found.front (value : α) (h : text ≠ []) (hr : rest <:+ behind) : Found α (text ++ behind) where
  value := value
  rest := rest
  suffix := hr.trans (List.suffix_append text behind)
  shorter := by
    have hl := hr.length_le
    have ht := List.length_pos_iff.2 h
    rw [List.length_append]
    omega

theorem Found.eq_front {found : Found α (text ++ behind)} {value : α} (h : text ≠ [])
    (hr : rest <:+ behind) (hv : found.value = value) (hrest : found.rest = rest) :
    found = .front value h hr := by
  cases found
  cases hv
  cases hrest
  rfl

/-- A reader that stops at `behind` has found what stands in front of it. -/
theorem Found.read_front {β ε : Type} {whole : List Char} (reader : ∀ t, Except ε (Found α t))
    {x : Except ε β} {find : β → Found α whole} {value : β → α} (hw : whole = text ++ behind)
    (hne : text ≠ []) (h : reader whole = x.map find) (hv : ∀ b, (find b).value = value b)
    (hr : ∀ b, (find b).rest = behind) :
    reader (text ++ behind) = x.map fun b => .front (value b) hne List.suffix_rfl := by
  subst hw
  cases x with
  | error => exact h
  | ok b =>
    exact h.trans (congrArg Except.ok (Found.eq_front hne _ (hv b) (hr b)))

namespace Script

/-! ## Bare words -/

/-- The text of a bare word: no end of a word is in it, unless behind a backtick. -/
def isWordText : List Char → Bool
  | [] => true
  | c :: rest =>
    if c = '`' then
      match rest with
      | [] => false
      | d :: rest => d != '\n' && isWordText rest
    else !endsWord c && isWordText rest

theorem isWordText_plain {c : Char} (hc : c ≠ '`') (rest : List Char) :
    isWordText (c :: rest) = (!endsWord c && isWordText rest) := by
  rw [isWordText.eq_def]
  exact if_neg hc

/-- The characters that start a string, a variable, a group or a comment. -/
def argumentMarks : List Char := ['\'', '"', '@', '$', '(', '\x7b', '[', '#']

/-- A bare word can start here: no blank does, no comment and none of what has a mark of its own. -/
def startsWord : List Char → Bool
  | [] => false
  | c :: rest =>
    !isInlineBlank c && !argumentMarks.contains c && !(c == '<' && rest.head? == some '#')

/-- The text is over, or goes on with a blank that ends a word. -/
def EndsWord (behind : List Char) : Prop := ∀ c ∈ behind.head?, c = ' ' ∨ c = '\t'

theorem EndsWord.head_eq_false {p : Char → Bool} (h : EndsWord behind) (hs : p ' ' = false)
    (ht : p '\t' = false) : ∀ c ∈ behind.head?, p c = false := by
  intro c hc
  rcases h c hc with rfl | rfl
  · exact hs
  · exact ht

theorem EndsWord.head_ne {d : Char} (h : EndsWord behind) (hs : d ≠ ' ') (ht : d ≠ '\t') :
    behind.head? ≠ some d := by
  intro hd
  rcases h d hd with rfl | rfl
  · exact hs rfl
  · exact ht rfl

theorem endsWord_of_isWordText {c : Char} {rest : List Char} (h : isWordText (c :: rest) = true) :
    endsWord c = false := by
  by_cases hc : c = '`'
  · subst hc
    decide
  · rw [isWordText_plain hc, Bool.and_eq_true, Bool.not_eq_true'] at h
    exact h.1

theorem endsElement_of_endsWord {c : Char} (h : endsWord c = false) : endsElement c = false := by
  simp only [endsWord, Bool.or_eq_false_iff] at h
  simp [endsElement, h]

/-- A bare word ends where its text does. -/
theorem wordRest_append (h : isWordText text = true) (hb : EndsWord behind) :
    wordRest (text ++ behind) = behind := by
  fun_induction isWordText text with
  | case1 =>
    cases behind with
    | nil => rfl
    | cons c rest =>
      have hc : c ≠ '`' := fun he => hb.head_ne (by decide) (by decide) (congrArg some he)
      have ends : endsWord c = true := by rcases hb c rfl with rfl | rfl <;> rfl
      rw [List.nil_append, wordRest_plain hc, if_pos ends]
  | case2 => cases h
  | case3 d rest ih =>
    rw [Bool.and_eq_true, bne_iff_ne] at h
    show wordRest ('`' :: d :: (rest ++ behind)) = behind
    rw [wordRest]
    · exact ih h.2
    · exact h.1
  | case4 c rest hc ih =>
    rw [Bool.and_eq_true, Bool.not_eq_true'] at h
    rw [List.cons_append, wordRest_plain hc, h.1, if_neg Bool.false_ne_true]
    exact ih h.2

theorem ne_nil_of_startsWord (h : startsWord text = true) : text ≠ [] := by
  rintro rfl
  cases h

theorem of_startsWord {c : Char} (h : startsWord (c :: text) = true) :
    isInlineBlank c = false ∧ c ∉ argumentMarks ∧ (c = '<' → text.head? ≠ some '#') := by
  simp only [startsWord, Bool.and_eq_true, Bool.not_eq_true', List.contains_eq_mem,
    decide_eq_false_iff_not, Bool.and_eq_false_iff, beq_eq_false_iff_ne] at h
  exact ⟨h.1.1, h.1.2, fun hc => h.2.resolve_left (absurd hc)⟩

theorem skipInline_word (hs : startsWord text = true) (hw : isWordText text = true)
    (hb : EndsWord behind) : skipInline (text ++ behind) = .ok (text ++ behind) := by
  cases text with
  | nil => cases hs
  | cons c rest =>
    obtain ⟨hi, hc, hl⟩ := of_startsWord hs
    apply skipInline_stays hi
    · rintro rfl
      exact hc (by decide)
    · rintro more rfl he
      cases rest with
      | nil => cases hw
      | cons d rest =>
        obtain rfl : d = '\n' := (List.cons.inj he).1
        cases hw
    · rintro more rfl he
      cases rest with
      | nil => exact hb.head_ne (by decide) (by decide) (congrArg List.head? he)
      | cons d rest => exact hl rfl (congrArg some (List.cons.inj he).1)

theorem stopped_word (hne : text ≠ []) (hw : isWordText text = true) (behind : List Char) :
    stopped endsElement (text ++ behind) = false := by
  cases text with
  | nil => exact absurd rfl hne
  | cons c rest => exact endsElement_of_endsWord (endsWord_of_isWordText hw)

theorem word_front (hne : text ≠ []) (hw : isWordText text = true) (hb : EndsWord behind) :
    word (text ++ behind) = .ok (.front (String.ofList text) hne List.suffix_rfl) := by
  have hr := wordRest_append hw hb
  have hlt : (wordRest (text ++ behind)).length < (text ++ behind).length := by
    have := List.length_pos_iff.2 hne
    rw [hr, List.length_append]
    omega
  rw [word, dif_pos hlt]
  refine congrArg Except.ok (Found.eq_front hne _ ?_ hr)
  show String.ofList _ = _
  rw [hr, List.length_append, Nat.add_sub_cancel, List.take_left]

/-- A bare word is read as what it means, a number or a text. -/
theorem argument_bare (table : TableReader) (hs : startsWord text = true)
    (hw : isWordText text = true) (hb : EndsWord behind) :
    argument table (text ++ behind) =
      (liftNumeral (wordExpr (.between (text ++ behind) behind) (String.ofList text))).map
        (.front · (ne_nil_of_startsWord hs) List.suffix_rfl) := by
  have hp : primary? table (text ++ behind) = .ok none := by
    cases text with
    | nil => cases hs
    | cons c rest =>
      obtain ⟨-, hc, -⟩ := of_startsWord hs
      exact primary?_none (fun hm => hc (List.mem_append_left ['#'] hm)) table _
  rw [argument, hp]
  show word (text ++ behind) >>= _ = _
  rw [word_front (ne_nil_of_startsWord hs) hw hb]
  show liftNumeral (wordExpr (.between (text ++ behind) behind) (String.ofList text)) >>= _ = _
  cases wordExpr (.between (text ++ behind) behind) (String.ofList text) <;> rfl

theorem inApostrophes_append (text behind : List Char) :
    inApostrophes text ++ behind =
      '\'' :: (marked '\'' (· == '\'') text ++ '\'' :: behind) := by
  rw [inApostrophes, List.cons_append, List.append_assoc, List.singleton_append]

/-- A string in apostrophes is read as its text. -/
theorem argument_quoted (table : TableReader) (text : List Char) (hb : EndsWord behind) :
    argument table (inApostrophes text ++ behind) =
      .ok (.front (.string (.between (inApostrophes text ++ behind) behind) (String.ofList text)
        .single) (List.cons_ne_nil _ _) List.suffix_rfl) := by
  have split := inApostrophes_append text behind
  have body (opened : List Char) := singleQuotedBody_marked opened text
    (hb.head_ne (by decide : '\'' ≠ ' ') (by decide))
  have read : argument table ('\'' :: (marked '\'' (· == '\'') text ++ '\'' :: behind)) =
      (Except.ok ()).map fun _ => .behind
        (.string (.between (inApostrophes text ++ behind) behind) (String.ofList text) .single)
        behind (singleQuotedBody_suffix (body [])).1 := by
    rw [split, argument]
    show (some <$> singleQuotedExpr _ >>= _) = _
    rw [singleQuotedExpr, checked_ok (body _)]
    rfl
  exact Found.read_front (argument table) split.symm _ read (fun _ => rfl) fun _ => rfl

/-! ## Words behind the name -/

/-- A hyphen and the name of a parameter stand at the start of the text. -/
def startsSwitch : List Char → Bool
  | '-' :: rest => startsParameter rest
  | _ => false

/-- The name of a parameter from end to end. -/
def isSwitchName (name : List Char) : Bool := startsParameter name && name.all isParameterChar

/-- A word behind the name of a command. -/
inductive CommandWord where
  | bare (text : List Char)
  | quoted (text : List Char)
  | switch (name : List Char)
  /-- A parameter with a colon and a bare word as its argument. -/
  | attached (name text : List Char)

namespace CommandWord

def chars : CommandWord → List Char
  | .bare text => text
  | .quoted text => inApostrophes text
  | .switch name => '-' :: name
  | .attached name text => '-' :: (name ++ ':' :: text)

/-- The word is on one line and is read as what it is. -/
def isPlain : CommandWord → Bool
  | .bare text => startsWord text && isWordText text && !startsSwitch text
  | .quoted text => !text.contains '\n'
  | .switch name => isSwitchName name
  | .attached name text => isSwitchName name && (startsWord text && isWordText text)

/-- What the word is read as in front of `behind`. -/
def element (part : CommandWord) (behind : List Char) : Except Numeral.IntegerFault Element :=
  let extent := Extent.between (part.chars ++ behind) behind
  match part with
  | .bare text => (wordExpr extent (String.ofList text)).map .value
  | .quoted text => .ok (.value (.string extent (String.ofList text) .single))
  | .switch name => .ok (.parameter extent (String.ofList name) none)
  | .attached name text =>
    (wordExpr (.between (text ++ behind) behind) (String.ofList text)).map fun argument =>
      .parameter extent (String.ofList name) (some argument)

end CommandWord

theorem listRest_of_skipInline {here : List Char} (table : TableReader)
    (h : skipInline text = .ok here) (hc : here.head? ≠ some ',') :
    listRest table text = .ok ⟨text, List.suffix_rfl⟩ := by
  have none : listComma? text = .ok none := by
    rw [listComma?, checked_ok h]
    dsimp only [bind, Except.bind]
    split
    · rename_i he
      cases he
      exact absurd rfl hc
    · rfl
  rw [listRest, none]
  rfl

/-- An argument that no comma follows is a word of its own. -/
theorem positional_front {expr : Except Fault Expr} {here : List Char} {table : TableReader}
    (hne : text ≠ [])
    (h : argument table (text ++ behind) = expr.map (.front · hne List.suffix_rfl))
    (hb : skipInline behind = .ok here) (hc : here.head? ≠ some ',') :
    positional table (text ++ behind) =
      expr.map fun expr => .front (.value expr) hne List.suffix_rfl := by
  have alone := listRest_of_skipInline table hb hc
  rw [positional, h]
  cases expr with
  | error fault => rfl
  | ok expr =>
    show listRest table behind >>= _ = _
    rw [alone]
    exact if_neg (Nat.lt_irrefl _)

theorem parameter_switch {name : List Char} (table : TableReader)
    (hn : ∀ c ∈ name, isParameterChar c = true) (hb : EndsWord behind) :
    parameter table (name ++ behind) =
      .ok (.behind (.parameter (.between ('-' :: (name ++ behind)) behind) (String.ofList name)
        none) behind (List.suffix_append name behind)) := by
  have stop := hb.head_eq_false (p := isParameterChar) (by decide) (by decide)
  have run := Text.takeWhile_append_stop hn stop
  have rest := Text.dropWhile_append_stop hn stop
  unfold parameter
  split
  · rename_i more hr
    exact absurd (congrArg List.head? (rest.symm.trans hr)) (hb.head_ne (by decide) (by decide))
  · simp only [run, rest]
    rfl

theorem parameter_attached {name : List Char} (table : TableReader)
    (hn : ∀ c ∈ name, isParameterChar c = true) (hs : startsWord text = true)
    (hw : isWordText text = true) (hb : EndsWord behind) :
    parameter table (name ++ ':' :: (text ++ behind)) =
      (liftNumeral (wordExpr (.between (text ++ behind) behind) (String.ofList text))).map
        fun argument =>
          .behind (.parameter (.between ('-' :: (name ++ ':' :: (text ++ behind))) behind)
            (String.ofList name) (some argument)) behind
            ((List.suffix_append text behind).trans
              ((List.suffix_cons ':' _).trans (List.suffix_append name _))) := by
  have stop : ∀ c ∈ (':' :: (text ++ behind)).head?, isParameterChar c = false := by
    rintro c ⟨⟩
    decide
  have run := Text.takeWhile_append_stop hn stop
  have rest := Text.dropWhile_append_stop hn stop
  have here := skipInline_word hs hw hb
  have goes := stopped_word (ne_nil_of_startsWord hs) hw behind
  have value := argument_bare table hs hw hb
  unfold parameter
  split
  · rename_i more hr
    obtain rfl : more = text ++ behind := (List.cons.inj (hr.symm.trans rest)).2
    rw [run, checked_ok here]
    simp only [bind, Except.bind, goes, Bool.false_eq_true, if_false, value]
    cases wordExpr (.between (text ++ behind) behind) (String.ofList text) <;> rfl
  · rename_i hr
    exact absurd rest (hr _)

theorem element_positional (table : TableReader) (h : startsSwitch text = false) :
    element table text = positional table text := by
  unfold element
  split
  · rename_i t
    exact if_neg (ne_true_of_eq_false h)
  · rfl

theorem startsParameter_append (h : startsParameter text = true) (behind : List Char) :
    startsParameter (text ++ behind) = true := by
  cases text with
  | nil => cases h
  | cons c rest => exact h

theorem EndsWord.startsParameter (hb : EndsWord behind) : startsParameter behind = false := by
  cases behind with
  | nil => rfl
  | cons c rest => exact hb.head_eq_false (p := fun c => isNameStart c || c == '?') rfl rfl c rfl

theorem element_parameter (table : TableReader) (h : startsParameter text = true) :
    element table ('-' :: text) = parameter table text :=
  if_pos h

theorem startsSwitch_append (h : startsSwitch text = false) (hne : text ≠ [])
    (hb : EndsWord behind) : startsSwitch (text ++ behind) = false := by
  cases text with
  | nil => exact absurd rfl hne
  | cons c rest =>
    by_cases hc : c = '-'
    · subst hc
      cases rest with
      | nil => exact hb.startsParameter
      | cons d rest => exact h
    · unfold startsSwitch
      split
      · rename_i he
        exact absurd (List.cons.inj he).1 hc
      · rfl

namespace CommandWord

variable {word : CommandWord}

theorem chars_ne_nil (h : word.isPlain = true) : word.chars ≠ [] := by
  cases word with
  | bare text =>
    simp only [isPlain, Bool.and_eq_true] at h
    exact ne_nil_of_startsWord h.1.1
  | quoted | switch | attached => exact List.cons_ne_nil _ _

/-- A plain word is read as what it is, in front of a blank that ends it. -/
theorem element_front (table : TableReader) {here : List Char} (h : word.isPlain = true)
    (hb : EndsWord behind) (hskip : skipInline behind = .ok here) (hc : here.head? ≠ some ',') :
    Script.element table (word.chars ++ behind) =
      (liftNumeral (word.element behind)).map (.front · (chars_ne_nil h) List.suffix_rfl) := by
  cases word with
  | bare text =>
    simp only [isPlain, Bool.and_eq_true, Bool.not_eq_true'] at h
    obtain ⟨⟨hs, hw⟩, hn⟩ := h
    have hne := ne_nil_of_startsWord hs
    refine (element_positional table (startsSwitch_append hn hne hb)).trans ?_
    refine (positional_front hne (argument_bare table hs hw hb) hskip hc).trans ?_
    show _ = (liftNumeral ((wordExpr (.between (text ++ behind) behind)
      (String.ofList text)).map Element.value)).map _
    cases wordExpr (.between (text ++ behind) behind) (String.ofList text) <;> rfl
  | quoted text =>
    refine (element_positional table rfl).trans ?_
    exact @positional_front _ _ (.ok _) here table _ (argument_quoted table text hb) hskip hc
  | switch name =>
    simp only [isPlain, isSwitchName, Bool.and_eq_true, List.all_eq_true] at h
    refine (element_parameter table (startsParameter_append h.1 behind)).trans ?_
    exact parameter_switch table h.2 hb
  | attached name text =>
    simp only [isPlain, isSwitchName, Bool.and_eq_true, List.all_eq_true] at h
    obtain ⟨⟨hn, hname⟩, hs, hw⟩ := h
    -- The readers divide the text at the colon and not behind the word, and their finds carry the
    -- division in the type.
    have split :
        '-' :: (name ++ ':' :: (text ++ behind)) = (attached name text).chars ++ behind := by
      simp [chars]
    have starts := startsParameter_append hn (':' :: (text ++ behind))
    have read :=
      (element_parameter table starts).trans (parameter_attached table hname hs hw hb)
    have found : Script.element table ((attached name text).chars ++ behind) =
        (liftNumeral (wordExpr (.between (text ++ behind) behind) (String.ofList text))).map
          fun argument => .front
            (.parameter (.between ((attached name text).chars ++ behind) behind)
              (String.ofList name) (some argument)) (List.cons_ne_nil _ _) List.suffix_rfl :=
      Found.read_front (Script.element table) split _ read (fun _ => by rw [← split]; rfl)
        fun _ => rfl
    refine found.trans ?_
    show _ = (liftNumeral ((wordExpr (.between (text ++ behind) behind)
      (String.ofList text)).map _)).map _
    cases wordExpr (.between (text ++ behind) behind) (String.ofList text) <;> rfl

/-- A plain word starts neither with a blank or a comment nor with the end of a command, and it does
not go on a list. -/
theorem starts (h : word.isPlain = true) (hb : EndsWord behind) :
    skipInline (word.chars ++ behind) = .ok (word.chars ++ behind) ∧
      stopped endsElement (word.chars ++ behind) = false ∧
      (word.chars ++ behind).head? ≠ some ',' := by
  have marked {c : Char} {rest : List Char} (hc : c = '\'' ∨ c = '-') :
      skipInline (c :: rest) = .ok (c :: rest) ∧ stopped endsElement (c :: rest) = false ∧
        (c :: rest).head? ≠ some ',' := by
    rcases hc with rfl | rfl <;>
      exact ⟨skipInline_plain rfl (by decide) (by decide) (by decide) rest, rfl, by simp⟩
  cases word with
  | bare text =>
    simp only [isPlain, Bool.and_eq_true] at h
    obtain ⟨⟨hs, hw⟩, -⟩ := h
    refine ⟨skipInline_word hs hw hb, stopped_word (ne_nil_of_startsWord hs) hw behind, ?_⟩
    cases text with
    | nil => cases hs
    | cons c rest =>
      rintro ⟨⟩
      cases endsWord_of_isWordText hw
  | quoted => exact marked (.inl rfl)
  | switch => exact marked (.inr rfl)
  | attached => exact marked (.inr rfl)

end CommandWord

/-- The blanks in front of a word; the first of them ends the word before. -/
def isGap : List Char → Bool
  | [] => false
  | c :: rest => (c == ' ' || c == '\t') && rest.all isInlineBlank

/-- A word with the blanks in front of it. -/
structure SpacedWord where
  gap : List Char
  word : CommandWord
  gap_isGap : isGap gap = true
  word_isPlain : word.isPlain = true

/-- A word behind one blank. -/
def CommandWord.spaced (word : CommandWord) (h : word.isPlain = true) : SpacedWord :=
  ⟨[' '], word, rfl, h⟩

/-- The words in front of `behind`. -/
def spelled (words : List SpacedWord) (behind : List Char) : List Char :=
  words.foldr (fun next text => next.gap ++ (next.word.chars ++ text)) behind

/-- What the words are read as in front of `behind`. -/
def elementsOf : List SpacedWord → List Char → Except Numeral.IntegerFault (List Element)
  | [], _ => .ok []
  | next :: words, behind => do
    let first ← next.word.element (spelled words behind)
    let others ← elementsOf words behind
    return first :: others

/-- The words of a command are over: behind some blanks the text is, or stands at the end of one. -/
structure EndsWords (behind here : List Char) : Prop where
  endsWord : EndsWord behind
  skipped : skipInline behind = .ok here
  stops : stopped endsElement here = true

theorem isInlineBlank_of_isGap {gap : List Char} (h : isGap gap = true) :
    ∀ c ∈ gap, isInlineBlank c = true := by
  cases gap with
  | nil => cases h
  | cons c rest =>
    simp only [isGap, Bool.and_eq_true, List.all_eq_true] at h
    refine List.forall_mem_cons.2 ⟨?_, h.2⟩
    simp only [isInlineBlank, h.1, Bool.true_or]

theorem skipInline_isGap {gap : List Char} (h : isGap gap = true) (text : List Char) :
    skipInline (gap ++ text) = skipInline text := by
  have blanks := isInlineBlank_of_isGap h
  clear h
  induction gap with
  | nil => rfl
  | cons c gap ih =>
    rw [List.forall_mem_cons] at blanks
    exact (skipInline_blank blanks.1 _).trans (ih blanks.2)

theorem endsWord_isGap {gap : List Char} (h : isGap gap = true) (text : List Char) :
    EndsWord (gap ++ text) := by
  cases gap with
  | nil => cases h
  | cons c rest =>
    rintro _ ⟨⟩
    simp only [isGap, Bool.and_eq_true, Bool.or_eq_true, beq_iff_eq] at h
    exact h.1

theorem endsWord_spelled (words : List SpacedWord) (h : EndsWord behind) :
    EndsWord (spelled words behind) := by
  cases words with
  | nil => exact h
  | cons next words => exact endsWord_isGap next.gap_isGap _

theorem skipInline_spelled (next : SpacedWord) (words : List SpacedWord) (h : EndsWord behind) :
    skipInline (spelled (next :: words) behind) =
      .ok (next.word.chars ++ spelled words behind) :=
  (skipInline_isGap next.gap_isGap _).trans
    (CommandWord.starts next.word_isPlain (endsWord_spelled words h)).1

theorem suffix_spelled (words : List SpacedWord) (behind : List Char) :
    behind <:+ spelled words behind := by
  induction words with
  | nil => exact List.suffix_rfl
  | cons next words ih =>
    exact (ih.trans (List.suffix_append _ _)).trans (List.suffix_append _ _)

theorem EndsWords.suffix {here : List Char} (h : EndsWords behind here) : here <:+ behind :=
  skipInline_suffix h.skipped

/-- No comma goes on what stands in front of the words or of their end. -/
theorem EndsWords.noComma {here : List Char} (h : EndsWords behind here) (words : List SpacedWord) :
    ∃ next, skipInline (spelled words behind) = .ok next ∧ next.head? ≠ some ',' := by
  cases words with
  | nil =>
    refine ⟨here, h.skipped, fun hc => ?_⟩
    have stops := h.stops
    cases here with
    | nil => cases hc
    | cons c rest =>
      cases hc
      cases stops
  | cons next words =>
    exact ⟨_, skipInline_spelled next words h.endsWord,
      (CommandWord.starts next.word_isPlain (endsWord_spelled words h.endsWord)).2.2⟩

/-- The words behind the name of a command are read one by one, up to their end. -/
theorem elements_words (table : TableReader) {here : List Char} (words : List SpacedWord)
    (h : EndsWords behind here) :
    elements table (spelled words behind) =
      (liftNumeral (elementsOf words behind)).map
        (·, ⟨here, h.suffix.trans (suffix_spelled words behind)⟩) := by
  -- Behind every word stands the gap of the next one or `behind`, and either ends the word.
  induction words with
  | nil =>
    show elements table behind = _
    rw [elements, checked_ok h.skipped]
    exact if_pos h.stops
  | cons next words ih =>
    obtain ⟨after, hskip, hcomma⟩ := h.noComma words
    have ends := endsWord_spelled words h.endsWord
    have goes := (CommandWord.starts next.word_isPlain ends).2.1
    have first := CommandWord.element_front table next.word_isPlain ends hskip hcomma
    rw [elements, checked_ok (skipInline_spelled next words h.endsWord), elementsOf]
    simp only [bind, Except.bind, goes, Bool.false_eq_true, if_false, first]
    cases next.word.element (spelled words behind) with
    | error fault => rfl
    | ok first =>
      dsimp only [liftNumeral, Except.map, Found.front]
      rw [ih]
      cases elementsOf words behind <;> rfl

/-! ## Commands -/

/-- A character that opens a command and nothing else. -/
def opensCommand (c : Char) : Bool := startsCommand c && !isCloser c && c != '&'

/-- The name of a command: a bare word that neither a keyword nor an operator starts. -/
def isCommandName (name : List Char) : Bool :=
  startsWord name && isWordText name && (name.head?.map opensCommand).getD false &&
    !startsKeyword name && name != ['.']

theorem isCommandName_writeOutput : isCommandName "Write-Output".toList = true := by
  decide +kernel

/-- A command of plain words. -/
structure PlainCommand where
  name : List Char
  words : List SpacedWord
  name_isName : isCommandName name = true

namespace PlainCommand

variable {here : List Char} (c : PlainCommand)

/-- The command in front of `behind`. -/
def before (behind : List Char) : List Char := c.name ++ spelled c.words behind

theorem startsWord_name : startsWord c.name = true := by
  have h := c.name_isName
  simp only [isCommandName, Bool.and_eq_true] at h
  exact h.1.1.1.1

theorem isWordText_name : isWordText c.name = true := by
  have h := c.name_isName
  simp only [isCommandName, Bool.and_eq_true] at h
  exact h.1.1.1.2

theorem name_ne_nil : c.name ≠ [] := ne_nil_of_startsWord c.startsWord_name

/-- The first character of a command opens it. -/
theorem exists_name : ∃ first rest, c.name = first :: rest ∧ opensCommand first = true := by
  have h := c.name_isName
  simp only [isCommandName, Bool.and_eq_true] at h
  cases hn : c.name with
  | nil => exact absurd hn c.name_ne_nil
  | cons first rest =>
    rw [hn] at h
    exact ⟨first, rest, rfl, h.1.1.2⟩

/-- A blank behind a command does not lengthen the word that might be a keyword. -/
theorem takeWhile_before {p : Char → Bool} (hb : EndsWord behind) (hs : p ' ' = false)
    (ht : p '\t' = false) : (c.before behind).takeWhile p = c.name.takeWhile p := by
  have none : (spelled c.words behind).takeWhile p = [] := by
    have stop := (endsWord_spelled c.words hb).head_eq_false hs ht
    cases hw : spelled c.words behind with
    | nil => rfl
    | cons d rest => exact List.takeWhile_cons_of_neg (by simp [stop d (by rw [hw]; rfl)])
  rw [before, List.takeWhile_append, none, List.append_nil]
  split
  · rename_i hl
    exact ((List.takeWhile_prefix p).eq_of_length hl).symm
  · rfl

theorem startsKeyword_before (hb : EndsWord behind) : startsKeyword (c.before behind) = false := by
  have h := c.name_isName
  simp only [isCommandName, Bool.and_eq_true, Bool.not_eq_true'] at h
  have word : foldedWord (c.before behind) = foldedWord c.name := by
    rw [foldedWord, foldedWord, c.takeWhile_before hb (by decide +kernel) (by decide +kernel)]
  obtain ⟨first, rest, hn, -⟩ := c.exists_name
  rw [← h.1.2]
  show startsKeyword (c.name ++ spelled c.words behind) = _
  rw [hn, List.cons_append, startsKeyword, startsKeyword, ← List.cons_append, ← hn]
  exact congrArg (isNameStart first && keywords.contains ·) word

theorem startsInvocation_before (behind : List Char) :
    startsInvocation (c.before behind) = false := by
  have h := c.name_isName
  simp only [isCommandName, Bool.and_eq_true, bne_iff_ne] at h
  have hw := c.isWordText_name
  obtain ⟨first, rest, hn, ho⟩ := c.exists_name
  rw [hn] at hw
  rw [before, hn]
  unfold startsInvocation
  split
  · rename_i he
    cases he
    cases ho
  · rename_i d more he
    obtain ⟨rfl, he⟩ := List.cons.inj he
    -- A dot invokes only what a blank divides from it, and no blank is in a name.
    cases rest with
    | nil => exact absurd hn h.2
    | cons e rest =>
      cases he
      rw [isWordText_plain (by decide), Bool.and_eq_true] at hw
      have := endsWord_of_isWordText hw.2
      simp only [endsWord, Bool.or_eq_false_iff] at this
      simp [this]
  · rfl

/-- A plain command is read as its name and its words, up to the end of them. -/
theorem command_plain (table : TableReader) (h : EndsWords behind here) :
    command table (c.before behind) =
      (liftNumeral (elementsOf c.words behind)).map fun elements =>
        .front ⟨.trimmed (c.before behind) here, String.ofList c.name, elements⟩ c.name_ne_nil
          (h.suffix.trans (suffix_spelled c.words behind)) := by
  have ends := endsWord_spelled c.words h.endsWord
  have name : word (c.before behind) = _ := word_front c.name_ne_nil c.isWordText_name ends
  rw [command, name]
  show elements table (spelled c.words behind) >>= _ = _
  rw [elements_words table c.words h]
  cases elementsOf c.words behind <;> rfl

theorem stage_plain (h : EndsWords behind here) :
    stage (c.before behind) =
      (liftNumeral (elementsOf c.words behind)).map fun elements =>
        .front (.command ⟨.trimmed (c.before behind) here, String.ofList c.name, elements⟩)
          c.name_ne_nil (h.suffix.trans (suffix_spelled c.words behind)) := by
  have invoked := c.startsInvocation_before behind
  have read := c.command_plain hashtable h
  obtain ⟨first, rest, hn, ho⟩ := c.exists_name
  simp only [opensCommand, Bool.and_eq_true] at ho
  have command : stage (c.before behind) =
      (command hashtable (c.before behind)).map (Found.map .command) := by
    rw [before, hn] at invoked ⊢
    exact stage_command invoked ho.1.1
  rw [command, read]
  cases elementsOf c.words behind <;> rfl

theorem statement_before (hb : EndsWord behind) :
    statement (c.before behind) = pipelineStatement (c.before behind) := by
  have keyword := c.startsKeyword_before hb
  obtain ⟨first, rest, hn, ho⟩ := c.exists_name
  simp only [opensCommand, Bool.and_eq_true, Bool.not_eq_true'] at ho
  rw [before, hn] at keyword ⊢
  apply statement_pipeline _ ho.1.2 keyword
  rintro rfl
  cases ho.1.1

theorem skipSeparators_before (hb : EndsWord behind) :
    skipSeparators (c.before behind) = .ok (c.before behind) := by
  have skipped := skipInline_word c.startsWord_name c.isWordText_name (endsWord_spelled c.words hb)
  have hw := c.isWordText_name
  obtain ⟨first, rest, hn, -⟩ := c.exists_name
  rw [hn] at hw skipped
  have ends := endsWord_of_isWordText hw
  rw [before, hn]
  apply skipSeparators_of_skipInline _ _ skipped
  · rintro rfl
    cases ends
  · rintro rfl
    cases ends

/-- The statement that a command starts, by what follows it in `whole`. -/
def statementOf (whole : List Char) (command : Command) : Junction → Statement
  | .alone => .command command
  | .piped => .other (.trimmed whole []) .pipeline
  | .chained => .other (.trimmed whole []) .chain

/-- A command and what is joined to it are one statement. -/
theorem statement_joined {kind : Junction} {rest : { rest : List Char // rest <:+ here }}
    (h : EndsWords behind here) (hj : junction here = .ok (kind, rest)) (hr : rest.val = []) :
    statement (c.before behind) =
      (liftNumeral (elementsOf c.words behind)).map fun elements =>
        .front (statementOf (c.before behind)
          ⟨.trimmed (c.before behind) here, String.ofList c.name, elements⟩ kind)
          c.name_ne_nil List.nil_suffix := by
  have first := c.stage_plain h
  rw [c.statement_before h.endsWord, pipelineStatement, pipeline, first]
  obtain ⟨rest, hs⟩ := rest
  subst hr
  cases elementsOf c.words behind with
  | error fault => rfl
  | ok elements =>
    dsimp only [liftNumeral, Except.map, Found.front, bind, Except.bind]
    rw [hj]
    dsimp only [pure, Except.pure, Found.upTo]
    rw [checked_ok (statementEnd_nil rfl)]
    cases kind <;> rfl

end PlainCommand

/-- A script that is one statement. -/
theorem read_statement {β : Type} {x : Except Numeral.IntegerFault β}
    {find : β → Found Statement text}
    (hp : NoPair text) (hne : text ≠ []) (hs : skipSeparators text = .ok text)
    (h : statement text = (liftNumeral x).map find) (hr : ∀ b, (find b).rest = []) :
    read (String.ofList text) = x.map fun b => ⟨text, [(find b).value], []⟩ := by
  rw [read_eq, String.toList_ofList, unifyLineEnds_of_noPair hp]
  cases text with
  | nil => exact absurd rfl hne
  | cons c t =>
    rw [readStatements_eq hs, h]
    cases x with
    | error fault => rfl
    | ok b =>
      dsimp only [liftNumeral, Except.map]
      rw [readStatements_end (skipSeparators_nil (hr b))]
      rfl

theorem noPair_of_not_mem (h : '\n' ∉ text) : NoPair text :=
  fun hi => h (hi.subset (by simp))

/-! ## One line -/

theorem lineFeed_not_mem_word (h : isWordText text = true) : '\n' ∉ text := by
  fun_induction isWordText text with
  | case1 => exact List.not_mem_nil
  | case2 => cases h
  | case3 d rest ih =>
    rw [Bool.and_eq_true, bne_iff_ne] at h
    simp [ih h.2, h.1.symm]
  | case4 c rest hc ih =>
    rw [Bool.and_eq_true, Bool.not_eq_true'] at h
    refine List.not_mem_cons_of_ne_of_not_mem ?_ (ih h.2)
    rintro rfl
    cases h.1

theorem lineFeed_not_mem_switchName {name : List Char} (h : isSwitchName name = true) :
    '\n' ∉ name := by
  intro hm
  simp only [isSwitchName, Bool.and_eq_true, List.all_eq_true] at h
  cases h.2 _ hm

theorem mem_of_mem_marked {mark c : Char} {special : Char → Bool}
    (h : c ∈ marked mark special text) : c = mark ∨ c ∈ text := by
  obtain ⟨d, hd, hc⟩ := List.mem_flatMap.1 h
  split at hc
  · rcases List.mem_cons.1 hc with rfl | hc
    · exact .inl rfl
    · exact .inr (List.mem_singleton.1 hc ▸ hd)
  · exact .inr (List.mem_singleton.1 hc ▸ hd)

theorem CommandWord.lineFeed_not_mem {word : CommandWord} (h : word.isPlain = true) :
    '\n' ∉ word.chars := by
  cases word with
  | bare text =>
    simp only [isPlain, Bool.and_eq_true] at h
    exact lineFeed_not_mem_word h.1.2
  | quoted text =>
    simp only [isPlain, Bool.not_eq_true', List.contains_eq_mem, decide_eq_false_iff_not] at h
    intro hm
    have hm : '\n' ∈ marked '\'' (· == '\'') text := by simpa [chars, inApostrophes] using hm
    rcases mem_of_mem_marked hm with hq | hm
    · cases hq
    · exact h hm
  | switch name =>
    simpa [chars] using lineFeed_not_mem_switchName h
  | attached name text =>
    simp only [isPlain, Bool.and_eq_true] at h
    simp [chars, lineFeed_not_mem_switchName h.1, lineFeed_not_mem_word h.2.2]

theorem lineFeed_not_mem_gap {gap : List Char} (h : isGap gap = true) : '\n' ∉ gap := by
  intro hm
  cases isInlineBlank_of_isGap h _ hm

theorem lineFeed_not_mem_spelled (words : List SpacedWord) (h : '\n' ∉ behind) :
    '\n' ∉ spelled words behind := by
  induction words with
  | nil => exact h
  | cons next words ih =>
    show '\n' ∉ next.gap ++ (next.word.chars ++ spelled words behind)
    simp [lineFeed_not_mem_gap next.gap_isGap, CommandWord.lineFeed_not_mem next.word_isPlain, ih]

theorem PlainCommand.lineFeed_not_mem (c : PlainCommand) (h : '\n' ∉ behind) :
    '\n' ∉ c.before behind := by
  simp [before, lineFeed_not_mem_word c.isWordText_name, lineFeed_not_mem_spelled c.words h]

/-- A script of one command, and of what is joined to it. -/
theorem PlainCommand.read_joined (c : PlainCommand) {here : List Char} {kind : Junction}
    {rest : { rest : List Char // rest <:+ here }} (h : EndsWords behind here)
    (hj : junction here = .ok (kind, rest)) (hr : rest.val = []) (hp : '\n' ∉ behind) :
    read (String.ofList (c.before behind)) = (elementsOf c.words behind).map fun elements =>
      ⟨c.before behind, [statementOf (c.before behind)
        ⟨.trimmed (c.before behind) here, String.ofList c.name, elements⟩ kind], []⟩ :=
  read_statement (noPair_of_not_mem (c.lineFeed_not_mem hp))
    (List.append_ne_nil_of_left_ne_nil c.name_ne_nil _) (c.skipSeparators_before h.endsWord)
    (c.statement_joined h hj hr) fun _ => rfl

theorem endsWords_nil : EndsWords [] [] where
  endsWord := by simp [EndsWord]
  skipped := skipInline_nil
  stops := rfl

/-- A command that stands alone is read as it is. -/
theorem PlainCommand.read_alone (c : PlainCommand) :
    read (String.ofList (c.before [])) = (elementsOf c.words []).map fun elements =>
      ⟨c.before [], [.command ⟨.trimmed (c.before []) [], String.ofList c.name, elements⟩],
        []⟩ := by
  obtain ⟨rest, hj, hr⟩ := junction_nil rfl
  exact c.read_joined endsWords_nil hj hr List.not_mem_nil

end Script

end PageScript
