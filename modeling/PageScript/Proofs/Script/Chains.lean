import PageScript.Proofs.Script.Commands
import PageScript.Proofs.Script.FlatItems

/-!
# Two commands and an operator between them

Two bars behind the words of a command end it, and whatever follows them up to the end of the
statement is passed over: the two commands are one chain, which compiles to nothing. An ampersand
ends neither a word nor a command. Two of them are one more word of the first command, and so are
the name and the words of the second: such a chain is one command.
-/

namespace PageScript.Script

variable {text behind : List Char}

/-! ## What is passed over -/

/-- The characters that open, close or end something in a text that is passed over. -/
def rawMarks : List Char := ['(', ')', '\x7b', '\x7d', '[', ']', '\'', '"', ';', '\n']

/-- A text of one line that is passed over character by character, up to its end or a comment. -/
def isRawText : List Char → Bool
  | [] => true
  | c :: rest =>
    if c = '`' then
      match rest with
      | [] => true
      | _ :: rest => isRawText rest
    else !rawMarks.contains c && !(c == '<' && rest.head? == some '#') && isRawText rest

theorem not_startsHere (h : '\n' ∉ text) : ¬ StartsHere text := by
  rintro ⟨quote, blanks, body, -, rfl⟩
  exact h (by simp)

theorem rawRest_item {piece rest : List Char} (h : FlatItem piece rest)
    (hs : ∀ c ∈ piece.head?, endsStatement c = false) :
    rawRest endsStatement (piece ++ rest) = rawRest endsStatement rest := by
  obtain ⟨c, tail, rfl, hc, hi⟩ := h.read
  have item : rawItem c (tail ++ rest) = .ok rest := by
    rw [rawItem, hc.noOpener, hc.noCloser, if_neg Bool.false_ne_true, if_neg hc.noQuote, hi]
  exact rawRest_step (hs c rfl) item

theorem rawRest_plain {c : Char} {rest : List Char} (hc : c ∉ rawMarks) (hb : c ≠ '`')
    (hh : c ≠ '#') (hl : c = '<' → rest.head? ≠ some '#') (hn : '\n' ∉ rest) :
    rawRest endsStatement (c :: rest) = rawRest endsStatement rest := by
  simp only [rawMarks, List.mem_cons, List.not_mem_nil, or_false, not_or] at hc
  have plain : Plain c rest := by
    refine ⟨?_, hl, not_startsHere ?_⟩
    · simp [hc, hb, hh]
    · simp [hn, Ne.symm hc.2.2.2.2.2.2.2.2.2]
  refine rawRest_item (FlatItem.plain plain) ?_
  rintro _ ⟨⟩
  simp [endsStatement, hc]

theorem rawRest_blank {c : Char} {rest : List Char} (hc : isInlineBlank c = true)
    (hn : '\n' ∉ rest) : rawRest endsStatement (c :: rest) = rawRest endsStatement rest := by
  simp only [isInlineBlank, Bool.or_eq_true, beq_iff_eq] at hc
  rcases hc with ((rfl | rfl) | rfl) | rfl <;>
    exact rawRest_plain (by decide) (by decide) (by decide) (fun h => absurd h (by decide)) hn

/-- What can be passed over behind a word can be behind any text. -/
theorem rawRest_text (h : isRawText text = true) (hb : EndsWord behind) (hn : '\n' ∉ text ++ behind)
    (hr : rawRest endsStatement behind = .ok []) :
    rawRest endsStatement (text ++ behind) = .ok [] := by
  fun_induction isRawText text with
  | case1 => exact hr
  | case2 =>
    -- The backtick takes along the blank that ends the word.
    have item : rawItem '`' behind = .ok (behind.drop 1) := rfl
    refine (rawRest_step rfl item).trans ?_
    cases behind with
    | nil => exact hr
    | cons c rest =>
      have blank : isInlineBlank c = true := by rcases hb c rfl with rfl | rfl <;> rfl
      rw [List.singleton_append, List.mem_cons, List.mem_cons, not_or, not_or] at hn
      exact (rawRest_blank blank hn.2.2).symm.trans hr
  | case3 d rest ih =>
    have line : '\n' ∉ rest ++ behind := fun hm =>
      hn (List.mem_cons_of_mem _ (List.mem_cons_of_mem _ hm))
    exact (rawRest_item (.escaped d (rest ++ behind)) (by simp [endsStatement])).trans (ih h line)
  | case4 c rest hc ih =>
    simp only [Bool.and_eq_true, Bool.not_eq_true', List.contains_eq_mem, decide_eq_false_iff_not,
      Bool.and_eq_false_iff, beq_eq_false_iff_ne] at h
    have line : '\n' ∉ rest ++ behind := fun hm => hn (List.mem_cons_of_mem _ hm)
    by_cases hh : c = '#'
    · subst hh
      have item : FlatItem ('#' :: (rest ++ behind)) [] := .lineComment line (.inl rfl)
      have passed := rawRest_item item (by simp [endsStatement])
      rw [List.append_nil] at passed
      rw [List.cons_append, passed, rawRest]
    · refine (rawRest_plain h.1.1 hc hh ?_ line).trans (ih h.2 line)
      rintro rfl
      cases rest with
      | nil => exact hb.head_ne (by decide) (by decide)
      | cons d rest => exact h.1.2.resolve_left (absurd rfl)

/-- Quotes and brackets stand in this word only where they are between apostrophes or behind a
backtick. -/
def CommandWord.isLoose : CommandWord → Bool
  | .quoted _ => true
  | word => isRawText word.chars

theorem rawRest_quoted (text : List Char) (hb : EndsWord behind) :
    rawRest endsStatement (inApostrophes text ++ behind) = rawRest endsStatement behind := by
  have item : rawItem '\'' (marked '\'' (· == '\'') text ++ '\'' :: behind) = .ok behind := by
    show (singleQuotedBody _ _).map _ = _
    rw [singleQuotedBody_marked _ text (hb.head_ne (by decide) (by decide))]
    rfl
  rw [inApostrophes_append]
  exact rawRest_step rfl item

theorem rawRest_gap {gap rest : List Char} (h : isGap gap = true) (hn : '\n' ∉ rest) :
    rawRest endsStatement (gap ++ rest) = rawRest endsStatement rest := by
  have blanks := isInlineBlank_of_isGap h
  have line := lineFeed_not_mem_gap h
  clear h
  induction gap with
  | nil => rfl
  | cons c gap ih =>
    rw [List.forall_mem_cons] at blanks
    have line : '\n' ∉ gap := fun hm => line (List.mem_cons_of_mem _ hm)
    have lines : '\n' ∉ gap ++ rest := by
      rw [List.mem_append, not_or]
      exact ⟨line, hn⟩
    exact (rawRest_blank blanks.1 lines).trans (ih blanks.2 line)

theorem rawRest_words {words : List SpacedWord} (h : ∀ next ∈ words, next.word.isLoose = true) :
    rawRest endsStatement (spelled words []) = .ok [] := by
  induction words with
  | nil => rw [spelled, List.foldr_nil, rawRest]
  | cons next words ih =>
    rw [List.forall_mem_cons] at h
    have behind := ih h.2
    have line := lineFeed_not_mem_spelled words (List.not_mem_nil : '\n' ∉ ([] : List Char))
    have lines : '\n' ∉ next.word.chars ++ spelled words [] := by
      rw [List.mem_append, not_or]
      exact ⟨CommandWord.lineFeed_not_mem next.word_isPlain, line⟩
    have ends := endsWord_spelled words endsWords_nil.endsWord
    refine (rawRest_gap next.gap_isGap lines).trans ?_
    cases hw : next.word with
    | quoted text => exact (rawRest_quoted text ends).trans behind
    | bare | switch | attached =>
      rw [hw] at h lines
      exact rawRest_text h.1 ends lines behind

namespace PlainCommand

/-- Nothing in the command opens or closes anything, strings in apostrophes apart. -/
def isLoose (c : PlainCommand) : Bool := isRawText c.name && c.words.all (·.word.isLoose)

/-- The command can be passed over from end to end. -/
def IsPassed (c : PlainCommand) : Prop := rawRest endsStatement (c.before []) = .ok []

theorem isPassed_of_isLoose {c : PlainCommand} (h : c.isLoose = true) : c.IsPassed := by
  simp only [isLoose, Bool.and_eq_true, List.all_eq_true] at h
  exact rawRest_text h.1 (endsWord_spelled c.words endsWords_nil.endsWord)
    (c.lineFeed_not_mem List.not_mem_nil) (rawRest_words h.2)

/-- What stands between two commands that are chained by bars. -/
def orMark : List Char := [' ', '|', '|', ' ']

def andMark : List Char := [' ', '&', '&', ' ']

theorem skipBlanks_before (c : PlainCommand) :
    skipBlanks (' ' :: c.before []) = .ok (c.before []) := by
  have here : skipInline (' ' :: c.before []) = .ok (c.before []) :=
    (skipInline_blank rfl _).trans (skipInline_word c.startsWord_name c.isWordText_name
      (endsWord_spelled c.words endsWords_nil.endsWord))
  apply skipBlanks_stays here
  intro rest he
  apply c.lineFeed_not_mem (List.not_mem_nil : '\n' ∉ ([] : List Char))
  rw [he]
  exact List.mem_cons_self

/-- Bars end the words of a command and join the next command to it. -/
theorem junction_or {d : PlainCommand} (h : d.IsPassed) :
    ∃ rest, junction (orMark.tail ++ d.before []) = .ok (.chained, rest) ∧ rest.val = [] := by
  have here : skipInline (orMark.tail ++ d.before []) = .ok (orMark.tail ++ d.before []) :=
    skipInline_plain rfl (by decide) (by decide) (by decide) _
  have next : skipBlanks ((orMark.tail ++ d.before []).drop 2) = .ok (d.before []) :=
    d.skipBlanks_before
  have bars : (['|', '|'].isPrefixOf (orMark.tail ++ d.before []) ||
      ['&', '&'].isPrefixOf (orMark.tail ++ d.before [])) = true := rfl
  refine ⟨⟨[], List.nil_suffix⟩, ?_, rfl⟩
  rw [junction, checked_ok here]
  dsimp only [bind, Except.bind]
  rw [if_pos bars, checked_ok next]
  dsimp only
  rw [checked_ok h]
  rfl

theorem endsWords_or (d : PlainCommand) :
    EndsWords (orMark ++ d.before []) (orMark.tail ++ d.before []) where
  endsWord := by
    rintro _ ⟨⟩
    exact .inl rfl
  skipped := (skipInline_blank rfl _).trans
    (skipInline_plain rfl (by decide) (by decide) (by decide) _)
  stops := rfl

/-- Two commands with bars between them. -/
def orElse (c d : PlainCommand) : List Char := c.before (orMark ++ d.before [])

/-- Two commands with ampersands between them. -/
def andThen (c d : PlainCommand) : List Char := c.before (andMark ++ d.before [])

/-- The name of a command is a word like any other behind another name. -/
theorem isPlain_name (c : PlainCommand) : (CommandWord.bare c.name).isPlain = true := by
  have switch : startsSwitch c.name = false := by
    obtain ⟨first, rest, hn, ho⟩ := c.exists_name
    rw [hn]
    unfold startsSwitch
    split
    · rename_i he
      cases he
      cases ho
    · rfl
  simp [CommandWord.isPlain, c.startsWord_name, c.isWordText_name, switch]

/-- The one command that two commands with ampersands between them are. -/
def absorbing (c d : PlainCommand) : PlainCommand where
  name := c.name
  words := c.words ++ CommandWord.spaced (.bare ['&', '&']) rfl ::
    CommandWord.spaced (.bare d.name) d.isPlain_name :: d.words
  name_isName := c.name_isName

theorem before_absorbing (c d : PlainCommand) : (c.absorbing d).before [] = c.andThen d := by
  rw [before, absorbing, spelled, List.foldr_append]
  rfl

end PlainCommand

/-! ## Numbers that are converted -/

/-- The text is no decimal integer of too many digits. -/
def isConvertible (text : List Char) : Bool :=
  match Numeral.Literal.ofText? text with
  | some (.whole _ digits) => digits.length ≤ Numeral.digitLimit
  | _ => true

theorem exists_wordExpr (h : isConvertible text = true) (extent : Extent) :
    ∃ expr, wordExpr extent (String.ofList text) = .ok expr := by
  rw [wordExpr, String.toList_ofList]
  cases hl : Numeral.Literal.ofText? text with
  | none =>
    dsimp only
    split
    · exact ⟨_, rfl⟩
    · exact ⟨_, rfl⟩
  | some literal =>
    cases literal with
    | hexadecimal | decimal => exact ⟨_, rfl⟩
    | whole negative digits =>
      rw [isConvertible, hl] at h
      have few : Numeral.ofDecimals digits = .ok (Numeral.ofDigits 10 digits) :=
        if_pos (of_decide_eq_true h)
      dsimp only [Numeral.Literal.value]
      rw [few]
      exact ⟨_, rfl⟩

namespace CommandWord

/-- The number that the word stands for or has attached, if any, can be converted. -/
def isConvertible : CommandWord → Bool
  | .bare text | .attached _ text => Script.isConvertible text
  | _ => true

theorem exists_element {word : CommandWord} (h : word.isConvertible = true) (behind : List Char) :
    ∃ element, word.element behind = .ok element := by
  cases word with
  | quoted | switch => exact ⟨_, rfl⟩
  | bare text =>
    obtain ⟨expr, he⟩ := exists_wordExpr h (.between ((bare text).chars ++ behind) behind)
    exact ⟨.value expr, by rw [element, he]; rfl⟩
  | attached name text =>
    obtain ⟨expr, he⟩ := exists_wordExpr h (.between (text ++ behind) behind)
    exact ⟨_, by rw [element, he]; rfl⟩

end CommandWord

theorem exists_elementsOf {words : List SpacedWord}
    (h : ∀ next ∈ words, next.word.isConvertible = true) (behind : List Char) :
    ∃ elements, elementsOf words behind = .ok elements := by
  induction words with
  | nil => exact ⟨[], rfl⟩
  | cons next words ih =>
    rw [List.forall_mem_cons] at h
    obtain ⟨first, hf⟩ := CommandWord.exists_element h.1 (spelled words behind)
    obtain ⟨others, ho⟩ := ih h.2
    refine ⟨first :: others, ?_⟩
    rw [elementsOf, hf, ho]
    rfl

/-! ## Chains -/

namespace PlainCommand

/-- Bars make a chain of two commands. -/
theorem read_orElse (c : PlainCommand) {d : PlainCommand} (h : d.IsPassed) :
    read (String.ofList (c.orElse d)) =
      (elementsOf c.words (orMark ++ d.before [])).map fun _ =>
        ⟨c.orElse d, [.other (.trimmed (c.orElse d) []) .chain], []⟩ := by
  obtain ⟨rest, hj, hr⟩ := junction_or h
  have line : '\n' ∉ orMark ++ d.before [] := by
    rw [List.mem_append, not_or]
    exact ⟨by decide, d.lineFeed_not_mem List.not_mem_nil⟩
  exact c.read_joined (endsWords_or d) hj hr line

/-- Ampersands make one command of two. -/
theorem read_andThen (c d : PlainCommand) :
    read (String.ofList (c.andThen d)) =
      (elementsOf (c.absorbing d).words []).map fun elements =>
        ⟨c.andThen d, [.command ⟨.trimmed (c.andThen d) [], String.ofList c.name, elements⟩],
          []⟩ := by
  have alone := (c.absorbing d).read_alone
  rw [before_absorbing] at alone
  exact alone

end PlainCommand

/-- Two commands are a chain, which compiles to nothing, if bars stand between them and the second
can be passed over, as it can if nothing in it opens a string or a bracket. With ampersands they
are never one: the first command takes the ampersands, the name of the second and its words for
words of its own. -/
theorem chained_by_bars_only (c d : PlainCommand) :
    (d.isLoose = true → d.IsPassed) ∧
    (d.IsPassed →
      read (String.ofList (c.orElse d)) =
        (elementsOf c.words (PlainCommand.orMark ++ d.before [])).map fun _ =>
          ⟨c.orElse d, [.other (.trimmed (c.orElse d) []) .chain], []⟩) ∧
    (d.IsPassed → (∀ next ∈ c.words, next.word.isConvertible = true) →
      Compile.CompilesTo (c.orElse d) []) ∧
    read (String.ofList (c.andThen d)) =
      (elementsOf (c.absorbing d).words []).map fun elements =>
        ⟨c.andThen d, [.command ⟨.trimmed (c.andThen d) [], String.ofList c.name, elements⟩],
          []⟩ := by
  refine ⟨PlainCommand.isPassed_of_isLoose, c.read_orElse, fun passed convertible => ?_,
    c.read_andThen d⟩
  intro settings environ sourceName index
  obtain ⟨elements, he⟩ := exists_elementsOf convertible (PlainCommand.orMark ++ d.before [])
  have chain := c.read_orElse passed
  rw [he] at chain
  refine ⟨⟨_, chain, rfl, rfl⟩, ?_⟩
  rw [Compile.planBlock_clean ⟨String.ofList (c.orElse d), index⟩ chain rfl]
  rfl

/-- A command with a parameter, a number, and a string that holds what ends a command. -/
def copyCommand : PlainCommand where
  name := "Copy-Item".toList
  words :=
    [CommandWord.spaced (.switch "Force".toList) (by decide +kernel),
      ⟨['\t', ' '], .quoted "it's; a || b".toList, rfl, by decide +kernel⟩,
      CommandWord.spaced (.bare "007".toList) (by decide +kernel)]
  name_isName := by decide +kernel

def echoCommand : PlainCommand where
  name := "Write-Output".toList
  words := [CommandWord.spaced (.bare "`'x".toList) (by decide +kernel)]
  name_isName := isCommandName_writeOutput

theorem chained_by_bars_only_copyCommand :
    Compile.CompilesTo "Copy-Item -Force\t 'it''s; a || b' 007 || Write-Output `'x".toList [] ∧
    ∃ reading command,
      read "Copy-Item -Force\t 'it''s; a || b' 007 && Write-Output `'x" = .ok reading ∧
      reading.statements = [.command command] ∧ command.name = "Copy-Item" ∧
      command.elements.length = 6 := by
  have h := chained_by_bars_only copyCommand echoCommand
  constructor
  · have text : copyCommand.orElse echoCommand =
        "Copy-Item -Force\t 'it''s; a || b' 007 || Write-Output `'x".toList := by decide +kernel
    rw [← text]
    exact h.2.2.1 (h.1 (by decide +kernel)) (List.all_eq_true.1 (by decide +kernel))
  · have text : String.ofList (copyCommand.andThen echoCommand) =
        "Copy-Item -Force\t 'it''s; a || b' 007 && Write-Output `'x" := by decide +kernel
    rw [← text, h.2.2.2]
    have length : (elementsOf (copyCommand.absorbing echoCommand).words []).toOption.map
        List.length = some 6 := by decide +kernel
    obtain ⟨elements, he, hl⟩ := ok_of_toOption length
    rw [he]
    exact ⟨_, _, rfl, rfl, rfl, hl⟩

/-- Two commands that write, with ampersands between them, do compile to something: what is written
is the first word. -/
theorem not_compilesTo_ampersands :
    ¬ Compile.CompilesTo "Write-Output a && Write-Output b".toList [] ∧
    (Compile.planBlock {} (fun _ => none) "page" ⟨"Write-Output a && Write-Output b", 0⟩).1 =
      .ok (some ⟨0, [.emitText "a"]⟩) := by
  have planned : (Compile.planBlock {} (fun _ => none) "page"
      ⟨"Write-Output a && Write-Output b", 0⟩).1.toOption.map id =
        some (some ⟨0, [.emitText "a"]⟩) := by decide +kernel
  obtain ⟨plan, hp, rfl⟩ := ok_of_toOption planned
  refine ⟨fun h => ?_, hp⟩
  have nothing := (h {} (fun _ => none) "page" 0).2
  rw [String.ofList_toList, hp] at nothing
  cases nothing

end PageScript.Script
