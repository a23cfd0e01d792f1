import PageScript.Proofs.Compile.References
import PageScript.Proofs.Numeral.Literal
import PageScript.Proofs.Script.Commands
import PageScript.Proofs.Script.Joining

/-!
# Integer literals in a script

A literal gets into a script in three ways: as a bare word, attached to a parameter, or as the
value of an assignment. A word has to be a literal from end to end, and must not be taken for a
parameter if it starts with a hyphen; a value is read up to the end of the longest literal. On each
way a spelling of an integer stands for the integer, and what is written of it is its own text.
-/

namespace PageScript.Script

open Numeral (Spells Sign)

/-! ## Spellings as words -/

/-- The characters of literals. -/
def literalChars : List Char := "+-0123456789abcdefABCDEFxX".toList

/-- The characters that a literal starts with. -/
def literalStarts : List Char := "+-0123456789".toList

section

variable {text : List Char} {n : Int}

theorem mem_literalChars_of_isDigit {base d : Nat} {c : Char} (h : Numeral.IsDigit base d c)
    (hb : base ≤ 16) : c ∈ literalChars := by
  have all : ∀ d < 16,
      Nat.digitChar d ∈ literalChars ∧ (Nat.digitChar d).toUpper ∈ literalChars := by
    decide +kernel
  have hd : d < 16 := Nat.lt_of_lt_of_le h.1 hb
  rcases h.2 with rfl | rfl
  · exact (all d hd).1
  · exact (all d hd).2

theorem mem_literalChars (h : Spells text n) : ∀ c ∈ text, c ∈ literalChars := by
  have sign (sign : Sign) : ∀ c ∈ sign.chars, c ∈ literalChars := by
    cases sign with
    | none => exact List.forall_mem_nil _
    | plus | minus => exact List.forall_mem_singleton.2 (by decide)
  cases h with
  | decimal s hd =>
    refine List.forall_mem_append.2 ⟨sign s, fun c hc => ?_⟩
    obtain ⟨d, hd⟩ := Numeral.exists_isDigit hd c hc
    exact mem_literalChars_of_isDigit hd (by decide)
  | @hexadecimal s mark _ _ hm hd =>
    refine List.forall_mem_append.2 ⟨sign s, List.forall_mem_cons.2 ⟨by decide, ?_⟩⟩
    refine List.forall_mem_cons.2 ⟨by rcases hm with rfl | rfl <;> decide, fun c hc => ?_⟩
    obtain ⟨d, hd⟩ := Numeral.exists_isDigit hd c hc
    exact mem_literalChars_of_isDigit hd (by decide)

/-- Behind its sign a spelling starts with a decimal digit. -/
theorem exists_digit (h : Spells text n) :
    ∃ (sign : Sign) (d : Nat) (rest : List Char),
      d < 10 ∧ text = sign.chars ++ Nat.digitChar d :: rest := by
  cases h with
  | @decimal sign digits chars hd hne =>
    cases hd with
    | nil => exact absurd rfl hne
    | @cons d c digits rest head =>
      have same : ∀ d < 10, (Nat.digitChar d).toUpper = Nat.digitChar d := by decide
      refine ⟨sign, d, rest, head.1, ?_⟩
      rcases head.2 with rfl | rfl
      · rfl
      · rw [same d head.1]
  | hexadecimal sign => exact ⟨sign, 0, _, by decide, rfl⟩

theorem exists_literalStart (h : Spells text n) :
    ∃ c ∈ literalStarts, ∃ rest, text = c :: rest := by
  obtain ⟨sign, d, rest, hd, rfl⟩ := exists_digit h
  have all : ∀ d < 10, Nat.digitChar d ∈ literalStarts := by decide
  cases sign with
  | none => exact ⟨_, all d hd, rest, rfl⟩
  | plus => exact ⟨'+', by decide, _, rfl⟩
  | minus => exact ⟨'-', by decide, _, rfl⟩

theorem isWordText_spells (h : Spells text n) : isWordText text = true := by
  have all : ∀ c ∈ literalChars, c ≠ '`' ∧ endsWord c = false := by
    have := List.all_eq_true.1 (show literalChars.all (fun c => c != '`' && !endsWord c) = true by
      decide)
    intro c hc
    simpa using this c hc
  have chars := mem_literalChars h
  clear h
  induction text with
  | nil => rfl
  | cons c rest ih =>
    rw [List.forall_mem_cons] at chars
    obtain ⟨hb, he⟩ := all c chars.1
    rw [isWordText_plain hb, he, ih chars.2]
    rfl

theorem startsWord_spells (h : Spells text n) : startsWord text = true := by
  have all := List.all_eq_true.1 (show literalStarts.all (fun c => !isInlineBlank c &&
    !argumentMarks.contains c && c != '<') = true by decide)
  obtain ⟨c, hc, rest, rfl⟩ := exists_literalStart h
  have := all c hc
  simp only [Bool.and_eq_true, bne_iff_ne] at this
  simp only [startsWord, this.1.1, this.1.2, beq_eq_false_iff_ne.2 this.2, Bool.false_and,
    Bool.not_false, Bool.and_self]

/-- A spelling with a hyphen in front is no parameter. -/
theorem startsSwitch_spells (h : Spells text n) : startsSwitch text = false := by
  obtain ⟨sign, d, rest, hd, rfl⟩ := exists_digit h
  have digit : ∀ d < 10, Nat.digitChar d ≠ '-' ∧
      (isNameStart (Nat.digitChar d) || Nat.digitChar d == '?') = false := by decide +kernel
  cases sign with
  | none =>
    show startsSwitch (Nat.digitChar d :: rest) = false
    unfold startsSwitch
    split
    · rename_i he
      exact absurd (List.cons.inj he).1 (digit d hd).1
    · rfl
  | plus => rfl
  | minus => exact (digit d hd).2

/-- A spelling that is a whole word means the integer. -/
theorem wordExpr_spells (h : Spells text n) (extent : Extent) :
    wordExpr extent (String.ofList text) = .ok (.number extent (.integer n)) := by
  obtain ⟨literal, ht, hv⟩ := Numeral.take?_spells h
  have whole : Numeral.Literal.ofText? text = some literal := by rw [Numeral.Literal.ofText?, ht]
  rw [wordExpr, String.toList_ofList, whole]
  dsimp only
  rw [hv]
  rfl

end

/-! ## Spellings as values -/

/-- The variable of an assignment, up to the blank behind it. -/
theorem target_identifier (name : Compile.Identifier) (rest : List Char) :
    variableAt (name.chars ++ ' ' :: rest) >>= withMembers =
      .ok (.behind (.reference (.between ('$' :: (name.chars ++ ' ' :: rest)) (' ' :: rest))
        (String.ofList name.chars) none false) (' ' :: rest) (List.suffix_append _ _)) := by
  have stop : ∀ c ∈ (' ' :: rest).head?, isNameChar c = false := by
    rintro _ ⟨⟩
    decide +kernel
  have first : isNameChar name.first = true :=
    isNameChar_of_mem_chars name.first List.mem_cons_self
  have dropped : dropName (name.chars ++ ' ' :: rest) = ' ' :: rest := dropName_identifier stop
  have plain : variableName? (name.chars ++ ' ' :: rest) =
      .ok (some (String.ofList name.chars, none, ' ' :: rest)) := by
    refine (variableName?_plain (name.first_ne (by decide)) (not_specialName name) first
      ?_).trans ?_
    · intro behind hb
      cases dropped.symm.trans hb
    · show Except.ok (some (takeName (name.chars ++ ' ' :: rest), none,
        dropName (name.chars ++ ' ' :: rest))) = _
      rw [takeName_identifier stop, dropped]
  have members : membersRest (' ' :: rest) = .ok (' ' :: rest) := membersRest_done rfl
  rw [variableAt, checked_ok plain]
  show withMembers _ = _
  rw [withMembers]
  show checked (membersRest (' ' :: rest)) >>= _ = _
  rw [checked_ok members]
  exact if_neg (Nat.lt_irrefl _)

theorem skipInline_lineEnd (more : List Char) : skipInline ('\n' :: more) = .ok ('\n' :: more) :=
  skipInline_plain rfl (by decide) (by decide) (by decide) more

/-- A spelling at the end of a line is an expression of its own. -/
theorem expression_spells {text : List Char} {n : Int} (h : Spells text n) (more : List Char) :
    ∃ found, expression hashtable endsElement (text ++ '\n' :: more) = .ok found ∧
      found.rest = '\n' :: more ∧
      found.value = .number (.between (text ++ '\n' :: more) ('\n' :: more)) (.integer n) := by
  obtain ⟨literal, ht, hv⟩ := Numeral.take?_spells h
  have taken : Numeral.Literal.take? (text ++ '\n' :: more) = some (literal, '\n' :: more) := by
    rw [Numeral.take?_lineFeed, ht]
    rfl
  have primary : primary? hashtable (text ++ '\n' :: more) = .ok none := by
    have starts := startsWord_spells h
    obtain ⟨c, -, rest, rfl⟩ := exists_literalStart h
    obtain ⟨-, hc, -⟩ := of_startsWord starts
    exact primary?_none (fun hm => hc (List.mem_append_left ['#'] hm)) hashtable _
  have number := numberOrCommand?_number taken hashtable
  rw [hv] at number
  have suffix := Numeral.Literal.take?_suffix taken
  refine ⟨⟨_, _, suffix.1, suffix.2⟩, ?_, rfl, rfl⟩
  rw [expression, primary]
  show numberOrCommand? hashtable (text ++ '\n' :: more) >>= _ = _
  rw [number]
  show extended endsElement _ = _
  rw [extended]
  show checked (skipInline ('\n' :: more)) >>= _ = _
  rw [checked_ok (skipInline_lineEnd more)]
  rfl

/-- A spelling at the end of a line is the value of an assignment. -/
theorem assignedValue_spells {text : List Char} {n : Int} (h : Spells text n) (more : List Char) :
    ∃ found, assignedValue (text ++ '\n' :: more) = .ok found ∧ found.rest = '\n' :: more ∧
      found.value = .number (.between (text ++ '\n' :: more) ('\n' :: more)) (.integer n) := by
  obtain ⟨found, he, hr, hv⟩ := expression_spells h more
  have command : ((text ++ '\n' :: more).head?.map startsCommand).getD false = false := by
    obtain ⟨c, hc, rest, rfl⟩ := exists_literalStart h
    have all := List.all_eq_true.1 (show literalStarts.all (fun c => !startsCommand c) = true by
      decide +kernel)
    simpa using all c hc
  refine ⟨found, ?_, hr, hv⟩
  rw [assignedValue, command, if_neg Bool.false_ne_true, he]
  show skipInline found.rest >>= _ = _
  rw [hr, skipInline_lineEnd]
  rfl

/-- A spelling behind a blank is the next thing that is not passed over. -/
theorem skipBlanks_spells {text : List Char} {n : Int} (h : Spells text n) (behind : List Char) :
    skipBlanks (' ' :: (text ++ behind)) = .ok (text ++ behind) ∧
      stopped (fun c => c == ';' || c == ')' || c == '\x7d') (text ++ behind) = false := by
  have all := List.all_eq_true.1 (show literalStarts.all (fun c => !isInlineBlank c && c != '#' &&
    c != '`' && c != '<' && c != '\n' && !(c == ';' || c == ')' || c == '\x7d')) = true by decide)
  obtain ⟨c, hc, rest, rfl⟩ := exists_literalStart h
  have first := all c hc
  simp only [Bool.and_eq_true, bne_iff_ne, Bool.not_eq_true'] at first
  obtain ⟨⟨⟨⟨⟨blank, hash⟩, tick⟩, less⟩, line⟩, stops⟩ := first
  refine ⟨?_, stops⟩
  apply skipBlanks_stays
  · exact (skipInline_blank rfl _).trans (skipInline_plain blank hash tick less _)
  · exact fun _ he => line (List.cons.inj he).1

/-- An assignment is made of a variable, an operator and a value, up to the end of the statement. -/
theorem assignment?_parts {t here behind start rest : List Char} {op : AssignOp}
    {target : Found Expr ('$' :: t)} {value : Found Expr start}
    (ht : variableAt t >>= withMembers = .ok target) (hi : skipInline target.rest = .ok here)
    (ho : assignOp? here = some (op, behind)) (hb : skipBlanks behind = .ok start)
    (hs : stopped (fun c => c == ';' || c == ')' || c == '\x7d') start = false)
    (hv : assignedValue start = .ok value) (he : statementEnd value.rest = .ok rest) :
    ∃ found, assignment? t = .ok (some found) ∧ found.rest = rest ∧
      found.value = .assignment (.trimmed ('$' :: t) rest) target.value op value.value := by
  have suffix : rest <:+ target.rest := (statementEnd_suffix he).trans (value.suffix.trans
    ((skipBlanks_suffix hb).trans ((assignOp?_suffix ho).trans (skipInline_suffix hi))))
  refine ⟨target.upTo _ rest suffix, ?_, rfl, rfl⟩
  rw [assignment?, ht]
  show checked (skipInline target.rest) >>= _ = _
  rw [checked_ok hi]
  dsimp only [bind, Except.bind]
  split
  · rename_i ho'
    cases ho.symm.trans ho'
  · rename_i ho'
    cases ho.symm.trans ho'
    rw [checked_ok hb]
    dsimp only
    rw [hs, if_neg Bool.false_ne_true, hv]
    dsimp only
    rw [checked_ok he]
    rfl

/-- The assignment of a spelling to a variable, at the end of a line. -/
theorem statement_assigned {text : List Char} {n : Int} (h : Spells text n)
    (name : Compile.Identifier) (more : List Char) :
    ∃ found whole target value,
      statement ('$' :: (name.chars ++ ' ' :: '=' :: ' ' :: (text ++ '\n' :: more))) = .ok found ∧
      found.rest = '\n' :: more ∧
      found.value = .assignment whole (.reference target (String.ofList name.chars) none false) .set
        (.number value (.integer n)) := by
  obtain ⟨value, ha, hr, hv⟩ := assignedValue_spells h more
  have target := target_identifier name ('=' :: ' ' :: (text ++ '\n' :: more))
  have operator : skipInline (' ' :: '=' :: ' ' :: (text ++ '\n' :: more)) =
      .ok ('=' :: ' ' :: (text ++ '\n' :: more)) :=
    (skipInline_blank rfl _).trans (skipInline_plain rfl (by decide) (by decide) (by decide) _)
  have set : assignOp? ('=' :: ' ' :: (text ++ '\n' :: more)) =
      some (.set, ' ' :: (text ++ '\n' :: more)) := rfl
  obtain ⟨start, goes⟩ := skipBlanks_spells h ('\n' :: more)
  have done : statementEnd value.rest = .ok ('\n' :: more) := by
    rw [hr, statementEnd, skipInline_lineEnd]
    rfl
  obtain ⟨found, hf, hrest, hvalue⟩ := assignment?_parts target operator set start goes ha done
  rw [hv] at hvalue
  refine ⟨found, _, _, _, ?_, hrest, hvalue⟩
  have starts :
      startsAssignment (name.chars ++ ' ' :: '=' :: ' ' :: (text ++ '\n' :: more)) = true := by
    have first : isNameChar name.first = true :=
      isNameChar_of_mem_chars name.first List.mem_cons_self
    exact Bool.or_eq_true_iff.2 (.inl first)
  show (if _ then _ else _) = _
  rw [if_pos starts, hf]
  rfl

/-! ## Scripts with a spelling -/

section

variable {text : List Char} {n : Int}

theorem isPlain_bare (h : Spells text n) : (CommandWord.bare text).isPlain = true := by
  simp [CommandWord.isPlain, startsWord_spells h, isWordText_spells h, startsSwitch_spells h]

theorem isPlain_attached {name : List Char} (hn : isSwitchName name = true) (h : Spells text n) :
    (CommandWord.attached name text).isPlain = true := by
  simp [CommandWord.isPlain, hn, startsWord_spells h, isWordText_spells h]

/-- The command that writes a spelling. -/
def writeLiteral (h : Spells text n) : PlainCommand where
  name := "Write-Output".toList
  words := [CommandWord.spaced (.bare text) (isPlain_bare h)]
  name_isName := isCommandName_writeOutput

/-- What stands in front of the number of items that are read. -/
def topHead : List Char := "Read-AzCosmosItems -Top:".toList

/-- The command that reads as many items as a spelling says. -/
def readLiteral (h : Spells text n) : PlainCommand where
  name := "Read-AzCosmosItems".toList
  words :=
    [CommandWord.spaced (.attached "Top".toList text) (isPlain_attached (by decide +kernel) h)]
  name_isName := by decide +kernel

theorem read_writeLiteral (h : Spells text n) :
    ∃ whole value, read (String.ofList (writeHead ++ text)) = .ok ⟨writeHead ++ text,
      [.command ⟨whole, "Write-Output", [.value (.number value (.integer n))]⟩], []⟩ := by
  have alone := (writeLiteral h).read_alone
  have before : (writeLiteral h).before [] = writeHead ++ text :=
    congrArg (writeHead ++ ·) (List.append_nil text)
  have elements : elementsOf (writeLiteral h).words [] =
      .ok [.value (.number (.between (text ++ []) []) (.integer n))] := by
    show (wordExpr _ (String.ofList text)).map Element.value >>= _ = _
    rw [wordExpr_spells h]
    rfl
  rw [before, elements] at alone
  exact ⟨_, _, alone⟩

theorem read_readLiteral (h : Spells text n) :
    ∃ whole parameter value, read (String.ofList (topHead ++ text)) = .ok ⟨topHead ++ text,
      [.command ⟨whole, "Read-AzCosmosItems",
        [.parameter parameter "Top" (some (.number value (.integer n)))]⟩], []⟩ := by
  have alone := (readLiteral h).read_alone
  have before : (readLiteral h).before [] = topHead ++ text :=
    congrArg (topHead ++ ·) (List.append_nil text)
  have elements : elementsOf (readLiteral h).words [] =
      .ok [.parameter (.between ((CommandWord.attached "Top".toList text).chars ++ []) []) "Top"
        (some (.number (.between (text ++ []) []) (.integer n)))] := by
    show (wordExpr _ (String.ofList text)).map _ >>= _ = _
    rw [wordExpr_spells h]
    rfl
  rw [before, elements] at alone
  exact ⟨_, _, _, alone⟩

/-- The script that assigns a spelling to a variable and writes the variable. -/
def assignAndWrite (name : Compile.Identifier) (text : List Char) : List Char :=
  '$' :: (name.chars ++ ' ' :: '=' :: ' ' :: (text ++ '\n' :: (writeHead ++ '$' :: name.chars)))

theorem return_not_mem_assignAndWrite (h : Spells text n) (name : Compile.Identifier) :
    '\r' ∉ assignAndWrite name text := by
  have inName : '\r' ∉ name.chars := name.not_mem (by decide)
  have inText : '\r' ∉ text := fun hm => absurd (mem_literalChars h _ hm) (by decide)
  have inHead : '\r' ∉ writeHead := by decide
  simp [assignAndWrite, inName, inText, inHead]

/-- The line that writes a variable. -/
theorem readStatements_variable (name : Compile.Identifier) :
    ∃ whole reference, readStatements (writeHead ++ '$' :: name.chars) = .ok
      ([.command ⟨whole, "Write-Output",
        [.value (.reference reference (String.ofList name.chars) none false)]⟩], []) := by
  have bare : ReadsAs ('$' :: name.chars) _ := readsAs_bare { name }
  have noReturn : '\r' ∉ '$' :: name.chars := return_not_mem_text { name }
  obtain ⟨whole, hread⟩ := bare.read_write (startsArgument_of_mark (.inl rfl) _) noReturn
  rw [read_eq, String.toList_ofList] at hread
  obtain ⟨out, ho, he⟩ := ok_of_map hread
  obtain ⟨unified, statements, complaints⟩ := Reading.mk.inj he
  rw [unified] at ho
  refine ⟨whole, _, ho.trans (congrArg Except.ok (Prod.ext statements complaints))⟩

theorem read_assignAndWrite (h : Spells text n) (name : Compile.Identifier) :
    ∃ assigned target value written reference,
      read (String.ofList (assignAndWrite name text)) = .ok ⟨assignAndWrite name text,
        [.assignment assigned (.reference target (String.ofList name.chars) none false) .set
            (.number value (.integer n)),
          .command ⟨written, "Write-Output",
            [.value (.reference reference (String.ofList name.chars) none false)]⟩], []⟩ := by
  obtain ⟨found, assigned, target, value, hf, hr, hv⟩ :=
    statement_assigned h name (writeHead ++ '$' :: name.chars)
  obtain ⟨written, reference, later⟩ := readStatements_variable name
  have unpaired : NoPair (assignAndWrite name text) := fun hi =>
    return_not_mem_assignAndWrite h name (hi.subset List.mem_cons_self)
  have start : skipSeparators (assignAndWrite name text) = .ok (assignAndWrite name text) :=
    skipSeparators_of_skipInline (by decide) (by decide)
      (skipInline_plain rfl (by decide) (by decide) (by decide) _)
  have statements : readStatements (assignAndWrite name text) = _ := readStatements_next start hf
  rw [hr, readStatements_lineFeed, later, hv] at statements
  refine ⟨assigned, target, value, written, reference, ?_⟩
  rw [read_eq, String.toList_ofList, unifyLineEnds_of_noPair unpaired, statements]
  rfl

end

end PageScript.Script

namespace PageScript.Compile

open Numeral (Spells IsDecimalText digitLimit)
open Script (writeHead topHead assignAndWrite)

/-! ## What becomes of the integer -/

/-- The block is in order and is planned as these operations, whatever the settings, the environment
and its place are. -/
def PlansTo (source : List Char) (operations : List Operation) : Prop :=
  ∀ (settings : Settings) (environ : Environ) (sourceName : String) (index : Nat),
    (planBlock settings environ sourceName ⟨String.ofList source, index⟩).1 =
      .ok (some ⟨index, operations⟩)

section

variable {n : Int}

theorem resolve_integer (hn : n.natAbs < Nat.pow 10 digitLimit) (scope : Scope)
    (extent : Script.Extent) : scope.resolve (.number extent (.integer n)) = .ok (toString n) := by
  rw [Scope.resolve, Numeral.Number.write, Numeral.write, if_pos hn]

theorem writing_integer (n : Int) : writing (toString n) = [.emitText (toString n)] := by
  obtain ⟨digits, chars, h, hne, -, -, ht⟩ := Numeral.isDecimalText_toString n
  have nonempty : toString n ≠ "" := by
    intro he
    rw [he] at ht
    cases h with
    | nil => exact hne rfl
    | cons => split at ht <;> cases ht
  exact if_neg (by simpa using nonempty)

/-- A spelling that is written gives the text of the integer. -/
theorem plansTo_written {text : List Char} (h : Spells text n)
    (hn : n.natAbs < Nat.pow 10 digitLimit) :
    PlansTo (writeHead ++ text) [.emitText (toString n)] := by
  intro settings environ sourceName index
  obtain ⟨whole, value, hread⟩ := Script.read_writeLiteral h
  have compiled := compileBlock_write (.number value (.integer n)) settings environ whole
  rw [resolve_integer hn, Except.map, writing_integer] at compiled
  rw [planBlock_clean ⟨String.ofList (writeHead ++ text), index⟩ hread rfl, compiled]
  rfl

/-- A spelling that is assigned to a variable gives it the text of the integer. -/
theorem plansTo_assigned {text : List Char} (h : Spells text n)
    (hn : n.natAbs < Nat.pow 10 digitLimit) {name : Identifier}
    (hname : automaticVariables.get? (String.ofList name.chars) = none) :
    PlansTo (assignAndWrite name text) [.emitText (toString n)] := by
  intro settings environ sourceName index
  obtain ⟨assigned, target, value, written, reference, hread⟩ := Script.read_assignAndWrite h name
  have scalar : Scope.scalar? { environ, known := .empty } (.number value (.integer n)) =
      .ok (some (toString n)) := by
    show some <$> Scope.resolve _ (.number value (.integer n)) = _
    rw [resolve_integer hn]
    rfl
  have kept : Scope.assign { environ, known := .empty }
      (.reference target (String.ofList name.chars) none false) .set (.number value (.integer n)) =
        .ok (.insert .empty (String.ofList name.chars) (toString n)) := by
    rw [Scope.assign, scalar]
    rfl
  -- The first pass keeps the text under the name, where the second one finds it.
  have bound : bindAll environ [.assignment assigned
      (.reference target (String.ofList name.chars) none false) .set (.number value (.integer n))] =
        .ok { known := .insert .empty (String.ofList name.chars) (toString n) } := by
    rw [bindAll, List.foldlM_cons, bindStatement, kept]
    rfl
  have resolved : Scope.resolve
      { environ, known := .insert .empty (String.ofList name.chars) (toString n) }
      (.reference reference (String.ofList name.chars) none false) = .ok (toString n) := by
    have known : Scope.lookup?
        { environ, known := .insert .empty (String.ofList name.chars) (toString n) }
        (String.ofList name.chars) = some (toString n) := by
      rw [Scope.lookup?, hname, FoldedTable.get?_insert, if_pos (by simp [sameName])]
      rfl
    rw [Scope.resolve, if_neg Bool.false_ne_true, known]
    rfl
  have silent (bindings : FoldedTable Parameters) : compileAll settings environ bindings .empty
      [.assignment assigned (.reference target (String.ofList name.chars) none false) .set
        (.number value (.integer n))] = .ok [] := by
    rw [compileAll, compileStatement, kept]
    rfl
  have compiled := @compileBlock_written settings environ _ [] _ _ _ bound resolved written
  rw [List.foldlM_nil, pure_bind, silent, writing_integer, List.singleton_append] at compiled
  rw [planBlock_clean ⟨String.ofList (assignAndWrite name text), index⟩ hread rfl, compiled]
  rfl

/-- A spelling that is attached to a parameter gives it the text of the integer. -/
theorem collect_attached (hn : n.natAbs < Nat.pow 10 digitLimit) (scope : Scope)
    (bindings : FoldedTable Parameters) (extent value : Script.Extent) :
    ∃ parameters, scope.collect bindings
        [.parameter extent "Top" (some (.number value (.integer n)))] = .ok parameters ∧
      parameters.values.get? "Top" = some (toString n) := by
  have written : scope.argumentWrite "Top" (some (.number value (.integer n))) =
      .ok ⟨"Top", toString n, none⟩ := by
    rw [Scope.argumentWrite, resolve_integer hn]
    rfl
  refine ⟨Parameters.write {} ⟨"Top", toString n, none⟩, ?_, ?_⟩
  · rw [Scope.collect, Scope.collectFrom, if_neg (by decide), written]
    rfl
  · show (FoldedTable.insert _ "Top" (toString n)).get? "Top" = _
    rw [FoldedTable.get?_insert, if_pos (by simp [sameName])]

end

/-- On every way that a spelling of an integer takes into a script it keeps its value: written as a
word, written through a variable, and given to a parameter it is the text of the integer. -/
theorem integer_spellings_exact {text : List Char} {n : Int} (h : Spells text n)
    (hn : n.natAbs < Nat.pow 10 digitLimit) {name : Identifier}
    (hname : automaticVariables.get? (String.ofList name.chars) = none) :
    IsDecimalText n (toString n) ∧
    PlansTo (writeHead ++ text) [.emitText (toString n)] ∧
    PlansTo (assignAndWrite name text) [.emitText (toString n)] ∧
    ∃ command, Script.read (String.ofList (topHead ++ text)) =
        .ok ⟨topHead ++ text, [.command command], []⟩ ∧
      command.name = "Read-AzCosmosItems" ∧
      ∀ (scope : Scope) (bindings : FoldedTable Parameters), ∃ parameters,
        scope.collect bindings command.elements = .ok parameters ∧
        parameters.values.get? "Top" = some (toString n) := by
  refine ⟨Numeral.isDecimalText_toString n, plansTo_written h hn, plansTo_assigned h hn hname, ?_⟩
  obtain ⟨whole, parameter, value, hread⟩ := Script.read_readLiteral h
  exact ⟨_, hread, rfl, fun scope bindings => collect_attached hn scope bindings parameter value⟩

/-- A hyphen, a mark and digits in both letter cases, with zeros in front of them. -/
theorem spells_hexadecimal : Spells "-0X00fF".toList (-255) := by
  have digits : List.Forall₂ (Numeral.IsDigit 16) [0, 0, 15, 15] ['0', '0', 'f', 'F'] :=
    .cons ⟨by decide, .inl rfl⟩ (.cons ⟨by decide, .inl rfl⟩ (.cons ⟨by decide, .inl rfl⟩
      (.cons ⟨by decide, .inr rfl⟩ .nil)))
  exact Spells.hexadecimal .minus (.inr rfl) digits (List.cons_ne_nil _ _)

theorem integer_spellings_exact_hexadecimal :
    PlansTo "Write-Output -0X00fF".toList [.emitText "-255"] ∧
    PlansTo "$n = -0X00fF\nWrite-Output $n".toList [.emitText "-255"] ∧
    ∃ command, Script.read "Read-AzCosmosItems -Top:-0X00fF" =
        .ok ⟨"Read-AzCosmosItems -Top:-0X00fF".toList, [.command command], []⟩ ∧
      ∃ parameters, Scope.collect { environ := fun _ => none } .empty command.elements =
        .ok parameters ∧ parameters.values.get? "Top" = some "-255" := by
  obtain ⟨-, written, assigned, command, hread, -, collected⟩ :=
    integer_spellings_exact spells_hexadecimal (by decide +kernel)
      (show automaticVariables.get? (String.ofList (Identifier.mk 'n' [] rfl rfl).chars) = none by
        decide +kernel)
  exact ⟨written, assigned, command, hread, collected _ _⟩

end PageScript.Compile
