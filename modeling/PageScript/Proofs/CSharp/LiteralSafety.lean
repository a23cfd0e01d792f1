import PageScript.CSharp.Module
import PageScript.Found
import PageScript.Proofs.CSharp.LiteralReading

/-!
# What a literal can do to the file around it

A string literal is read as UTF-16 code units, and whatever follows it is left alone. No literal holds
a line end, so a text of a plan stays on the line of the statement that it belongs to: `Stmt.Plain`
says of a statement that everything in it that is not a literal is free of line ends, every statement
of a plan is plain, and so the lines of the generated method are lines of the file, whatever the line
end of the file is.
-/

namespace PageScript.CSharp

open Text (CodePoint)

/-! ## Code units -/

/-- The UTF-16 code units of a code point, as numbers of 16 bits. -/
def unitsOf (point : CodePoint) : List UInt16 := point.units.map fun unit => .ofNat unit.val

/-- The code units that the regular string literal at the start of a text denotes, and what follows
the literal. -/
def lexString? : List Char → Option (List UInt16 × List Char)
  | '"' :: text => (literalBody? text).map fun (points, rest) => (points.flatMap unitsOf, rest)
  | _ => none

/-- A literal is read as the code units of its code points, in front of whatever follows it. -/
theorem lexString?_append (points : List CodePoint) (rest : List Char) :
    lexString? ((literalOfPoints points).toList ++ rest) = some (points.flatMap unitsOf, rest) := by
  have hp := literalBody?_append points rest
  simp only [literalOfPoints, String.toList_ofList, List.cons_append, List.append_assoc,
    List.nil_append, lexString?, hp, Option.map_some]

/-! ## Texts on one line -/

/-- The text holds no line end. -/
def OneLine (text : List Char) : Prop := ∀ c ∈ text, isLineEnd c = false

-- The instance is named: a statement about every `Char` can also be decided by trying them all.
instance (text : List Char) : Decidable (OneLine text) :=
  List.decidableBAll (fun c => isLineEnd c = false) text

@[simp] theorem oneLine_cons {c : Char} {text : List Char} :
    OneLine (c :: text) ↔ isLineEnd c = false ∧ OneLine text :=
  List.forall_mem_cons

@[simp] theorem oneLine_append {text more : List Char} :
    OneLine (text ++ more) ↔ OneLine text ∧ OneLine more :=
  List.forall_mem_append

theorem OneLine.join {text more : String} (h : OneLine text.toList) (h' : OneLine more.toList) :
    OneLine (text ++ more).toList := by
  rw [String.toList_append, oneLine_append]
  exact ⟨h, h'⟩

theorem oneLine_of_isDigit {text : List Char} (h : ∀ c ∈ text, c.isDigit = true) :
    OneLine text := by
  intro c hc
  cases he : isLineEnd c with
  | false => rfl
  | true =>
    have hd := h c hc
    simp only [isLineEnd, Bool.or_eq_true, beq_iff_eq] at he
    rcases he with (((rfl | rfl) | rfl) | rfl) | rfl <;> cases hd

theorem oneLine_hexDigits {n : Nat} (h : n < 0x10000) : OneLine (Text.hexDigits 4 n) := by
  have digit : ∀ d < 16, isLineEnd (Nat.digitChar d) = false := by decide
  rw [hexDigits_four h]
  intro c hc
  simp only [List.mem_cons, List.not_mem_nil, or_false] at hc
  rcases hc with rfl | rfl | rfl | rfl <;> exact digit _ (by omega)

/-- What a code point is written as stays on the line. -/
theorem oneLine_literalPoint (point : CodePoint) : OneLine (literalPoint point) := by
  have numeric (h : point.val < 0x10000) : OneLine ('\\' :: 'u' :: Text.hexDigits 4 point.val) := by
    simp only [oneLine_cons]
    exact ⟨rfl, rfl, oneLine_hexDigits h⟩
  unfold literalPoint
  split
  · rename_i letter h
    -- The letter of an escape is one of those that are read back as an escape.
    have hs := simpleEscape?_of_escapeLetter? h
    have hl : isLineEnd letter = false := by
      cases he : isLineEnd letter with
      | false => rfl
      | true =>
        simp only [isLineEnd, Bool.or_eq_true, beq_iff_eq] at he
        rcases he with (((rfl | rfl) | rfl) | rfl) | rfl <;> cases hs
    simp only [oneLine_cons]
    exact ⟨rfl, hl, fun _ h => absurd h List.not_mem_nil⟩
  · split
    · rename_i hc
      apply numeric
      simp only [isControl, Bool.or_eq_true, decide_eq_true_eq, Bool.and_eq_true, beq_iff_eq] at hc
      omega
    · rename_i hc
      split
      · rename_i c h
        obtain rfl := ofChar_of_toChar? h
        simp only [oneLine_cons]
        exact ⟨isLineEnd_eq_false (by simpa using hc), fun _ h => absurd h List.not_mem_nil⟩
      · rename_i h
        exact numeric (lt_of_toChar?_eq_none h)

theorem oneLine_literalOfPoints (points : List CodePoint) :
    OneLine (literalOfPoints points).toList := by
  have body : OneLine (points.flatMap literalPoint) := by
    intro c hc
    obtain ⟨point, -, hp⟩ := List.mem_flatMap.1 hc
    exact oneLine_literalPoint point c hp
  rw [literalOfPoints, String.toList_ofList, List.cons_append, oneLine_cons, oneLine_append]
  exact ⟨rfl, body, by decide⟩

theorem oneLine_literal (text : String) : OneLine (literal text).toList :=
  oneLine_literalOfPoints (Text.codePoints text)

/-- Another line end changes nothing in a text that has none. -/
theorem replaceLineEnds_of_oneLine {text : List Char} (h : OneLine text) (lineEnd : List Char) :
    Text.replaceLineEnds lineEnd text = text := by
  induction text with
  | nil => rfl
  | cons c text ih =>
    obtain ⟨hc, ht⟩ := oneLine_cons.1 h
    have hn : c ≠ '\n' := by
      rintro rfl
      cases hc
    have ih := ih ht
    rw [Text.replaceLineEnds] at ih ⊢
    rw [List.flatMap_cons, if_neg hn, ih]
    rfl

/-! ## Plain statements -/

/-- Apart from its literals the expression is free of line ends. -/
def Expr.Plain : Expr → Prop
  | .literal _ | .environment _ => True
  | .var code | .given code | .joined code | .withoutLeadingEquals code => OneLine code.toList
  | .connectionString endpoint key => OneLine endpoint.toList ∧ OneLine key.toList
  | .readFirst connection _ => connection.Plain

theorem Expr.Plain.oneLine {value : Expr} (h : value.Plain) : OneLine value.code.toList := by
  induction value with
  | literal text => exact oneLine_literal text
  | var code => exact h
  | given code => exact h
  | environment variableName =>
    exact (OneLine.join (by decide) (oneLine_literal _)).join (by decide)
  | joined list =>
    exact (OneLine.join (by decide) h).join (by decide)
  | withoutLeadingEquals name =>
    exact OneLine.join h (by decide)
  | connectionString endpoint key =>
    obtain ⟨he, hk⟩ := h
    have opened : OneLine ("$\"" ++ Cosmos.Wire.endpointKey ++ "=\x7b").toList := by decide
    have between : OneLine "\x7d;".toList ∧ OneLine Cosmos.Wire.accountKey.toList ∧
        OneLine "=\x7b".toList ∧ OneLine "\x7d;\"".toList := by decide
    obtain ⟨h1, h2, h3, h4⟩ := between
    exact (((((opened.join he).join h1).join h2).join h3).join hk).join h4
  | readFirst connection query ih =>
    have hs := oneLine_literal
    refine OneLine.join ?_ (by decide)
    refine OneLine.join (OneLine.join ?_ (by decide)) (hs query.partitionKey)
    refine OneLine.join (OneLine.join ?_ (by decide)) (hs query.text)
    refine OneLine.join (OneLine.join ?_ (by decide)) (hs query.container)
    refine OneLine.join (OneLine.join ?_ (by decide)) (hs query.database)
    exact OneLine.join (by decide) (ih h)

/-- Apart from its literals the statement is free of line ends. -/
inductive Stmt.Plain : Stmt → Prop where
  | gap : Plain .gap
  | comment {text : String} : OneLine text.toList → Plain (.comment text)
  | declareList {name : String} : OneLine name.toList → Plain (.declareList name)
  | declare {typeName name : String} {value : Expr} : OneLine typeName.toList →
    OneLine name.toList → value.Plain → Plain (.declare typeName name value)
  | assign {name : String} {value : Expr} : OneLine name.toList → value.Plain →
    Plain (.assign name value)
  | add {list : String} {value : Expr} : OneLine list.toList → value.Plain → Plain (.add list value)
  | ret {value : Expr} : value.Plain → Plain (.ret value)
  | scope {body : List Stmt} : (∀ stmt ∈ body, Plain stmt) → Plain (.scope body)
  | when {condition : Condition} {body : List Stmt} : OneLine condition.code.toList →
    (∀ stmt ∈ body, Plain stmt) → Plain (.when condition body)
  | otherwise {body : List Stmt} : (∀ stmt ∈ body, Plain stmt) → Plain (.otherwise body)

theorem oneLine_indented {text : String} (h : OneLine text.toList) (level : Nat) :
    OneLine (indented level text).toList := by
  rw [indented, String.toList_append, String.toList_ofList, oneLine_append]
  refine ⟨fun c hc => ?_, h⟩
  rw [(List.mem_replicate.1 hc).2]
  rfl

theorem oneLine_braced {lines : List String} {level : Nat}
    (h : ∀ line ∈ lines, OneLine line.toList) :
    ∀ line ∈ Stmt.lines.braced level lines, OneLine line.toList := by
  intro line hm
  rw [Stmt.lines.braced, List.cons_append, List.mem_cons, List.mem_append,
    List.mem_singleton] at hm
  rcases hm with rfl | hm | rfl
  · exact oneLine_indented (by decide) level
  · exact h line hm
  · exact oneLine_indented (by decide) level

/-- The lines of plain statements are lines. -/
theorem Stmt.Plain.oneLine {stmt : Stmt} (h : stmt.Plain) (level : Nat) :
    ∀ line ∈ stmt.lines level, OneLine line.toList := by
  -- A statement of one line, and the lines of a body between braces.
  have single {text : String} (ht : OneLine text.toList) (level : Nat) :
      ∀ line ∈ [indented level text], OneLine line.toList := by
    intro line hm
    rw [List.mem_singleton.1 hm]
    exact oneLine_indented ht level
  have block {body : List Stmt}
      (ih : ∀ stmt ∈ body, ∀ level, ∀ line ∈ stmt.lines level, OneLine line.toList) (level : Nat) :
      ∀ line ∈ Stmt.lines.braced level (body.flatMap (Stmt.lines (level + 1))),
        OneLine line.toList := by
    refine oneLine_braced fun line hm => ?_
    obtain ⟨stmt, hs, hl⟩ := List.mem_flatMap.1 hm
    exact ih stmt hs (level + 1) line hl
  induction h generalizing level with
  | gap =>
    intro line hm
    rw [Stmt.lines, List.mem_singleton] at hm
    subst hm
    decide
  | comment ht =>
    rw [Stmt.lines]
    exact single (OneLine.join (by decide) ht) level
  | declareList hn =>
    rw [Stmt.lines]
    exact single ((OneLine.join (by decide) hn).join (by decide)) level
  | declare ht hn hv =>
    rw [Stmt.lines]
    have named := (OneLine.join ht (by decide : OneLine " ".toList)).join hn
    exact single (((named.join (by decide)).join hv.oneLine).join (by decide)) level
  | assign hn hv =>
    rw [Stmt.lines]
    exact single (((hn.join (by decide)).join hv.oneLine).join (by decide)) level
  | add hn hv =>
    rw [Stmt.lines]
    exact single (((hn.join (by decide)).join hv.oneLine).join (by decide)) level
  | ret hv =>
    rw [Stmt.lines]
    exact single ((OneLine.join (by decide) hv.oneLine).join (by decide)) level
  | scope _ ih =>
    rw [Stmt.lines]
    exact block ih level
  | when hc _ ih =>
    rw [Stmt.lines]
    have head := (OneLine.join (by decide : OneLine "if (".toList) hc).join
      (by decide : OneLine ")".toList)
    exact List.forall_mem_cons.2 ⟨oneLine_indented head level, block ih level⟩
  | otherwise _ ih =>
    rw [Stmt.lines]
    exact List.forall_mem_cons.2 ⟨oneLine_indented (by decide) level, block ih level⟩

/-! ## The statements of a plan -/

theorem oneLine_toString (n : Int) : OneLine (toString n).toList := by
  have digits (m : Nat) : OneLine m.repr.toList := by
    rw [Nat.repr, String.toList_ofList]
    exact oneLine_of_isDigit fun c hc => Nat.isDigit_of_mem_toDigits (by decide) (by decide) hc
  cases n with
  | ofNat m => exact digits m
  | negSucc m => exact OneLine.join (by decide) (digits m.succ)

section

variable {settings : Settings} (secret : OneLine settings.secretReference.toList)
include secret

theorem plain_readFromEnv (variableName endpoint : String) (query : Query) :
    (readFromEnv settings variableName endpoint query).Plain := by
  have key : OneLine "accountKey".toList := by decide
  have blank : OneLine (Condition.isBlank "accountKey").code.toList := by decide
  have marked : OneLine (Condition.startsWithEquals "accountKey").code.toList := by decide
  have out : OneLine blockOutputs.toList := by decide
  have trim : Stmt.Plain (.when (.startsWithEquals "accountKey")
      [.assign "accountKey" (.withoutLeadingEquals "accountKey")]) :=
    .when marked (List.forall_mem_singleton.2 (.assign key key))
  have connect : Stmt.Plain (.declare "string" "connectionString"
      (.connectionString "endpoint" "accountKey")) :=
    .declare (by decide) (by decide) ⟨by decide, key⟩
  have fallback : Stmt.Plain (.when (.isBlank "accountKey")
      [.assign "accountKey" (.given settings.secretReference)]) :=
    .when blank (List.forall_mem_singleton.2 (.assign key secret))
  have missing : Stmt.Plain (.when (.isBlank "accountKey")
      [.add blockOutputs (.literal (Message.notSet variableName))]) :=
    .when blank (List.forall_mem_singleton.2 (.add out trivial))
  have read : Stmt.Plain (.add blockOutputs (.readFirst (.var "connectionString") query)) :=
    .add out (by decide : OneLine "connectionString".toList)
  refine .scope ?_
  simp only [List.forall_mem_cons]
  refine ⟨.declare (by decide) key trivial, fallback, .gap, missing, .otherwise ?_,
    fun _ h => absurd h List.not_mem_nil⟩
  simp only [List.forall_mem_cons]
  exact ⟨trim, .gap, .declare (by decide) (by decide) trivial, connect, read,
    fun _ h => absurd h List.not_mem_nil⟩

theorem plain_operationStmt {operation : Operation} {stmt : Stmt}
    (h : operationStmt settings operation = .ok stmt) : stmt.Plain := by
  have out : OneLine blockOutputs.toList := by decide
  cases operation with
  | emitText text =>
    cases h
    exact .add out trivial
  | readFirstItem connection query =>
    cases h
    exact .add out trivial
  | readFirstItemFromEnv variableName endpoint query =>
    cases h
    exact plain_readFromEnv secret variableName endpoint query
  | unsupported kind => cases h

theorem plain_blockStmts {block : BlockPlan} {stmts : List Stmt}
    (h : blockStmts settings block = .ok stmts) : ∀ stmt ∈ stmts, stmt.Plain := by
  have out : OneLine blockOutputs.toList := by decide
  rw [blockStmts] at h
  cases hm : block.operations.mapM (operationStmt settings) with
  | error report =>
    rw [hm] at h
    cases h
  | ok steps =>
    rw [hm] at h
    cases h
    have label : OneLine ("block " ++ toString block.index).toList :=
      OneLine.join (by decide) (oneLine_toString block.index)
    refine List.forall_mem_cons.2 ⟨.comment label, List.forall_mem_singleton.2 (.scope ?_)⟩
    intro stmt hs
    rw [List.mem_append, List.mem_append, List.mem_singleton, List.mem_singleton] at hs
    rcases hs with (rfl | hs) | rfl
    · exact .declareList out
    · obtain ⟨operation, -, ho⟩ := mem_of_mapM_ok hm hs
      exact plain_operationStmt secret ho
    · exact .add (by decide) out

theorem plain_bodyStmts {plan : Plan} {stmts : List Stmt}
    (h : bodyStmts settings plan = .ok stmts) : ∀ stmt ∈ stmts, stmt.Plain := by
  have all : OneLine outputs.toList := by decide
  have empty : OneLine (Condition.isEmptyList outputs).code.toList := by decide
  rw [bodyStmts] at h
  cases hm : plan.blocks.mapM (blockStmts settings) with
  | error report =>
    rw [hm] at h
    cases h
  | ok blocks =>
    rw [hm] at h
    cases h
    intro stmt hs
    rw [List.mem_append, List.mem_append, List.mem_singleton] at hs
    rcases hs with (rfl | hs) | hs
    · exact .declareList all
    · obtain ⟨body, hb, hs⟩ := List.mem_flatten.1 hs
      obtain ⟨block, -, hp⟩ := mem_of_mapM_ok hm hb
      exact plain_blockStmts secret hp stmt hs
    · have nothing : Stmt.Plain (.when (.isEmptyList outputs)
          [.ret (.literal settings.noOutputMessage)]) :=
        .when empty (List.forall_mem_singleton.2 (.ret trivial))
      have ending : ∀ stmt ∈ [Stmt.gap, .when (.isEmptyList outputs)
          [.ret (.literal settings.noOutputMessage)], .gap, .ret (.joined outputs)],
          stmt.Plain := by
        simp only [List.forall_mem_cons]
        exact ⟨.gap, nothing, .gap, .ret all, fun _ h => absurd h List.not_mem_nil⟩
      exact ending stmt hs

/-- The lines of the generated method are lines, whatever the texts of the plan are. -/
theorem oneLine_bodyLines {plan : Plan} {lines : List String}
    (h : bodyLines settings plan = .ok lines) : ∀ line ∈ lines, OneLine line.toList := by
  rw [bodyLines] at h
  cases hb : bodyStmts settings plan with
  | error report =>
    rw [hb] at h
    cases h
  | ok stmts =>
    rw [hb] at h
    cases h
    intro line hl
    obtain ⟨stmt, hs, hl⟩ := List.mem_flatMap.1 hl
    exact (plain_bodyStmts secret hb stmt hs).oneLine 2 line hl

end

/-! ## The file -/

/-- Lines, each with a line end behind it. -/
def endedBy (lineEnd : List Char) (lines : List String) : List Char :=
  lines.flatMap fun line => line.toList ++ lineEnd

theorem endedBy_append (lineEnd : List Char) (lines more : List String) :
    endedBy lineEnd (lines ++ more) = endedBy lineEnd lines ++ endedBy lineEnd more :=
  List.flatMap_append

theorem toList_intercalate_lineFeed (lines : List String) :
    ("".intercalate (lines.map (· ++ "\n"))).toList = endedBy ['\n'] lines := by
  rw [String.toList_intercalate]
  induction lines with
  | nil => rfl
  | cons line lines ih =>
    cases lines with
    | nil => simp [endedBy]
    | cons next lines =>
      simp only [List.map_cons, List.intercalate_cons_cons, endedBy, List.flatMap_cons] at ih ⊢
      rw [ih]
      simp

theorem replaceLineEnds_append (lineEnd text more : List Char) :
    Text.replaceLineEnds lineEnd (text ++ more) =
      Text.replaceLineEnds lineEnd text ++ Text.replaceLineEnds lineEnd more :=
  List.flatMap_append

/-- Another line end for the file is another line end for its lines. -/
theorem replaceLineEnds_endedBy {lines : List String} (h : ∀ line ∈ lines, OneLine line.toList)
    (lineEnd : List Char) :
    Text.replaceLineEnds lineEnd (endedBy ['\n'] lines) = endedBy lineEnd lines := by
  induction lines with
  | nil => rfl
  | cons line lines ih =>
    obtain ⟨hl, hr⟩ := List.forall_mem_cons.1 h
    have ih := ih hr
    have last : Text.replaceLineEnds lineEnd ['\n'] = lineEnd := by
      simp [Text.replaceLineEnds]
    rw [endedBy] at ih
    rw [endedBy, List.flatMap_cons, replaceLineEnds_append, replaceLineEnds_append,
      replaceLineEnds_of_oneLine hl, last, ih]
    rfl

/-- The lines of the method stand in the file as they are, between a heading and an ending that no
step of the plan has a part in. -/
theorem moduleText_eq {settings : Settings} (secret : OneLine settings.secretReference.toList)
    (sourceName : String) :
    ∃ heading ending : List Char, ∀ blocks lines, bodyLines settings ⟨sourceName, blocks⟩ = .ok lines →
      moduleText settings ⟨sourceName, blocks⟩ =
        .ok (String.ofList (heading ++ endedBy settings.newline.toList lines ++ ending)) := by
  have split : ∃ before after : List String, ∀ body,
      fileLines settings sourceName body = before ++ body ++ after :=
    ⟨_, _, fun body => by rw [fileLines, List.append_assoc (_ ++ body), List.append_assoc (_ ++ body)]⟩
  obtain ⟨before, after, hf⟩ := split
  refine ⟨Text.replaceLineEnds settings.newline.toList (endedBy ['\n'] before),
    Text.replaceLineEnds settings.newline.toList (endedBy ['\n'] after), ?_⟩
  intro blocks lines hl
  have inner := replaceLineEnds_endedBy (oneLine_bodyLines secret hl) settings.newline.toList
  rw [moduleText, hl]
  simp only [bind, Except.bind, pure, Except.pure, hf, toList_intercalate_lineFeed, endedBy_append,
    replaceLineEnds_append, inner]

/-- The literal of any code points, surrogates included, is read as their UTF-16 code units, and what
follows it is left as it is. It holds no line end, so no replacement of line ends changes it; and in
the file of a plan every line of the method is one line, in the place and with the text that it was
generated with. -/
theorem literalOfPoints_isolated (points : List CodePoint) (rest : List Char) :
    lexString? ((literalOfPoints points).toList ++ rest) = some (points.flatMap unitsOf, rest) ∧
    OneLine (literalOfPoints points).toList ∧
    (∀ lineEnd, Text.replaceLineEnds lineEnd (literalOfPoints points).toList =
      (literalOfPoints points).toList) ∧
    ∀ settings : Settings, OneLine settings.secretReference.toList → ∀ sourceName,
      ∃ heading ending : List Char, ∀ blocks lines,
        bodyLines settings ⟨sourceName, blocks⟩ = .ok lines →
          (∀ line ∈ lines, OneLine line.toList) ∧
          moduleText settings ⟨sourceName, blocks⟩ =
            .ok (String.ofList (heading ++ endedBy settings.newline.toList lines ++ ending)) := by
  have line := oneLine_literalOfPoints points
  refine ⟨lexString?_append points rest, line, replaceLineEnds_of_oneLine line, ?_⟩
  intro settings secret sourceName
  obtain ⟨heading, ending, hm⟩ := moduleText_eq secret sourceName
  refine ⟨heading, ending, fun blocks lines hl => ?_⟩
  exact ⟨oneLine_bodyLines secret hl, hm blocks lines hl⟩

/-- A quote, a zero in front of a digit, half of a surrogate pair and a line separator; and a plan
with line ends and a quote in a text, in a file with line ends of two characters. -/
theorem literalOfPoints_isolated_hardTexts :
    lexString? ((literalOfPoints [0x22, 0x00, 0x37, 0xD83D, 0x2028]).toList ++ ['"', ';']) =
      some ([0x22, 0x00, 0x37, 0xD83D, 0x2028], ['"', ';']) ∧
    ∃ lines heading ending,
      bodyLines { newline := "\r\n" } ⟨"page", [⟨0, [.emitText "\r\n\"); //"]⟩]⟩ = .ok lines ∧
      moduleText { newline := "\r\n" } ⟨"page", [⟨0, [.emitText "\r\n\"); //"]⟩]⟩ =
        .ok (String.ofList (heading ++ endedBy ['\r', '\n'] lines ++ ending)) := by
  have h := literalOfPoints_isolated [0x22, 0x00, 0x37, 0xD83D, 0x2028] ['"', ';']
  refine ⟨h.1, ?_⟩
  obtain ⟨heading, ending, hm⟩ := h.2.2.2 { newline := "\r\n" } (by decide) "page"
  exact ⟨_, heading, ending, rfl, (hm [⟨0, [.emitText "\r\n\"); //"]⟩] _ rfl).2⟩

end PageScript.CSharp
