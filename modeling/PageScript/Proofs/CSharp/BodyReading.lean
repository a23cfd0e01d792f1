import PageScript.CSharp.Body
import PageScript.Proofs.CSharp.Meaning

/-!
# The lines of a plan, read back

The lines generated for a plan read back as the statements they are meant to be: `Reads lines nodes`
says that the reader gets from the lines to the nodes wherever they stand, and there is one lemma of
that form for each statement a plan needs. `body?_bodyLines` puts them together for every plan whose
steps can all be printed, and `bodyLines_error` says what happens to the other ones. The strings of
the plan are arbitrary, and so is the expression for the secret of the build, which reads as whatever
it is (`term`).
-/

namespace PageScript.CSharp.Source

/-! ## Words at the start and the end of a text -/

theorem behind?_append (word : String) (rest : List Char) :
    behind? word (word.toList ++ rest) = some rest := by
  simp [behind?]

theorem before?_append (word : String) (text : List Char) :
    before? word (text ++ word.toList) = some text := by
  simp [before?]

/-- A path runs to the first character that belongs to none. -/
theorem path?_append {name : String} {c : Char} (hn : name.toList.all isPathChar = true)
    (he : name ≠ "") (hc : isPathChar c = false) (rest : List Char) :
    path? (name.toList ++ c :: rest) = some (name, c :: rest) := by
  have all : ∀ d ∈ name.toList, isPathChar d = true := by simpa using hn
  have ht : (name.toList ++ c :: rest).takeWhile isPathChar = name.toList := by
    rw [List.takeWhile_append_of_pos all]
    simp [hc]
  have hd : (name.toList ++ c :: rest).dropWhile isPathChar = c :: rest := by
    rw [List.dropWhile_append_of_pos all]
    simp [hc]
  have hne : name.toList.isEmpty = false := by
    simpa using he
  simp [path?, ht, hd, hne]

/-! ## Expressions -/

theorem atom?_literal (text : String) (rest : List Char) :
    atom? ((literal text).toList ++ rest) = some (.text text, rest) := by
  have h := literal?_append text rest
  simp only [literal, literalOfPoints, String.toList_ofList, List.cons_append] at h ⊢
  simp only [atom?, h, Option.map_some]

theorem term_literal (text : String) : term (literal text).toList = .atom (.text text) := by
  have h := atom?_literal text []
  rw [List.append_nil] at h
  simp only [term, h]

theorem path?_literal (text : String) (rest : List Char) :
    path? ((literal text).toList ++ rest) = none := by
  simp only [literal, literalOfPoints, String.toList_ofList, List.cons_append]
  rfl

theorem argument?_literal (text : String) (rest : List Char) :
    argument? ((literal text).toList ++ rest) = some (⟨none, .text text⟩, rest) := by
  simp only [argument?, path?_literal, atom?_literal, Option.map_some]

theorem argument?_labelled {label : String} {value : Atom} {text rest : List Char}
    (hl : label.toList.all isPathChar = true) (he : label ≠ "") (h : atom? text = some (value, rest)) :
    argument? (label.toList ++ ':' :: ' ' :: text) = some (⟨some label, value⟩, rest) := by
  simp only [argument?, path?_append hl he (c := ':') rfl, h, Option.map_some]

theorem arguments?_last {text : List Char} {argument : Argument}
    (h : argument? text = some (argument, [')'])) : arguments? text = some [argument] := by
  rw [arguments?, h]
  rfl

theorem arguments?_cons {text rest : List Char} {argument : Argument}
    (h : argument? text = some (argument, ',' :: ' ' :: rest)) (hl : rest.length < text.length) :
    arguments? text = (arguments? rest).map (argument :: ·) := by
  rw [arguments?, h]
  exact if_pos hl

theorem atom?_path {name : String} {c : Char} (hn : name.toList.all isPathChar = true)
    (he : name ≠ "") (hc : isPathChar c = false) (rest : List Char) :
    atom? (name.toList ++ c :: rest) = some (.path name, c :: rest) := by
  have hp := path?_append hn he hc rest
  -- The first character of a path starts no literal.
  have head {d : Char} {t : List Char} (h : name.toList ++ c :: rest = d :: t) :
      isPathChar d = true := by
    cases hl : name.toList with
    | nil => exact absurd (String.toList_eq_nil_iff.1 hl) he
    | cons e l =>
      rw [hl, List.cons_append] at h
      rw [hl, List.all_cons, Bool.and_eq_true] at hn
      exact (List.cons.inj h).1 ▸ hn.1
  unfold atom?
  split
  · rename_i h
    exact absurd (head h) (by decide)
  · rename_i h
    exact absurd (head h) (by decide)
  · rename_i h
    exact absurd (head h) (by decide)
  · rw [hp]
    rfl

theorem argument?_path {name : String} {c : Char} (hn : name.toList.all isPathChar = true)
    (he : name ≠ "") (hc : isPathChar c = false) (hl : c ≠ ':') (rest : List Char) :
    argument? (name.toList ++ c :: rest) = some (⟨none, .path name⟩, c :: rest) := by
  unfold argument?
  split
  · rename_i h
    rw [path?_append hn he hc] at h
    cases h
    exact absurd rfl hl
  · rw [atom?_path hn he hc]
    rfl

theorem call?_append {method : String} {text : List Char} {arguments : List Argument}
    (hm : method.toList.all isPathChar = true) (he : method ≠ "") (ht : text ≠ [')'])
    (h : arguments? text = some arguments) :
    call? (method.toList ++ '(' :: text) = some (method, arguments) := by
  have hp := path?_append hm he (c := '(') rfl text
  unfold call?
  split
  · rename_i hs
    rw [hp] at hs
    simp only [Option.some.injEq, Prod.mk.injEq, List.cons.injEq, true_and] at hs
    exact absurd hs.2 ht
  · rename_i hs
    rw [hp] at hs
    simp only [Option.some.injEq, Prod.mk.injEq, List.cons.injEq, true_and] at hs
    rw [← hs.1, ← hs.2, h]
    rfl
  · rename_i hs
    exact absurd hp (hs _ _)

/-- A call with at least one character between its brackets. -/
theorem term_call {method : String} {text : List Char} {arguments : List Argument}
    (hm : method.toList.all isPathChar = true) (he : method ≠ "") (ht : text ≠ [')'])
    (hw : behind? "await " (method.toList ++ '(' :: text) = none)
    (h : arguments? text = some arguments) :
    term (method.toList ++ '(' :: text) = .call false method arguments := by
  simp only [term, atom?_path hm he (c := '(') rfl, hw, call?_append hm he ht h]

theorem term_await {text : List Char} {method : String} {arguments : List Argument}
    (h : call? text = some (method, arguments)) :
    term ("await ".toList ++ text) = .call true method arguments := by
  have ha : atom? ("await ".toList ++ text) = some (.path "await", ' ' :: text) :=
    @atom?_path "await" ' ' rfl (by decide) rfl text
  simp only [term, ha, behind?_append, h]

/-- The call of the helper routine for a query, on the connection that `connection` denotes. -/
def helperTerm (connection : Atom) (query : Query) : Term :=
  .call true helperMethod
    [⟨some "connectionString", connection⟩, ⟨some "databaseName", .text query.database⟩,
      ⟨some "containerName", .text query.container⟩, ⟨some "query", .text query.text⟩,
      ⟨some "partitionKey", .text query.partitionKey⟩]

theorem arguments?_labelled {label : String} {value : Atom} {text more : List Char}
    {arguments : List Argument} (hl : label.toList.all isPathChar = true) (he : label ≠ "")
    (ha : atom? (text ++ ',' :: ' ' :: more) = some (value, ',' :: ' ' :: more))
    (h : arguments? more = some arguments) :
    arguments? (label.toList ++ ':' :: ' ' :: (text ++ ',' :: ' ' :: more)) =
      some (⟨some label, value⟩ :: arguments) := by
  rw [arguments?_cons (argument?_labelled hl he ha), h, Option.map_some]
  simp only [List.length_append, List.length_cons]
  omega

theorem code_readFirst (connection : Expr) (query : Query) :
    (Expr.readFirst connection query).code =
      "await " ++ helperMethod ++ "(connectionString: " ++ connection.code ++
        ", databaseName: " ++ literal query.database ++
        ", containerName: " ++ literal query.container ++
        ", query: " ++ literal query.text ++
        ", partitionKey: " ++ literal query.partitionKey ++ ")" := rfl

theorem term_readFirst {connection : Expr} {value : Atom} (query : Query)
    (h : ∀ rest, atom? (connection.code.toList ++ ',' :: rest) = some (value, ',' :: rest)) :
    term (Expr.readFirst connection query).code.toList = helperTerm value query := by
  have h5 := arguments?_last
    (@argument?_labelled "partitionKey" _ _ _ rfl (by decide) (atom?_literal query.partitionKey [')']))
  have h4 := @arguments?_labelled "query" _ _ _ _ rfl (by decide) (atom?_literal query.text _) h5
  have h3 := @arguments?_labelled "containerName" _ _ _ _ rfl (by decide)
    (atom?_literal query.container _) h4
  have h2 := @arguments?_labelled "databaseName" _ _ _ _ rfl (by decide)
    (atom?_literal query.database _) h3
  have h1 := @arguments?_labelled "connectionString" _ _ _ _ rfl (by decide) (h _) h2
  have hc := term_await (@call?_append helperMethod _ _ rfl (by decide) (by simp) h1)
  refine (congrArg term ?_).trans hc
  simp [code_readFirst]

theorem code_environment (variableName : String) :
    (Expr.environment variableName).code =
      "Environment.GetEnvironmentVariable(" ++ literal variableName ++ ")" := rfl

theorem term_environment (variableName : String) :
    term (Expr.environment variableName).code.toList =
      .call false "Environment.GetEnvironmentVariable" [⟨none, .text variableName⟩] := by
  have ha := arguments?_last (argument?_literal variableName [')'])
  have ht : (literal variableName).toList ++ [')'] ≠ [')'] := by
    simp [literal, literalOfPoints]
  have hc := @term_call "Environment.GetEnvironmentVariable" _ _ rfl (by decide) ht rfl ha
  refine (congrArg term ?_).trans hc
  simp [code_environment]

/-! ## Lines -/

theorem line_indented {text : String} (level : Nat) (h : text.toList.head? ≠ some ' ') :
    line (indented level text) = lineOf text.toList := by
  have blanks : ∀ d ∈ List.replicate (4 * level) ' ', (d == ' ') = true := by
    intro d hd
    simp [List.eq_of_mem_replicate hd]
  rw [line, indented, String.toList_append, String.toList_ofList, List.dropWhile_append_of_pos blanks]
  cases hl : text.toList with
  | nil => rfl
  | cons c rest =>
    rw [hl, List.head?_cons, ne_eq, Option.some.injEq] at h
    rw [List.dropWhile_cons_of_neg (by simpa using h)]

/-- The characters with which no statement in one line starts. -/
def isHeadChar (c : Char) : Bool :=
  c == ' ' || c == '/' || c == '\x7b' || c == '\x7d' || c == 'e' || c == 'i'

theorem lineOf_action {c : Char} {code : List Char} {action : Action} (hc : isHeadChar c = false)
    (h : action? (c :: code) = some action) : lineOf (c :: code ++ [';']) = .action action := by
  simp only [isHeadChar, Bool.or_eq_false_iff, beq_eq_false_iff_ne, ne_eq] at hc
  obtain ⟨⟨⟨⟨⟨-, hslash⟩, hopen⟩, hclose⟩, he⟩, hi⟩ := hc
  have hb : before? ";" (c :: code ++ [';']) = some (c :: code) := before?_append ";" (c :: code)
  have hif : behind? "if (" (c :: code ++ [';']) = none := by
    simp [behind?, List.isPrefixOf, Ne.symm hi]
  have hcomment : "//".toList.isPrefixOf (c :: code ++ [';']) = false := by
    simp [List.isPrefixOf, Ne.symm hslash]
  have h1 : c :: code ++ [';'] ≠ "\x7b".toList := fun e => hopen (List.cons.inj e).1
  have h2 : c :: code ++ [';'] ≠ "\x7d".toList := fun e => hclose (List.cons.inj e).1
  have h3 : c :: code ++ [';'] ≠ "else".toList := fun e => he (List.cons.inj e).1
  unfold lineOf
  rw [hcomment, if_neg (by simp), if_neg h1, if_neg h2, if_neg h3, hif, hb]
  simp only [Option.bind_some, h]

/-- A statement in one line, at any level. -/
theorem line_action {c : Char} {text : String} {code : List Char} {action : Action} (level : Nat)
    (ht : text.toList = c :: code ++ [';']) (hc : isHeadChar c = false)
    (h : action? (c :: code) = some action) : line (indented level text) = .action action := by
  have hb : text.toList.head? ≠ some ' ' := by
    rw [ht]
    intro e
    cases e
    cases hc
  rw [line_indented level hb, ht]
  exact lineOf_action hc h

theorem action?_ret (value : List Char) :
    action? ("return ".toList ++ value) = some (.ret (term value)) := by
  rw [action?, behind?_append]

theorem equation?_append {name : String} (hn : name.toList.all isPathChar = true) (he : name ≠ "")
    (value : List Char) :
    equation? (name.toList ++ (" = ".toList ++ value)) = some (name, term value) := by
  have hp : path? (name.toList ++ (" = ".toList ++ value)) = some (name, " = ".toList ++ value) :=
    path?_append hn he (c := ' ') rfl _
  simp only [equation?, hp, behind?_append, Option.map_some]

/-- A statement that starts with no keyword. -/
structure Plain (code : List Char) : Prop where
  ret : behind? "return " code = none
  var : behind? "var " code = none
  string : behind? "string " code = none
  nullable : behind? "string? " code = none

/-- A name with which a statement can start. -/
structure IsName (name : String) : Prop where
  chars : name.toList.all isPathChar = true
  head : ∃ c rest, name.toList = c :: rest ∧ isHeadChar c = false
  plain : ∀ text, Plain (name.toList ++ text)

theorem IsName.ne_empty {name : String} (h : IsName name) : name ≠ "" := by
  obtain ⟨c, rest, hr, _⟩ := h.head
  rintro rfl
  cases hr

theorem isName_outputs : IsName outputs :=
  ⟨rfl, ⟨'o', _, rfl, rfl⟩, fun _ => ⟨rfl, rfl, rfl, rfl⟩⟩

theorem isName_blockOutputs : IsName blockOutputs :=
  ⟨rfl, ⟨'b', _, rfl, rfl⟩, fun _ => ⟨rfl, rfl, rfl, rfl⟩⟩

theorem isName_accountKey : IsName "accountKey" :=
  ⟨rfl, ⟨'a', _, rfl, rfl⟩, fun _ => ⟨rfl, rfl, rfl, rfl⟩⟩

theorem action?_assign {name : String} (h : IsName name) (value : List Char) :
    action? (name.toList ++ (" = ".toList ++ value)) = some (.assign name (term value)) := by
  have plain := h.plain (" = ".toList ++ value)
  have hp : path? (name.toList ++ (" = ".toList ++ value)) = some (name, ' ' :: ("= ".toList ++ value)) :=
    path?_append h.chars h.ne_empty (c := ' ') rfl _
  simp only [action?, plain.ret, plain.var, plain.string, plain.nullable, Option.or_none, hp,
    equation?_append h.chars h.ne_empty, Option.map_some]
  rfl

theorem action?_declare {name : String} {value : List Char} (hn : name.toList.all isPathChar = true)
    (he : name ≠ "") :
    action? ("string ".toList ++ (name.toList ++ (" = ".toList ++ value))) =
      some (.declare name (term value)) := by
  have hr : behind? "return " ("string ".toList ++ (name.toList ++ (" = ".toList ++ value))) = none :=
    rfl
  have hv : behind? "var " ("string ".toList ++ (name.toList ++ (" = ".toList ++ value))) = none := rfl
  simp only [action?, hr, hv, behind?_append, Option.some_or, equation?_append hn he, Option.map_some]

theorem action?_declareNullable {name : String} {value : List Char}
    (hn : name.toList.all isPathChar = true) (he : name ≠ "") :
    action? ("string? ".toList ++ (name.toList ++ (" = ".toList ++ value))) =
      some (.declare name (term value)) := by
  have hr : behind? "return " ("string? ".toList ++ (name.toList ++ (" = ".toList ++ value))) = none :=
    rfl
  have hv : behind? "var " ("string? ".toList ++ (name.toList ++ (" = ".toList ++ value))) = none := rfl
  have hs : behind? "string " ("string? ".toList ++ (name.toList ++ (" = ".toList ++ value))) = none :=
    rfl
  simp only [action?, hr, hv, hs, behind?_append, Option.none_or, equation?_append hn he,
    Option.map_some]

theorem action?_add {list : String} (h : IsName list) (value : List Char) :
    action? (list.toList ++ (".Add(".toList ++ (value ++ [')']))) = some (.add list (term value)) := by
  have plain := h.plain (".Add(".toList ++ (value ++ [')']))
  have hm : (list ++ ".Add").toList.all isPathChar = true := by
    rw [String.toList_append, List.all_append, h.chars]
    rfl
  have hp : path? (list.toList ++ (".Add(".toList ++ (value ++ [')']))) =
      some (list ++ ".Add", '(' :: (value ++ [')'])) := by
    rw [← path?_append hm (by simp) (c := '(') rfl, String.toList_append, List.append_assoc]
    rfl
  have hl : before? ".Add" (list ++ ".Add").toList = some list.toList := by
    rw [String.toList_append, before?_append]
  have hv : before? ")" (value ++ [')']) = some value := before?_append ")" value
  simp only [action?, plain.ret, plain.var, plain.string, plain.nullable, Option.or_none, hp, hl, hv,
    Option.bind_eq_bind, Option.bind_some, Option.pure_def, String.ofList_toList]

/-! ## Statements -/

/-- Wherever the lines stand, the reader gets from them to the statements `read`. -/
def Reads (lines : List String) (read : List Node) : Prop :=
  ∀ opened done rest,
    nodes? opened done (lines.map line ++ rest) = nodes? opened (read.reverse ++ done) rest

theorem Reads.nil : Reads [] [] := fun _ _ _ => rfl

theorem Reads.append {lines more : List String} {read others : List Node} (h : Reads lines read)
    (h' : Reads more others) : Reads (lines ++ more) (read ++ others) := by
  intro opened done rest
  rw [List.map_append, List.append_assoc, h, h', List.reverse_append, List.append_assoc]

theorem reads_blank {text : String} (h : line text = .blank) : Reads [text] [] := by
  intro opened done rest
  simp only [List.map_cons, List.map_nil, h, List.cons_append, List.nil_append, nodes?,
    List.reverse_nil]

theorem reads_action {text : String} {action : Action} (h : line text = .action action) :
    Reads [text] [.action action] := by
  intro opened done rest
  simp only [List.map_cons, List.map_nil, h, List.cons_append, List.nil_append, nodes?,
    List.reverse_singleton]

theorem line_opening (level : Nat) : line (indented level "\x7b") = .opening :=
  line_indented level (by decide)

theorem line_closing (level : Nat) : line (indented level "\x7d") = .closing :=
  line_indented level (by decide)

theorem reads_scope {lines : List String} {read : List Node} (level : Nat) (h : Reads lines read) :
    Reads (Stmt.lines.braced level lines) [.scope read] := by
  intro opened done rest
  have hr := h ((.scope, done) :: opened) [] (.closing :: rest)
  simp only [Stmt.lines.braced, List.map_cons, List.map_append, List.map_nil, line_opening,
    line_closing, List.cons_append, List.append_assoc, List.nil_append, nodes?, hr, List.append_nil,
    List.reverse_reverse, Opener.close, List.reverse_singleton]

theorem reads_when {head : String} {test : Test} {lines : List String} {read : List Node}
    (level : Nat) (hh : line head = .whenHead test) (h : Reads lines read) :
    Reads (head :: Stmt.lines.braced level lines) [.when test read] := by
  intro opened done rest
  have hr := h ((.yes test, done) :: opened) [] (.closing :: rest)
  simp only [Stmt.lines.braced, List.map_cons, List.map_append, List.map_nil, line_opening, hh,
    line_closing, List.cons_append, List.append_assoc, List.nil_append, nodes?, hr, List.append_nil,
    List.reverse_reverse, Opener.close, List.reverse_singleton]

theorem reads_whenElse {head other : String} {test : Test} {lines more : List String}
    {read others : List Node} (level : Nat) (hh : line head = .whenHead test)
    (ho : line other = .elseHead) (h : Reads lines read) (h' : Reads more others) :
    Reads (head :: Stmt.lines.braced level lines ++ other :: Stmt.lines.braced level more)
      [.whenElse test read others] := by
  intro opened done rest
  have hr := h ((.yes test, done) :: opened) [] (.closing :: .elseHead :: .opening ::
    (more.map line ++ .closing :: rest))
  have hr' := h' ((.no test read, done) :: opened) [] (.closing :: rest)
  simp only [Stmt.lines.braced, List.map_cons, List.map_append, List.map_nil, line_opening, hh, ho,
    line_closing, List.cons_append, List.append_assoc, List.nil_append, nodes?, hr, hr',
    List.append_nil, List.reverse_reverse, Opener.close, List.reverse_singleton]

/-! ## Plans -/

theorem reads_add {list : String} (h : IsName list) (level : Nat) (value : Expr) :
    Reads (Stmt.lines level (.add list value)) [.action (.add list (term value.code.toList))] := by
  obtain ⟨c, rest, hr, hc⟩ := h.head
  have ha := action?_add h value.code.toList
  rw [hr] at ha
  rw [Stmt.lines]
  refine reads_action (line_action level ?_ hc ha)
  simp [hr]

theorem reads_assign {name : String} (h : IsName name) (level : Nat) (value : Expr) :
    Reads (Stmt.lines level (.assign name value)) [.action (.assign name (term value.code.toList))] := by
  obtain ⟨c, rest, hr, hc⟩ := h.head
  have ha := action?_assign h value.code.toList
  rw [hr] at ha
  rw [Stmt.lines]
  refine reads_action (line_action level ?_ hc ha)
  simp [hr]

theorem reads_ret (level : Nat) (value : Expr) :
    Reads (Stmt.lines level (.ret value)) [.action (.ret (term value.code.toList))] := by
  rw [Stmt.lines]
  refine reads_action (@line_action 'r' _ ("eturn ".toList ++ value.code.toList) _ level ?_ rfl ?_)
  · simp
  · exact action?_ret value.code.toList

theorem reads_declareKey (level : Nat) (value : Expr) :
    Reads (Stmt.lines level (.declare "string?" "accountKey" value))
      [.action (.declare "accountKey" (term value.code.toList))] := by
  rw [Stmt.lines]
  refine reads_action (@line_action 's' _ ("tring? accountKey = ".toList ++ value.code.toList) _ level
    ?_ rfl ?_)
  · simp
  · exact @action?_declareNullable "accountKey" _ rfl (by decide)

theorem reads_declare {name : String} (level : Nat) (value : Expr)
    (hn : name.toList.all isPathChar = true) (he : name ≠ "") :
    Reads (Stmt.lines level (.declare "string" name value))
      [.action (.declare name (term value.code.toList))] := by
  rw [Stmt.lines]
  refine reads_action (@line_action 's' _
    ("tring ".toList ++ (name.toList ++ (" = ".toList ++ value.code.toList))) _ level ?_ rfl ?_)
  · simp
  · exact action?_declare hn he

theorem reads_declareList {name : String} (level : Nat) (hn : name.toList.all isPathChar = true)
    (he : name ≠ "") : Reads (Stmt.lines level (.declareList name)) [.action (.newList name)] := by
  have hp : path? (name.toList ++ " = new List<string>()".toList) =
      some (name, " = new List<string>()".toList) := path?_append hn he (c := ' ') rfl _
  have ha : action? ("var ".toList ++ (name.toList ++ " = new List<string>()".toList)) =
      some (.newList name) := by
    have hr : behind? "return " ("var ".toList ++ (name.toList ++ " = new List<string>()".toList)) = none :=
      rfl
    simp only [action?, hr, behind?_append, hp, if_true]
  rw [Stmt.lines]
  refine reads_action (@line_action 'v' _ ("ar ".toList ++ (name.toList ++ " = new List<string>()".toList))
    _ level ?_ rfl ha)
  simp

theorem reads_gap (level : Nat) : Reads (Stmt.lines level .gap) [] := by
  rw [Stmt.lines]
  exact reads_blank rfl

theorem reads_comment (level : Nat) (text : String) : Reads (Stmt.lines level (.comment text)) [] := by
  rw [Stmt.lines]
  refine reads_blank ?_
  rw [line_indented level (by simp), String.toList_append]
  rfl

/-! ## Conditions -/

theorem test?_call {method : String} {text : List Char} {arguments : List Argument}
    (hm : method.toList.all isPathChar = true) (he : method ≠ "") (ht : text ≠ [')'])
    (h : arguments? text = some arguments) :
    test? (method.toList ++ '(' :: text) = some (.call method arguments) := by
  simp only [test?, path?_append hm he (c := '(') rfl, call?_append hm he ht h, Option.map_some]
  rfl

theorem line_when {condition : Condition} {test : Test} (level : Nat)
    (h : test? condition.code.toList = some test) :
    line (indented level ("if (" ++ condition.code ++ ")")) = .whenHead test := by
  have ht : ("if (" ++ condition.code ++ ")").toList = "if (".toList ++ (condition.code.toList ++ [')']) := by
    simp
  have hb : before? ")" (condition.code.toList ++ [')']) = some condition.code.toList :=
    before?_append ")" condition.code.toList
  have hi : behind? "if (" ("if (".toList ++ (condition.code.toList ++ [')'])) =
      some (condition.code.toList ++ [')']) := behind?_append "if (" _
  rw [line_indented level (by simp), ht]
  unfold lineOf
  rw [hi]
  simp only [hb, Option.bind_some, h]
  rfl

/-- The account key is null or blank. -/
def keyBlank : Test := .call "string.IsNullOrWhiteSpace" [⟨none, .path "accountKey"⟩]

/-- The account key starts with an equals sign. -/
def keyMarked : Test := .call "accountKey.StartsWith" [⟨none, .text "="⟩]

theorem test?_isBlank : test? (Condition.isBlank "accountKey").code.toList = some keyBlank :=
  @test?_call "string.IsNullOrWhiteSpace" "accountKey)".toList _ rfl (by decide) (by decide)
    (arguments?_last (@argument?_path "accountKey" ')' rfl (by decide) rfl (by decide) []))

theorem test?_startsWithEquals :
    test? (Condition.startsWithEquals "accountKey").code.toList = some keyMarked :=
  @test?_call "accountKey.StartsWith" "\"=\")".toList _ rfl (by decide) (by decide)
    (arguments?_last (argument?_literal "=" [')']))

theorem test?_isEmptyList :
    test? (Condition.isEmptyList outputs).code.toList = some (.equals "outputs.Count" 0) := by
  rfl

theorem line_else (level : Nat) : line (indented level "else") = .elseHead :=
  line_indented level (by decide)

/-- The connection string of the address and the account key. -/
def connectionParts : List Part :=
  "AccountEndpoint=".toList.map .char ++ [.hole "endpoint"] ++ ";AccountKey=".toList.map .char ++
    [.hole "accountKey", .char ';']

theorem term_connectionString :
    term (Expr.connectionString "endpoint" "accountKey").code.toList =
      .atom (.interpolated connectionParts) := by
  rfl

theorem term_trimmedKey :
    term (Expr.withoutLeadingEquals "accountKey").code.toList =
      .call false "accountKey.TrimStart" [⟨none, .char '='⟩] :=
  @term_call "accountKey.TrimStart" "'=')".toList _ rfl (by decide) (by decide) rfl
    (arguments?_last rfl)

/-- The items of a list, joined by line ends. -/
def joinTerm (list : String) : Term :=
  .call false "string.Join" [⟨none, .path "Environment.NewLine"⟩, ⟨none, .path list⟩]

theorem code_joined (list : String) :
    (Expr.joined list).code = "string.Join(Environment.NewLine, " ++ list ++ ")" := rfl

theorem term_joined {list : String} (hl : list.toList.all isPathChar = true) (he : list ≠ "") :
    term (Expr.joined list).code.toList = joinTerm list := by
  have h2 := arguments?_last (@argument?_path list ')' hl he rfl (by decide) [])
  have h1 := @argument?_path "Environment.NewLine" ',' rfl (by decide) rfl (by decide)
    (' ' :: (list.toList ++ [')']))
  have ha : arguments? ("Environment.NewLine".toList ++ ',' :: ' ' :: (list.toList ++ [')'])) =
      some [⟨none, .path "Environment.NewLine"⟩, ⟨none, .path list⟩] := by
    rw [arguments?_cons h1, h2, Option.map_some]
    simp only [List.length_append, List.length_cons]
    omega
  have hc := @term_call "string.Join" _ _ rfl (by decide) (by simp) rfl ha
  refine (congrArg term ?_).trans hc
  simp [code_joined]

/-! ## Plans -/

theorem reads_stmtWhen {condition : Condition} {test : Test} {body : List Stmt} {read : List Node}
    (level : Nat) (ht : test? condition.code.toList = some test)
    (h : Reads (body.flatMap (Stmt.lines (level + 1))) read) :
    Reads (Stmt.lines level (.when condition body)) [.when test read] := by
  rw [Stmt.lines]
  exact reads_when level (line_when level ht) h

theorem reads_stmtWhenElse {condition : Condition} {test : Test} {body other : List Stmt}
    {read others : List Node} (level : Nat) (ht : test? condition.code.toList = some test)
    (h : Reads (body.flatMap (Stmt.lines (level + 1))) read)
    (h' : Reads (other.flatMap (Stmt.lines (level + 1))) others) :
    Reads (Stmt.lines level (.when condition body) ++ Stmt.lines level (.otherwise other))
      [.whenElse test read others] := by
  rw [Stmt.lines, Stmt.lines]
  exact reads_whenElse level (line_when level ht) (line_else level) h h'

theorem Reads.cons {level : Nat} {stmt : Stmt} {rest : List Stmt} {read others : List Node}
    (h : Reads (stmt.lines level) read) (h' : Reads (rest.flatMap (Stmt.lines level)) others) :
    Reads ((stmt :: rest).flatMap (Stmt.lines level)) (read ++ others) := by
  rw [List.flatMap_cons]
  exact h.append h'

theorem Reads.single {level : Nat} {stmt : Stmt} {read : List Node} (h : Reads (stmt.lines level) read) :
    Reads ([stmt].flatMap (Stmt.lines level)) read := by
  rw [List.flatMap_singleton]
  exact h

/-- The address, the connection string and the call, once there is a key without a mark. -/
def connectNodes (endpoint : String) (query : Query) : List Node :=
  [.action (.declare "endpoint" (.atom (.text endpoint))),
    .action (.declare "connectionString" (.atom (.interpolated connectionParts))),
    .action (.add blockOutputs (helperTerm (.path "connectionString") query))]

/-- A query whose account key comes from the environment. -/
def readNode (settings : Settings) (variableName endpoint : String) (query : Query) : Node :=
  .scope
    [.action (.declare "accountKey"
        (.call false "Environment.GetEnvironmentVariable" [⟨none, .text variableName⟩])),
      .when keyBlank [.action (.assign "accountKey" (term settings.secretReference.toList))],
      .whenElse keyBlank
        [.action (.add blockOutputs (.atom (.text (Message.notSet variableName))))]
        (.when keyMarked
            [.action (.assign "accountKey"
              (.call false "accountKey.TrimStart" [⟨none, .char '='⟩]))] ::
          connectNodes endpoint query)]

/-- The statements of a step; there are none for a step that cannot be carried out. -/
def operationNodes (settings : Settings) : Operation → List Node
  | .emitText text => [.action (.add blockOutputs (.atom (.text text)))]
  | .readFirstItem connection query =>
    [.action (.add blockOutputs (helperTerm (.text connection) query))]
  | .readFirstItemFromEnv variableName endpoint query =>
    [readNode settings variableName endpoint query]
  | .unsupported _ => []

def blockNode (settings : Settings) (block : BlockPlan) : Node :=
  .scope (.action (.newList blockOutputs) :: (block.operations.flatMap (operationNodes settings) ++
    [.action (.add outputs (joinTerm blockOutputs))]))

def planNodes (settings : Settings) (plan : Plan) : List Node :=
  .action (.newList outputs) :: (plan.blocks.map (blockNode settings) ++
    [.when (.equals "outputs.Count" 0)
        [.action (.ret (.atom (.text settings.noOutputMessage)))],
      .action (.ret (joinTerm outputs))])

theorem reads_addLiteral (level : Nat) (text : String) :
    Reads (Stmt.lines level (.add blockOutputs (.literal text)))
      [.action (.add blockOutputs (.atom (.text text)))] := by
  rw [← term_literal]
  exact reads_add isName_blockOutputs level (.literal text)

theorem reads_addRead {connection : Expr} {value : Atom} (level : Nat) (query : Query)
    (h : ∀ rest, atom? (connection.code.toList ++ ',' :: rest) = some (value, ',' :: rest)) :
    Reads (Stmt.lines level (.add blockOutputs (.readFirst connection query)))
      [.action (.add blockOutputs (helperTerm value query))] := by
  rw [← term_readFirst query h]
  exact reads_add isName_blockOutputs level (.readFirst connection query)

theorem reads_connect (level : Nat) (endpoint : String) (query : Query) :
    Reads ([Stmt.declare "string" "endpoint" (.literal endpoint),
        .declare "string" "connectionString" (.connectionString "endpoint" "accountKey"),
        .add blockOutputs (.readFirst (.var "connectionString") query)].flatMap (Stmt.lines level))
      (connectNodes endpoint query) := by
  have he := @reads_declare "endpoint" level (.literal endpoint) rfl (by decide)
  have hc := @reads_declare "connectionString" level (.connectionString "endpoint" "accountKey") rfl
    (by decide)
  have hr := @reads_addRead (.var "connectionString") _ level query
    fun rest => @atom?_path "connectionString" ',' rfl (by decide) rfl rest
  rw [show (Expr.literal endpoint).code = literal endpoint from rfl, term_literal] at he
  rw [term_connectionString] at hc
  exact he.cons (hc.cons hr.single)

theorem reads_readFromEnv (level : Nat) (settings : Settings) (variableName endpoint : String)
    (query : Query) :
    Reads (Stmt.lines level (readFromEnv settings variableName endpoint query))
      [readNode settings variableName endpoint query] := by
  have declared := reads_declareKey (level + 1) (.environment variableName)
  have fallback := reads_assign isName_accountKey (level + 2) (.given settings.secretReference)
  have missing := reads_addLiteral (level + 2) (Message.notSet variableName)
  have trimmed := reads_assign isName_accountKey (level + 3) (.withoutLeadingEquals "accountKey")
  rw [term_environment] at declared
  rw [term_trimmedKey] at trimmed
  have present := (reads_stmtWhen (level + 2) test?_startsWithEquals trimmed.single).cons
    ((reads_gap (level + 2)).cons (reads_connect (level + 2) endpoint query))
  have choice := reads_stmtWhenElse (level + 1) test?_isBlank missing.single present
  have whole := declared.append ((reads_stmtWhen (level + 1) test?_isBlank fallback.single).append
    ((reads_gap (level + 1)).append choice))
  rw [readFromEnv, Stmt.lines]
  refine reads_scope level ?_
  simp only [List.flatMap_cons, List.flatMap_nil, List.append_nil] at whole ⊢
  exact whole

section

variable {α β : Type} {print : α → Except Report β} {bad : α → Option String}

/-- Pieces that can all be printed are read back one after the other. -/
theorem mapM_reads {lines : β → List String} {nodes : α → List Node} {pieces : List α}
    (h : ∀ a, bad a = none → ∃ b, print a = .ok b ∧ Reads (lines b) (nodes a))
    (hp : pieces.findSome? bad = none) :
    ∃ printed, pieces.mapM print = .ok printed ∧
      Reads (printed.flatMap lines) (pieces.flatMap nodes) := by
  induction pieces with
  | nil => exact ⟨[], rfl, Reads.nil⟩
  | cons a rest ih =>
    rw [List.findSome?_eq_none_iff, List.forall_mem_cons] at hp
    obtain ⟨b, hb, hr⟩ := h a hp.1
    obtain ⟨printed, hm, hrest⟩ := ih (List.findSome?_eq_none_iff.2 hp.2)
    refine ⟨b :: printed, ?_, hr.append hrest⟩
    rw [List.mapM_cons, hb, hm]
    rfl

/-- The first piece that cannot be printed is the one that is reported. -/
theorem mapM_error {pieces : List α} {kind : String}
    (hb : ∀ a kind, bad a = some kind → print a = .error (unsupportedReport kind))
    (hg : ∀ a, bad a = none → ∃ b, print a = .ok b) (hp : pieces.findSome? bad = some kind) :
    pieces.mapM print = .error (unsupportedReport kind) := by
  induction pieces with
  | nil => cases hp
  | cons a rest ih =>
    rw [List.mapM_cons]
    cases ha : bad a with
    | some found =>
      rw [List.findSome?_cons, ha] at hp
      cases hp
      rw [hb a kind ha]
      rfl
    | none =>
      rw [List.findSome?_cons, ha] at hp
      obtain ⟨b, hok⟩ := hg a ha
      rw [hok, ih hp]
      rfl

end

theorem reads_operation {operation : Operation} (settings : Settings) (level : Nat)
    (h : operation.unsupported? = none) :
    ∃ stmt, operationStmt settings operation = .ok stmt ∧
      Reads (stmt.lines level) (operationNodes settings operation) := by
  cases operation with
  | emitText text => exact ⟨_, rfl, reads_addLiteral level text⟩
  | readFirstItem connection query =>
    exact ⟨_, rfl, reads_addRead level query fun rest => atom?_literal connection (',' :: rest)⟩
  | readFirstItemFromEnv variableName endpoint query =>
    exact ⟨_, rfl, reads_readFromEnv level settings variableName endpoint query⟩
  | unsupported kind => cases h

theorem reads_block {block : BlockPlan} (settings : Settings) (level : Nat)
    (h : block.unsupported? = none) :
    ∃ stmts, blockStmts settings block = .ok stmts ∧
      Reads (stmts.flatMap (Stmt.lines level)) [blockNode settings block] := by
  obtain ⟨steps, hs, hr⟩ := mapM_reads (fun _ => reads_operation settings (level + 1)) h
  have opened := reads_declareList (level + 1) isName_blockOutputs.chars isName_blockOutputs.ne_empty
  have closed := reads_add isName_outputs (level + 1) (.joined blockOutputs)
  rw [term_joined isName_blockOutputs.chars isName_blockOutputs.ne_empty] at closed
  refine ⟨_, by rw [blockStmts, hs]; rfl, (reads_comment level _).cons (Reads.single ?_)⟩
  rw [Stmt.lines]
  refine reads_scope level ?_
  rw [List.flatMap_append, List.flatMap_append]
  exact (opened.single.append hr).append closed.single

/-- The generated lines are read back as the statements of the plan. -/
theorem body?_bodyLines {plan : Plan} (settings : Settings) (h : plan.unsupported? = none) :
    ∃ lines, bodyLines settings plan = .ok lines ∧ body? lines = some (planNodes settings plan) := by
  obtain ⟨blocks, hb, hr⟩ := mapM_reads (fun _ => reads_block settings 2) h
  have opened := reads_declareList 2 isName_outputs.chars isName_outputs.ne_empty
  have nothing := reads_ret 3 (.literal settings.noOutputMessage)
  have all := reads_ret 2 (.joined outputs)
  rw [show (Expr.literal settings.noOutputMessage).code = literal settings.noOutputMessage from rfl,
    term_literal] at nothing
  rw [term_joined isName_outputs.chars isName_outputs.ne_empty] at all
  have tail := (reads_gap 2).cons ((reads_stmtWhen 2 test?_isEmptyList nothing.single).cons
    ((reads_gap 2).cons all.single))
  have joined : blocks.flatMap (List.flatMap (Stmt.lines 2)) = blocks.flatten.flatMap (Stmt.lines 2) := by
    rw [List.flatten_eq_flatMap, List.flatMap_assoc]
    rfl
  have whole := (opened.single.append hr).append tail
  rw [joined, ← List.flatMap_append, ← List.flatMap_append] at whole
  refine ⟨_, by rw [bodyLines, bodyStmts, hb]; rfl, ?_⟩
  have read := whole [] [] []
  rw [List.append_nil] at read
  rw [body?, read]
  simp [nodes?, planNodes, List.map_eq_flatMap]

theorem blockStmts_error {block : BlockPlan} {kind : String} (settings : Settings)
    (h : block.unsupported? = some kind) :
    blockStmts settings block = .error (unsupportedReport kind) := by
  have hm := mapM_error (α := Operation)
    (fun operation kind hk => by
      cases operation with
      | unsupported found =>
        cases hk
        rfl
      | _ => cases hk)
    (fun operation ho => (reads_operation settings 0 ho).imp fun _ => And.left) h
  rw [blockStmts, hm]
  rfl

/-- A plan is not printed if one of its steps cannot be carried out; the first one is reported. -/
theorem bodyLines_error {plan : Plan} {kind : String} (settings : Settings)
    (h : plan.unsupported? = some kind) :
    bodyLines settings plan = .error (unsupportedReport kind) := by
  have hm := mapM_error (fun _ _ => blockStmts_error settings)
    (fun block hb => (reads_block settings 0 hb).imp fun _ => And.left) h
  rw [bodyLines, bodyStmts, hm]
  rfl

end PageScript.CSharp.Source
