import PageScript.Script.Expression

/-!
# Statements

A statement is an assignment, a statement with a keyword, a chain of commands, a pipeline, or a single
command or expression. It ends at a line feed or a semicolon. A keyword statement goes on over line
feeds as long as a block or a clause keyword follows.
-/

namespace PageScript.Script

/-- The text behind a keyword statement whose current clause starts at `text`. -/
def clausesRest (text : List Char) : Except Fault { rest : List Char // rest <:+ text.tail } :=
  match text with
  | [] => .ok ⟨[], List.suffix_rfl⟩
  | c :: t => do
    let ⟨stop, hs⟩ ← checked (rawBehind endsStatement c t)
    let ⟨next, hn⟩ ← checked (skipBlanks stop)
    if startsClause next then
      let rest ← clausesRest next
      return ⟨rest.val, rest.property.trans ((List.tail_suffix next).trans
        ((skipBlanks_suffix hn).trans (rawBehind_suffix hs)))⟩
    else return ⟨stop, rawBehind_suffix hs⟩
termination_by text.length
decreasing_by
  have h1 := (skipBlanks_suffix hn).length_le
  have h2 := (rawBehind_suffix hs).length_le
  simp only [List.length_cons]
  omega

/-- A statement that starts with a keyword, kept as text. -/
def keywordStatement (c : Char) (t : List Char) : Except Fault (Found Statement (c :: t)) := do
  let rest ← clausesRest (c :: t)
  return .behind (.other (.trimmed (c :: t) rest.val) .keyword) rest.val rest.property

/-- One part of a pipeline. -/
inductive Stage where
  | command (command : Command)
  | other

/-- A command invoked by an operator, kept as text. -/
def invocation (c : Char) (t : List Char) : Except Fault (Found Stage (c :: t)) := do
  let ⟨here, h⟩ ← checked (skipInline t)
  let ⟨rest, hr⟩ ← checked (rawRest endsElement here)
  return .behind .other rest ((rawRest_suffix hr).trans (skipInline_suffix h))

/-- An operator that invokes what follows stands at the start of the text. -/
def startsInvocation : List Char → Bool
  | '&' :: _ => true
  | '.' :: c :: _ => c == ' ' || c == '\t'
  | _ => false

/-- One part of a pipeline. -/
def stage (text : List Char) : Except Fault (Found Stage text) :=
  match text with
  | [] => .error (.unexpected [])
  | c :: t =>
    if startsInvocation (c :: t) then invocation c t
    else if startsCommand c then (command hashtable (c :: t)).map (Found.map .command)
    else (expression hashtable endsElement (c :: t)).map (Found.map fun _ => .other)

/-- How the parts of a statement hang together. -/
inductive Junction where
  | alone
  | piped
  | chained
deriving DecidableEq

/-- What follows the first part of a pipeline, up to the end of the statement. -/
def junction (text : List Char) :
    Except Fault (Junction × { rest : List Char // rest <:+ text }) := do
  let ⟨here, h⟩ ← checked (skipInline text)
  have hh := skipInline_suffix h
  if ['|', '|'].isPrefixOf here || ['&', '&'].isPrefixOf here then
    let ⟨next, hn⟩ ← checked (skipBlanks (here.drop 2))
    let ⟨rest, hr⟩ ← checked (rawRest endsStatement next)
    return (.chained, ⟨rest, (rawRest_suffix hr).trans ((skipBlanks_suffix hn).trans
      ((List.drop_suffix 2 here).trans hh))⟩)
  if here.head? = some '|' then
    let ⟨next, hn⟩ ← checked (skipBlanks here.tail)
    if stopped (fun c => c == ';' || c == '|' || c == ')' || c == '\x7d') next then
      throw (.problem .emptyPipe next next)
    let part ← stage next
    let (more, rest) ← junction part.rest
    let rest' : { rest : List Char // rest <:+ text } :=
      ⟨rest.val, (rest.property.trans part.suffix).trans ((skipBlanks_suffix hn).trans
        ((List.tail_suffix here).trans hh))⟩
    return (if more = .chained then .chained else .piped, rest')
  return (.alone, ⟨here, hh⟩)
termination_by text.length
decreasing_by
  have h1 := part.shorter
  have h2 := (skipBlanks_suffix hn).length_le
  have h3 := (List.tail_suffix here).length_le
  have h4 := hh.length_le
  omega

/-- A pipeline, a chain, or a single command or expression. -/
def pipeline (text : List Char) : Except Fault (Found Statement text) := do
  let first ← stage text
  let (kind, rest) ← junction first.rest
  let extent := Extent.trimmed text rest.val
  let statement : Statement :=
    match kind, first.value with
    | .chained, _ => .other extent .chain
    | .piped, _ => .other extent .pipeline
    | .alone, .command command => .command command
    | .alone, .other => .other extent .expression
  return first.upTo statement rest.val rest.property

/-- A statement must be over here; gives the text from its end on. -/
def statementEnd (text : List Char) : Except Fault (List Char) := do
  let here ← skipInline text
  if stopped endsStatement here then return here else throw (.unexpected here)

theorem statementEnd_suffix {text rest : List Char} (h : statementEnd text = .ok rest) :
    rest <:+ text := by
  unfold statementEnd at h
  cases hs : skipInline text with
  | error => simp [hs, bind, Except.bind] at h
  | ok here =>
    simp only [hs, bind, Except.bind] at h
    split at h
    · cases h
      exact skipInline_suffix hs
    · cases h

/-- The value of an assignment: an expression, or a command or pipeline kept as text. -/
def assignedValue (text : List Char) : Except Fault (Found Expr text) := do
  if (text.head?.map startsCommand).getD false then asText
  else
    let found ← expression hashtable endsElement text
    let here ← skipInline found.rest
    if here.head? = some '|' then asText else return found
where
  /-- The pipeline as text. -/
  asText : Except Fault (Found Expr text) := do
    let found ← pipeline text
    return found.map fun _ => .raw (.trimmed text found.rest) .pipeline

/-- The operator at the start of a text and what follows it; a doubled equals sign is none. -/
def assignOp? (text : List Char) : Option (AssignOp × List Char) :=
  match AssignOp.all.find? fun op => op.text.toList.isPrefixOf text with
  | some .set => if text.tail.head? = some '=' then none else some (.set, text.tail)
  | some op => some (op, text.drop op.text.length)
  | none => none

theorem assignOp?_suffix {text rest : List Char} {op : AssignOp}
    (h : assignOp? text = some (op, rest)) : rest <:+ text := by
  unfold assignOp? at h
  split at h
  · split at h
    · cases h
    · cases h
      exact List.tail_suffix text
  · cases h
    exact List.drop_suffix _ text
  · cases h

/-- An assignment to the variable at the dollar sign in front of `t`; nothing if no operator follows
the variable. -/
def assignment? (t : List Char) : Except Fault (Option (Found Statement ('$' :: t))) := do
  let target ← variableAt t >>= withMembers
  let ⟨here, hh⟩ ← checked (skipInline target.rest)
  match hop : assignOp? here with
  | none => return none
  | some (op, behind) =>
    let ⟨start, hs⟩ ← checked (skipBlanks behind)
    if stopped (fun c => c == ';' || c == ')' || c == '\x7d') start then
      throw (.problem (.missingValue op.text) start start)
    let value ← assignedValue start
    let ⟨rest, hr⟩ ← checked (statementEnd value.rest)
    let statement := .assignment (.trimmed ('$' :: t) rest) target.value op value.value
    return some (target.upTo statement rest ((statementEnd_suffix hr).trans
      (value.suffix.trans ((skipBlanks_suffix hs).trans ((assignOp?_suffix hop).trans
        (skipInline_suffix hh))))))

/-- A pipeline that is a statement of its own. -/
def pipelineStatement (text : List Char) : Except Fault (Found Statement text) := do
  let found ← pipeline text
  let ⟨rest, h⟩ ← checked (statementEnd found.rest)
  return found.upTo found.value rest (statementEnd_suffix h)

/-- A dollar sign followed by `t` may start an assignment. -/
def startsAssignment (t : List Char) : Bool := startsName t || t.head? == some '\x7b'

/-- A statement at its first character. -/
def statement (text : List Char) : Except Fault (Found Statement text) :=
  match text with
  | [] => .error (.unexpected [])
  | '$' :: t =>
    if startsAssignment t then do
      match ← assignment? t with
      | some found => return found
      | none => pipelineStatement ('$' :: t)
    else pipelineStatement ('$' :: t)
  | c :: t =>
    if isCloser c then .error (.unexpected (c :: t))
    else if startsKeyword (c :: t) then keywordStatement c t
    else pipelineStatement (c :: t)

theorem statement_plain {c : Char} (hc : c ≠ '$') (t : List Char) :
    statement (c :: t) =
      if isCloser c then .error (.unexpected (c :: t))
      else if startsKeyword (c :: t) then keywordStatement c t
      else pipelineStatement (c :: t) := by
  rw [statement]
  exact hc

end PageScript.Script
