import PageScript.Proofs.Compile.Expansion
import PageScript.Proofs.Compile.Replay
import PageScript.Proofs.Script.Locality

/-!
# References in and out of quotes

A reference that stands alone is read with the script; between double quotes it is found when the
string is expanded. The two go by different rules: the script takes letters of any kind into a name,
divides at the first colon in braces and gives a reference without a value some text all the same.
Where a reference made of identifiers has a value, both come to that value.
-/

namespace PageScript.Script

open Compile (Identifier Reference isPlainChar)

/-! ## A reference that stands alone -/

/-- The letters and digits of identifiers are ASCII. -/
theorem toNat_lt_of_isAlphanum {c : Char} (h : c.isAlphanum = true) : c.toNat < 0x80 := by
  have bounded : c.val ≤ 'z'.val := by
    rcases Bool.or_eq_true_iff.1 h with letter | digit
    · rcases Bool.or_eq_true_iff.1 letter with upper | lower
      · exact UInt32.le_trans (of_decide_eq_true upper).2 (by decide)
      · exact of_decide_eq_true (Bool.and_eq_true_iff.1 lower).2
    · exact UInt32.le_trans (of_decide_eq_true (Bool.and_eq_true_iff.1 digit).2) (by decide)
  exact Nat.lt_of_le_of_lt (UInt32.le_iff_toNat_le.1 bounded) (by decide)

theorem isNameChar_of_isPlainChar {c : Char} (h : isPlainChar c = true) : isNameChar c = true := by
  rw [isPlainChar, Bool.or_eq_true] at h
  rcases h with h | h
  · have ascii := toNat_lt_of_isAlphanum h
    have alphanumeric : Text.isAlphanumeric c = true := by
      rw [Text.isAlphanumeric, Text.isLetter, Text.isNumeric, if_pos ascii, if_pos ascii]
      exact h
    simp [isNameChar, alphanumeric]
  · simp [isNameChar, h]

section

variable {name : Identifier} {rest : List Char}

theorem isNameChar_of_mem_chars : ∀ c ∈ name.chars, isNameChar c = true := by
  intro c hc
  exact isNameChar_of_isPlainChar (Identifier.isPlainChar_of_mem hc)

theorem takeName_identifier (h : ∀ c ∈ rest.head?, isNameChar c = false) :
    takeName (name.chars ++ rest) = String.ofList name.chars := by
  rw [takeName, Text.takeWhile_append_stop isNameChar_of_mem_chars h]

theorem dropName_identifier (h : ∀ c ∈ rest.head?, isNameChar c = false) :
    dropName (name.chars ++ rest) = rest :=
  Text.dropWhile_append_stop isNameChar_of_mem_chars h

/-- An identifier is none of the special names. -/
theorem not_specialName (name : Identifier) :
    ¬ (name.first = '$' || name.first = '^' || (name.first = '?' && !startsName rest)) = true := by
  have dollar := name.first_ne (show Compile.isPlainStart '$' = false by decide)
  have caret := name.first_ne (show Compile.isPlainStart '^' = false by decide)
  have question := name.first_ne (show Compile.isPlainStart '?' = false by decide)
  simp [dollar, caret, question]

end

theorem bracedName_path (r : Reference) :
    bracedName r.path = (String.ofList r.name.chars, r.driveName?) := by
  have colon (name : Identifier) : ':' ∉ name.chars := name.not_mem (by decide)
  unfold bracedName Reference.path Reference.driveName?
  cases r.drive with
  | none => simp only [Text.cutFirst_none (colon r.name), Option.map_none]
  | some drive =>
    have named : (!drive.chars.isEmpty && drive.chars.all isNameChar) = true := by
      have all : drive.chars.all isNameChar = true := List.all_eq_true.2 isNameChar_of_mem_chars
      rw [all]
      rfl
    simp only [Text.cutFirst_mark (colon drive), named, if_true, Option.map_some]

theorem variableName?_path (r : Reference) :
    variableName? r.path = .ok (some (String.ofList r.name.chars, r.driveName?, [])) := by
  have brace (name : Identifier) : name.first ≠ '\x7b' := name.first_ne (by decide)
  have first (name : Identifier) : isNameChar name.first = true :=
    isNameChar_of_mem_chars name.first List.mem_cons_self
  have taken (name : Identifier) : takeName name.chars = String.ofList name.chars := by
    rw [← List.append_nil name.chars, takeName_identifier (by simp), List.append_nil]
  have dropped (name : Identifier) : dropName name.chars = [] := by
    rw [← List.append_nil name.chars, dropName_identifier (by simp)]
  unfold Reference.path Reference.driveName?
  cases r.drive with
  | none =>
    have plain := variableName?_plain (brace r.name) (not_specialName r.name) (first r.name)
      (fun behind h => by cases (dropped r.name).symm.trans h)
    show variableName? (r.name.first :: r.name.others) = _
    rw [plain]
    show Except.ok (some (takeName r.name.chars, none, dropName r.name.chars)) = _
    rw [taken, dropped]
    rfl
  | some drive =>
    have stop : ∀ c ∈ (':' :: r.name.chars).head?, isNameChar c = false := by
      intro c hc
      cases hc
      decide +kernel
    have behind : dropName (drive.first :: (drive.others ++ ':' :: r.name.chars)) =
        ':' :: r.name.chars := dropName_identifier stop
    have before : takeName (drive.first :: (drive.others ++ ':' :: r.name.chars)) =
        String.ofList drive.chars := takeName_identifier stop
    have starts : startsName r.name.chars = true := first r.name
    show variableName? (drive.first :: (drive.others ++ ':' :: r.name.chars)) = _
    rw [variableName?_drive (brace drive) (not_specialName drive) (first drive) behind, if_pos starts,
      before, taken, dropped]
    rfl

theorem variableName?_body (r : Reference) :
    variableName? r.body = .ok (some (String.ofList r.name.chars, r.driveName?, [])) := by
  unfold Reference.body
  by_cases hb : r.braced = true
  · rw [if_pos hb, variableName?, Text.cut?_mark r.brace_not_mem_path []]
    simp only [bracedName_path]
  · rw [if_neg hb]
    exact variableName?_path r

/-- The text is an argument from end to end, read as `value`. -/
def ReadsAs (text : List Char) (value : Expr) : Prop :=
  ∃ found, argument hashtable text = .ok found ∧ found.rest = [] ∧ found.value = value

theorem paren_not_mem_body (r : Reference) : '(' ∉ r.body := by
  intro h
  exact absurd (Reference.mem_body h) (by decide)

theorem variableAt_body (r : Reference) :
    variableAt r.body = .ok (.behind
      (.reference (.between r.text []) (String.ofList r.name.chars) r.driveName? false) []
        List.nil_suffix) := by
  rw [variableAt, checked_ok (variableName?_body r)]
  rfl

theorem dollarExpr_body (r : Reference) :
    dollarExpr r.body = .ok (.behind
      (.reference (.between r.text []) (String.ofList r.name.chars) r.driveName? false) []
        List.nil_suffix) := by
  have members : membersRest [] = .ok [] := membersRest_done rfl
  rw [dollarExpr, variableAt_body]
  · show withMembers _ = _
    rw [withMembers]
    show checked (membersRest []) >>= _ = _
    rw [checked_ok members]
    rfl
  · intro inner h
    apply paren_not_mem_body r
    rw [h]
    exact List.mem_cons_self

theorem readsAs_bare (r : Reference) :
    ReadsAs r.text
      (.reference (.between r.text []) (String.ofList r.name.chars) r.driveName? false) := by
  have primary : primary? hashtable r.text = .ok (some _) :=
    congrArg (some <$> ·) (dollarExpr_body r)
  exact ⟨_, argument_of_primary? primary, rfl, rfl⟩

/-! ## A reference between double quotes -/

theorem marked_of_unmarked {mark : Char} {special : Char → Bool} {text : List Char}
    (h : ∀ c ∈ text, special c = false) : marked mark special text = text := by
  induction text with
  | nil => rfl
  | cons c text ih =>
    rw [List.forall_mem_cons] at h
    rw [marked_cons, h.1, ih h.2]
    rfl

theorem readsAs_quoted (r : Reference) :
    ReadsAs ('"' :: (r.text ++ ['"']))
      (.expandable (.between ('"' :: (r.text ++ ['"'])) []) (String.ofList r.text)) := by
  have closes (opened : List Char) : closeAll [.string opened] (r.text ++ ['"']) = .ok [] := by
    have noGroup : (r.body ++ ['"']).head? ≠ some '(' := by
      intro h
      rcases List.mem_append.1 (List.mem_of_head? h) with h | h
      · exact paren_not_mem_body r h
      · exact absurd h (by decide)
    have step : Frame.step '$' (r.body ++ ['"']) (.string opened) =
        .ok ([.string opened], r.body ++ ['"']) := by
      rw [Frame.step, stringStep_other (by decide) (by decide) fun _ => noGroup]
    have body := closeAll_marked opened r.body
    rw [marked_of_unmarked fun _ hc => Reference.isExpandMark_of_mem_body hc] at body
    exact (closeAll_step step).trans body
  exact ⟨_, argument_of_primary? (primary?_doubleQuoted (closes _)), rfl, rfl⟩

/-! ## Scripts that write a reference -/

theorem startsArgument_of_mark {c : Char} (h : c = '$' ∨ c = '"') (text : List Char) :
    StartsArgument (c :: text) := by
  rcases h with rfl | rfl
  · exact ⟨skipInline_plain rfl (by decide) (by decide) (by decide) text, rfl, by simp⟩
  · exact ⟨skipInline_plain rfl (by decide) (by decide) (by decide) text, rfl, by simp⟩

theorem return_not_mem_text (r : Reference) : '\r' ∉ r.text := by
  intro h
  rcases List.mem_cons.1 h with h | h
  · exact absurd h (by decide)
  · exact absurd (Reference.mem_body h) (by decide)

/-- The script that writes an argument, if the argument has no carriage return. -/
theorem ReadsAs.read_write {text : List Char} {value : Expr} (h : ReadsAs text value)
    (hs : StartsArgument text) (hr : '\r' ∉ text) :
    ∃ extent, read (String.ofList (writeHead ++ text)) =
      .ok ⟨writeHead ++ text, [.command ⟨extent, "Write-Output", [.value value]⟩], []⟩ := by
  obtain ⟨found, ha, hrest, rfl⟩ := h
  have unpaired : NoPair text := by
    intro hi
    apply hr
    exact hi.subset List.mem_cons_self
  exact Script.read_write hs ha hrest unpaired

end PageScript.Script

namespace PageScript.Compile

open Script (Expr Extent Statement writeHead)

/-! ## What a reference resolves to -/

theorem Reference.resolve_bare {r : Reference} {scope : Scope} {value : String}
    (h : r.value? scope = some value) (extent : Extent) :
    scope.resolve (.reference extent (String.ofList r.name.chars) r.driveName? false) =
      .ok value := by
  unfold value? at h
  rw [Scope.resolve, if_neg Bool.false_ne_true]
  by_cases henv : Script.isEnvDrive r.driveName? = true
  · rw [if_pos henv] at h ⊢
    rw [Scope.envValue, h, Option.getD_some]
  · rw [if_neg henv] at h ⊢
    rw [Scope.lookup?, h, Option.getD_some]

theorem Reference.resolve_quoted {r : Reference} {scope : Scope} {value : String}
    (h : r.value? scope = some value) (extent : Extent) :
    scope.resolve (.expandable extent (String.ofList r.text)) = .ok value := by
  have divided : Segment.Divided [.reference r] := ⟨.inr rfl, trivial⟩
  have expanded := scope.expandChars_segments divided
  simp only [List.flatMap_singleton, Segment.text, Segment.meaning, h] at expanded
  rw [Scope.resolve, Scope.expand, String.toList_ofList, expanded, String.ofList_toList]

/-! ## Commands at a place of a block -/

section

variable {settings : Settings} {environ : Environ} {bindings : FoldedTable Parameters}

theorem compileAll_behind {before rest : List Statement} {bound reached : Bound}
    (h : before.foldlM (bindStatement environ) bound = .ok reached) :
    compileAll settings environ bindings bound.known (before ++ rest) =
      compileAll settings environ bindings bound.known before >>= fun first =>
        (compileAll settings environ bindings reached.known rest).map (first ++ ·) := by
  induction before generalizing bound with
  | nil =>
    cases h
    show _ = (compileAll settings environ bindings reached.known rest).map ([] ++ ·)
    cases hr : compileAll settings environ bindings reached.known rest with
    | error fault => exact hr
    | ok more => exact hr
  | cons statement before ih =>
    rw [List.foldlM_cons] at h
    obtain ⟨next, hs, h⟩ := ok_of_bind h
    rw [List.cons_append, compileAll_cons, compileAll_cons, record_of_bindStatement hs]
    cases Scope.operations { environ, known := bound.known } settings bindings statement with
    | error fault => rfl
    | ok part =>
      simp only [bind, Except.bind, ih h]
      cases compileAll settings environ bindings next.known before with
      | error fault => rfl
      | ok first =>
        cases compileAll settings environ bindings reached.known rest with
        | error fault => rfl
        | ok more => simp [Except.map]

/-- A text that is written at a place of a block, where the first pass has come to `bound`. -/
theorem compileBlock_written {before after : List Statement} {bound : Bound} {value : Expr}
    {text : String} (hb : bindAll environ before = .ok bound)
    (hv : Scope.resolve { environ, known := bound.known } value = .ok text) (extent : Extent) :
    compileBlock settings environ
        (before ++ .command ⟨extent, "Write-Output", [.value value]⟩ :: after) =
      after.foldlM (bindStatement environ) bound >>= fun last =>
        compileAll settings environ last.bindings .empty before >>= fun first =>
          ((compileAll settings environ last.bindings bound.known after).map (writing text ++ ·)).map
            (first ++ ·) := by
  have passed : bindAll environ (before ++ .command ⟨extent, "Write-Output", [.value value]⟩ :: after) =
      after.foldlM (bindStatement environ) bound := by
    rw [bindAll, List.foldlM_append]
    exact congrArg (· >>= _) hb
  have written (bindings : FoldedTable Parameters) :
      compileAll settings environ bindings bound.known
          (.command ⟨extent, "Write-Output", [.value value]⟩ :: after) =
        (compileAll settings environ bindings bound.known after).map (writing text ++ ·) := by
    rw [compileAll, compileStatement, commandOperations_write, hv]
    show (do return writing text ++ (← compileAll settings environ bindings bound.known after)) = _
    cases compileAll settings environ bindings bound.known after <;> rfl
  rw [compileBlock, passed]
  cases after.foldlM (bindStatement environ) bound with
  | error fault => rfl
  | ok last =>
    show compileAll settings environ last.bindings .empty _ = _
    rw [compileAll_behind hb, written]
    rfl

end

/-- A reference that has a value at a place of a block is written there in the same way, bare and
between double quotes: the value is added to what the statements in front of it compile to. Both
scripts are one statement each; in a longer script `k` more characters stand behind it. -/
theorem compileBlock_bare_eq_quoted (r : Reference) :
    ∃ bare quoted : Statement,
      Script.read (String.ofList (writeHead ++ r.text)) = .ok ⟨writeHead ++ r.text, [bare], []⟩ ∧
      Script.read (String.ofList (writeHead ++ '"' :: (r.text ++ ['"']))) =
        .ok ⟨writeHead ++ '"' :: (r.text ++ ['"']), [quoted], []⟩ ∧
      ∀ (settings : Settings) (environ : Environ) (before after : List Statement) (k : Nat)
        (bound : Bound) (value : String), bindAll environ before = .ok bound →
        r.value? { environ, known := bound.known } = some value →
        compileBlock settings environ (before ++ bare.moved k :: after) =
          compileBlock settings environ (before ++ quoted.moved k :: after) ∧
        compileBlock settings environ (before ++ [bare.moved k]) =
          (compileBlock settings environ before).map (· ++ writing value) := by
  have noReturn := Script.return_not_mem_text r
  obtain ⟨bareExtent, hbare⟩ := (Script.readsAs_bare r).read_write
    (Script.startsArgument_of_mark (.inl rfl) _) noReturn
  obtain ⟨quotedExtent, hquoted⟩ := (Script.readsAs_quoted r).read_write
    (Script.startsArgument_of_mark (.inr rfl) _) (by simp [noReturn])
  refine ⟨_, _, hbare, hquoted, ?_⟩
  intro settings environ before after k bound value hb hv
  constructor
  · exact (compileBlock_written hb (r.resolve_bare hv _) _).trans
      (compileBlock_written hb (r.resolve_quoted hv _) _).symm
  · refine (compileBlock_written hb (r.resolve_bare hv _) _).trans ?_
    rw [compileBlock, hb]
    show compileAll settings environ bound.bindings .empty before >>= _ =
      (compileAll settings environ bound.bindings .empty before).map _
    cases compileAll settings environ bound.bindings .empty before with
    | error fault => rfl
    | ok first =>
      show Except.ok (first ++ (writing value ++ [])) = _
      rw [List.append_nil]
      rfl

/-- `$x = 'y'` -/
def assignX : Statement :=
  .assignment ⟨"$x = 'y'", 0⟩ (.reference ⟨"$x", 0⟩ "x" none false) .set (.string ⟨"'y'", 0⟩ "y" .single)

/-- An environment variable whose value reads like a reference. -/
def homeEnviron : Environ := fun name => if name = "HOME" then some "$x" else none

theorem compileBlock_bare_eq_quoted_home :
    ∃ bare quoted : Statement,
      (∃ reading, Script.read "Write-Output $\x7beNv:HOME\x7d" = .ok reading ∧
        reading.statements = [bare] ∧ reading.complaints = []) ∧
      (∃ reading, Script.read "Write-Output \"$\x7beNv:HOME\x7d\"" = .ok reading ∧
        reading.statements = [quoted] ∧ reading.complaints = []) ∧
      compileBlock {} homeEnviron ([assignX] ++ [bare.moved 0]) = .ok [.emitText "$x"] ∧
      compileBlock {} homeEnviron ([assignX] ++ [quoted.moved 0]) = .ok [.emitText "$x"] := by
  obtain ⟨bare, quoted, hb, hq, same⟩ := compileBlock_bare_eq_quoted
    { drive := some ⟨'e', ['N', 'v'], rfl, rfl⟩, name := ⟨'H', ['O', 'M', 'E'], rfl, rfl⟩,
      braced := true }
  obtain ⟨hsame, hvalue⟩ := same {} homeEnviron [assignX] [] 0 _ "$x" rfl (by decide +kernel)
  exact ⟨bare, quoted, ⟨_, hb, rfl, rfl⟩, ⟨_, hq, rfl, rfl⟩, hvalue, hsame.symm.trans hvalue⟩

end PageScript.Compile
