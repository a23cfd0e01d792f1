import PageScript.Proofs.Compile.Writes
import PageScript.Proofs.Script.Layout
import PageScript.Proofs.Text.Folding

/-!
# Values that are written as environment variables

An entry of a hashtable whose value comes out empty is looked at once more: if it is written with the
mark of an environment variable, it stands for the name behind the mark. In a script that was read there
is no such entry. What carries the mark was read as a variable of the environment, which never comes out
empty, or was kept as text, mark and all (`Honest`). The readers are gone through in their order, as for
the extents.
-/

namespace PageScript.Compile

open Script

/-! ## Texts with the mark -/

/-- The text starts with the mark of an environment variable, in any letter case. -/
def Marked (text : String) : Prop := afterEnvMark? text ≠ none

theorem Marked.folds {text : String} (h : Marked text) :
    Text.foldChars (text.toList.take 5) = "$env:".toList := by
  unfold Marked afterEnvMark? at h
  dsimp only at h
  split at h
  · rename_i hm
    rw [beq_iff_eq, List.splitAt_eq, Text.fold, String.toList_ofList] at hm
    exact String.ofList_injective hm
  · exact absurd rfl h

theorem Marked.colon_mem {text : String} (h : Marked text) : ':' ∈ text.toList := by
  have hm : ':' ∈ Text.foldChars (text.toList.take 5) := by
    rw [h.folds]
    decide
  exact List.mem_of_mem_take (Text.mem_of_mem_foldChars (by decide) (by decide) hm)

/-- The first character is a dollar sign. -/
theorem Marked.head_eq {text : String} (h : Marked text) {c : Char} {rest : List Char}
    (ht : text.toList = c :: rest) : c = '$' := by
  have hf := h.folds
  rw [ht, List.take_succ_cons, Text.foldChars, List.flatMap_cons] at hf
  cases hc : Text.foldChar c with
  | nil => exact absurd hc (Text.foldChar_ne_nil c)
  | cons d more =>
    rw [hc] at hf
    have hd : d = '$' := (List.cons.inj hf).1
    apply Text.eq_of_mem_foldChar (by decide) (by decide)
    rw [hc, hd]
    exact List.mem_cons_self

/-- What stands between the dollar sign and the first colon is the drive of the environment. -/
theorem Marked.drive {text : String} (h : Marked text) {drive rest : List Char}
    (ht : text.toList = '$' :: (drive ++ ':' :: rest)) (hd : ':' ∉ drive) :
    Text.fold (String.ofList drive) = "env" := by
  have hf := h.folds
  rw [ht, List.take_succ_cons, Text.foldChars, List.flatMap_cons] at hf
  have hbody : Text.foldChars ((drive ++ ':' :: rest).take 4) = "env:".toList := (List.cons.inj hf).2
  have hshort : drive.length < 4 := by
    apply Nat.lt_of_not_le
    intro hlong
    have hm : ':' ∈ Text.foldChars ((drive ++ ':' :: rest).take 4) := by
      rw [hbody]
      decide
    rw [List.take_append_of_le_length hlong] at hm
    exact hd (List.mem_of_mem_take (Text.mem_of_mem_foldChars (by decide) (by decide) hm))
  have hcut : (drive ++ ':' :: rest).take 4 = drive ++ ':' :: rest.take (3 - drive.length) := by
    rw [List.take_append, List.take_of_length_le (by omega),
      show 4 - drive.length = (3 - drive.length) + 1 by omega, List.take_succ_cons]
  rw [hcut, Text.foldChars_append] at hbody
  have hcolon : ':' ∉ Text.foldChars drive := fun hm =>
    hd (Text.mem_of_mem_foldChars (by decide) (by decide) hm)
  have hstop := congrArg (List.takeWhile (· != ':')) hbody
  rw [List.takeWhile_append_of_pos (fun c hc => ?_)] at hstop
  · have hfold : Text.foldChars drive = "env".toList := by
      rw [← List.append_nil (Text.foldChars drive)]
      exact hstop
    rw [Text.fold, String.toList_ofList, hfold]
    rfl
  · rw [bne_iff_ne]
    rintro rfl
    exact hcolon hc

/-- Without the quotes at its ends a marked text is not empty. -/
theorem Marked.isEmpty_unquoted {text : String} (h : Marked text) :
    (unquoted text).isEmpty = false := by
  have hdollar : '$' ∈ text.toList := by
    cases ht : text.toList with
    | nil =>
      have hc := h.colon_mem
      rw [ht] at hc
      cases hc
    | cons c rest =>
      rw [← h.head_eq ht]
      exact List.mem_cons_self
  have kept {text : List Char} (hm : '$' ∈ text) :
      '$' ∈ text.dropWhile fun c => c == '"' || c == '\'' := by
    rw [← List.takeWhile_append_dropWhile (p := fun c => c == '"' || c == '\'') (l := text)] at hm
    refine (List.mem_append.1 hm).resolve_left fun ht => ?_
    exact absurd (List.all_eq_true.1 List.all_takeWhile _ ht) (by decide)
  have hm : '$' ∈ (unquoted text).toList := by
    rw [unquoted, String.toList_ofList, Text.trimOf, Text.trimEndOf, Text.trimStartOf,
      List.mem_reverse]
    exact kept (List.mem_reverse.2 (kept hdollar))
  rw [Bool.eq_false_iff, Ne, String.isEmpty_iff]
  intro he
  rw [he] at hm
  cases hm

/-! ## Entries that are honest -/

/-- An expression that carries the mark is a variable of the environment with a name, or kept as
text. -/
def Honest (expr : Expr) : Prop :=
  Marked expr.extent.text →
    (∃ name, envSource? expr = some name ∧ name ≠ "") ∨ ∃ extent kind, expr = .raw extent kind

/-- The write of an entry as it reads: the value of the expression, and the environment variable that
the expression is. -/
def Scope.plainWrite (scope : Scope) (key value : Expr) : Except Numeral.IntegerFault Write :=
  return { name := ← scope.keyName key, value := ← scope.resolve value, source := envSource? value }

theorem Honest.resolve_ne_empty {value : Expr} (h : Honest value) (hm : Marked value.extent.text)
    {scope : Scope} {text : String} (hr : scope.resolve value = .ok text) : text.isEmpty = false := by
  rcases h hm with ⟨name, hs, hn⟩ | ⟨extent, kind, rfl⟩
  · rw [resolve_of_envSource? scope hs] at hr
    cases hr
    exact envValue_isEmpty scope hn
  · rw [Scope.resolve] at hr
    cases hr
    exact hm.isEmpty_unquoted

/-- An honest entry writes what it reads. -/
theorem Scope.entryWrite_eq_plainWrite (scope : Scope) (key : Expr) {value : Expr}
    (h : Honest value) : scope.entryWrite key value = scope.plainWrite key value := by
  rw [Scope.entryWrite, Scope.plainWrite]
  cases scope.keyName key with
  | error fault => rfl
  | ok name =>
    cases hr : scope.resolve value with
    | error fault => rfl
    | ok text =>
      simp only [bind, Except.bind]
      split
      · rename_i he
        split
        · rename_i known hk
          have hm : Marked value.extent.text := by
            rw [Marked, hk]
            exact Option.some_ne_none known
          rw [h.resolve_ne_empty hm hr] at he
          exact absurd he Bool.false_ne_true
        · rfl
      · rfl

/-- An expression is honest, and so are the values of its entries. -/
structure Legible (expr : Expr) : Prop where
  own : Honest expr
  values : ∀ entry ∈ expr.entries, Honest entry.2

/-! ## Variables -/

theorem text_between (read rest : List Char) :
    (Extent.between (read ++ rest) rest).text.toList = read := by
  rw [Extent.between, String.toList_ofList, List.length_append, Nat.add_sub_cancel, List.take_left]

theorem colon_not_mem_takeWhile (text : List Char) : ':' ∉ text.takeWhile isNameChar := by
  intro hm
  have hc : isNameChar ':' = true := List.all_eq_true.1 List.all_takeWhile _ hm
  exact absurd hc (by decide +kernel)

/-- A name behind a dollar sign does not make the mark. -/
theorem not_marked_name (text : List Char) :
    ¬ Marked (Extent.between ('$' :: text) (dropName text)).text := by
  intro hm
  have hsplit : '$' :: text = '$' :: text.takeWhile isNameChar ++ dropName text := by
    rw [List.cons_append, dropName, List.takeWhile_append_dropWhile]
  have hc := hm.colon_mem
  rw [hsplit, text_between] at hc
  exact colon_not_mem_takeWhile text ((List.mem_cons.1 hc).resolve_left (by decide))

/-- A name behind a drive carries the mark only if the drive is that of the environment. -/
theorem drive_of_marked {text behind : List Char} (hd : dropName text = ':' :: behind)
    (hm : Marked (Extent.between ('$' :: text) (dropName behind)).text) :
    isEnvDrive (some (takeName text)) = true := by
  have hbehind : behind = behind.takeWhile isNameChar ++ dropName behind :=
    List.takeWhile_append_dropWhile.symm
  have hsplit : text = text.takeWhile isNameChar ++ ':' :: behind := by
    rw [← hd, dropName, List.takeWhile_append_dropWhile]
  have ht : '$' :: text =
      '$' :: (text.takeWhile isNameChar ++ ':' :: behind.takeWhile isNameChar) ++ dropName behind := by
    rw [List.cons_append, List.append_assoc, List.cons_append, ← hbehind, ← hsplit]
  rw [ht] at hm
  rw [isEnvDrive, beq_iff_eq, takeName]
  exact hm.drive (text_between _ _) (colon_not_mem_takeWhile text)

theorem takeName_ne_empty {text : List Char} (h : startsName text = true) : takeName text ≠ "" := by
  cases text with
  | nil => cases h
  | cons c rest =>
    have hc : isNameChar c = true := h
    rw [takeName, List.takeWhile_cons_of_pos hc, Ne, ← String.toList_eq_nil_iff, String.toList_ofList]
    exact List.cons_ne_nil _ _

/-- A variable that carries the mark is one of the environment, and has a name. -/
theorem variableName?_marked {rest after : List Char} {name : String} {drive : Option String}
    (h : variableName? rest = .ok (some (name, drive, after)))
    (hm : Marked (Extent.between ('$' :: rest) after).text) :
    isEnvDrive drive = true ∧ name ≠ "" := by
  unfold variableName? at h
  split at h
  · rename_i inner
    split at h
    · rename_i found behind hc
      cases h
      have hi : '$' :: '\x7b' :: inner = '$' :: '\x7b' :: (found ++ ['\x7d']) ++ after := by
        rw [Text.eq_of_cut? hc]
        rfl
      have hf := hm.folds
      rw [hi, text_between] at hf
      -- The mark goes on with a letter and not with a brace.
      have he : '\x7b' = 'e' := (List.cons.inj (List.cons.inj hf).2).1
      exact absurd he (by decide)
    · cases h
  · rename_i c t hbrace
    split at h
    · rename_i hc
      cases h
      have hcolon := hm.colon_mem
      rw [show '$' :: c :: after = ['$', c] ++ after from rfl, text_between] at hcolon
      have hcc : c = ':' := by simpa [eq_comm] using hcolon
      rw [hcc] at hc
      exact absurd hc (by simp)
    · split at h
      · split at h
        · rename_i behind hd
          split at h
          · rename_i hs
            cases h
            exact ⟨drive_of_marked hd hm, takeName_ne_empty hs⟩
          · cases h
            rw [← hd] at hm
            exact absurd hm (not_marked_name (c :: t))
        · cases h
          exact absurd hm (not_marked_name (c :: t))
      · cases h
  · cases h

/-! ## Expressions -/

/-- What was read from a place without a dollar sign does not carry the mark. -/
theorem honest_between {text stop : List Char} {expr : Expr} (hd : ∀ t, text ≠ '$' :: t)
    (he : expr.extent = .between text stop) : Honest expr := by
  intro hm
  rw [he, Extent.between] at hm
  have hc := hm.colon_mem
  rw [String.toList_ofList] at hc
  cases ht : text.take (text.length - stop.length) with
  | nil =>
    rw [ht] at hc
    cases hc
  | cons c rest =>
    have hdollar : c = '$' := hm.head_eq (by rw [String.toList_ofList, ht])
    cases text with
    | nil =>
      rw [List.take_nil] at ht
      cases ht
    | cons d t =>
      have hfirst : d = c := by
        cases hn : (d :: t).length - stop.length with
        | zero =>
          rw [hn] at ht
          cases ht
        | succ n =>
          rw [hn, List.take_succ_cons] at ht
          exact (List.cons.inj ht).1
      rw [hfirst, hdollar] at hd
      exact absurd rfl (hd t)

theorem legible_raw (extent : Extent) (kind : RawKind) : Legible (.raw extent kind) where
  own _ := .inr ⟨extent, kind, rfl⟩
  values := List.forall_mem_nil _

theorem legible_between {text stop : List Char} {expr : Expr} (hd : ∀ t, text ≠ '$' :: t)
    (he : expr.extent = .between text stop) (hn : expr.entries = []) : Legible expr where
  own := honest_between hd he
  values := by
    rw [hn]
    exact List.forall_mem_nil _

/-- A find that is legible. -/
def LegibleFind {text : List Char} (found : Found Expr text) : Prop := Legible found.value

/-- The same of a find that there may be. -/
def LegibleAny {text : List Char} (found : Option (Found Expr text)) : Prop :=
  ∀ expr, found = some expr → LegibleFind expr

theorem gives_some {text : List Char} {x : Except Fault (Found Expr text)}
    (h : Gives LegibleFind x) : Gives LegibleAny (some <$> x) := by
  refine Gives.map fun found hf => ?_
  intro expr he
  cases he
  exact h found hf

theorem variableAt_legible (rest : List Char) : Gives LegibleFind (variableAt rest) := by
  refine Gives.bind fun found _ => ?_
  split
  · rename_i name drive after h _
    refine .ok ⟨fun hm => .inl ⟨name, ?_⟩, List.forall_mem_nil _⟩
    obtain ⟨hd, hn⟩ := variableName?_marked h hm
    refine ⟨?_, hn⟩
    show envSource? (.reference _ name drive false) = some name
    rw [envSource?, if_pos hd]
  · refine .ok ⟨fun hm => ?_, List.forall_mem_nil _⟩
    have hc : ':' ∈ (Extent.between (['$'] ++ rest) rest).text.toList := hm.colon_mem
    rw [text_between] at hc
    exact absurd (List.mem_singleton.1 hc) (by decide)

theorem withMembers_legible {text : List Char} {found : Found Expr text} (h : LegibleFind found) :
    Gives LegibleFind (withMembers found) := by
  refine Gives.bind fun rest _ => ?_
  dsimp only
  split
  · exact .ok (legible_raw _ _)
  · exact .ok h

theorem groupExpr_legible (kind : RawKind) (closer c : Char) (t : List Char) :
    Gives LegibleFind (groupExpr kind closer c t) :=
  Gives.bind fun _ _ => .ok (legible_raw _ _)

theorem signedGroupExpr_legible (kind : RawKind) (c : Char) (t : List Char) :
    Gives LegibleFind (signedGroupExpr kind c t) :=
  Gives.bind fun _ _ => .ok (legible_raw _ _)

theorem singleQuotedExpr_legible (t : List Char) : Gives LegibleFind (singleQuotedExpr t) :=
  Gives.bind fun _ _ => .ok (legible_between (by simp) rfl rfl)

theorem doubleQuotedExpr_legible (t : List Char) : Gives LegibleFind (doubleQuotedExpr t) :=
  Gives.bind fun _ _ => .ok (legible_between (by simp) rfl rfl)

theorem hereStringExpr_legible {t body : List Char} {quote : Char}
    (head : hereStringHead? ('@' :: t) = some (quote, body)) :
    Gives LegibleFind (hereStringExpr head) := by
  refine Gives.bind fun found _ => .ok ?_
  show Legible (if quote = '\'' then _ else _)
  split
  · exact legible_between (by simp) rfl rfl
  · exact legible_between (by simp) rfl rfl

theorem dollarExpr_legible (t : List Char) : Gives LegibleFind (dollarExpr t) := by
  unfold dollarExpr
  split
  · exact Gives.bind fun found hf => withMembers_legible (signedGroupExpr_legible _ _ _ found hf)
  · exact Gives.bind fun found hf => withMembers_legible (variableAt_legible _ found hf)

/-- The values of the entries are honest. -/
def HonestEntries {text : List Char} (found : Found Entries text) : Prop :=
  ∀ entry ∈ found.value, Honest entry.2

section

variable {table : TableReader} (htable : ∀ text, Gives HonestEntries (table text))
include htable

theorem atExpr_legible (t : List Char) : Gives LegibleFind (atExpr table t) := by
  unfold atExpr
  split
  · refine Gives.bind fun found hf => .ok ⟨?_, htable _ found hf⟩
    exact honest_between (by simp) rfl
  · exact signedGroupExpr_legible _ _ _
  · split
    · exact .ok (legible_between (by simp) rfl rfl)
    · exact .error _

theorem primary?_legible (text : List Char) : Gives LegibleAny (primary? table text) := by
  unfold primary?
  split
  · exact gives_some (singleQuotedExpr_legible _)
  · exact gives_some (doubleQuotedExpr_legible _)
  · split
    · exact gives_some (hereStringExpr_legible _)
    · exact gives_some (atExpr_legible htable _)
  · exact gives_some (dollarExpr_legible _)
  · exact gives_some (groupExpr_legible _ _ _ _)
  · exact gives_some (groupExpr_legible _ _ _ _)
  · exact gives_some (groupExpr_legible _ _ _ _)
  · refine .ok fun expr h => ?_
    cases h

omit htable in
theorem ne_dollar_of_primary? {text : List Char} (h : primary? table text = .ok none) (t : List Char) :
    text ≠ '$' :: t := by
  rintro rfl
  rw [primary?] at h
  obtain ⟨found, -, hf⟩ := ok_of_map h
  cases hf

omit htable in
theorem numberOrCommand?_legible {text : List Char} (hd : ∀ t, text ≠ '$' :: t) :
    Gives LegibleAny (numberOrCommand? table text) := by
  unfold numberOrCommand?
  split
  · refine Gives.bind fun value _ => .ok fun expr he => ?_
    cases he
    exact legible_between hd rfl rfl
  · split
    · refine Gives.bind fun found _ => .ok fun expr he => ?_
      cases he
      exact legible_raw _ _
    · refine .ok fun expr he => ?_
      cases he

omit htable in
theorem unaryExpr_legible (stops : Char → Bool) (text : List Char) :
    Gives LegibleFind (unaryExpr stops text) := by
  unfold unaryExpr
  split
  · exact .error _
  · split
    · exact Gives.bind fun _ _ => .ok (legible_raw _ _)
    · exact .error _

omit htable in
theorem extended_legible {text : List Char} {first : Found Expr text} (stops : Char → Bool)
    (h : LegibleFind first) : Gives LegibleFind (extended stops first) := by
  refine Gives.bind fun here _ => ?_
  obtain ⟨here, _⟩ := here
  dsimp only
  split
  · exact .ok h
  · exact Gives.bind fun _ _ => .ok (legible_raw _ _)

theorem expression_legible (stops : Char → Bool) (text : List Char) :
    Gives LegibleFind (expression table stops text) := by
  refine Gives.bind fun first hf => ?_
  cases first with
  | some first => exact extended_legible stops (primary?_legible htable text _ hf first rfl)
  | none =>
    refine Gives.bind fun second hs => ?_
    cases second with
    | some second =>
      have hd := ne_dollar_of_primary? hf
      exact extended_legible stops (numberOrCommand?_legible hd _ hs second rfl)
    | none => exact unaryExpr_legible stops text

/-! ## Hashtable literals -/

theorem entryValue_legible (text : List Char) : Gives LegibleFind (entryValue table text) := by
  cases h : skipInline text with
  | error fault =>
    rw [entryValue, checked_error h]
    exact .error fault
  | ok here =>
    by_cases hequals : ∃ t, here = '=' :: t
    · obtain ⟨t, rfl⟩ := hequals
      rw [entryValue, checked_ok h]
      refine Gives.bind fun behind hbehind => ?_
      cases hbehind
      refine Gives.bind fun found _ => ?_
      obtain ⟨here, hb⟩ := found
      dsimp only
      split
      · exact .error _
      · exact Gives.bind fun value hv => .ok (expression_legible htable endsEntry here value hv)
    · rw [entryValue_missing h fun t ht => hequals ⟨t, ht⟩]
      exact .error _

theorem entries_honest (opened text : List Char) :
    Gives HonestEntries (entries table opened text) := by
  induction hn : text.length using Nat.strongRecOn generalizing text with
  | ind n ih =>
    subst hn
    rw [entries]
    refine Gives.bind fun found _ => ?_
    split
    · exact .error _
    · rename_i t h _
      have hl : t.length < text.length := (skipBlanks_suffix h).length_le
      exact Gives.bind fun others ho => .ok (ih _ hl t rfl others ho)
    · exact .ok (List.forall_mem_nil _)
    · rename_i c t h _ _ _
      refine Gives.bind fun key _ => Gives.bind fun value hv => Gives.bind fun others ho => .ok ?_
      have hl : value.rest.length < text.length :=
        Nat.lt_of_lt_of_le (Nat.lt_trans value.shorter key.shorter) (skipBlanks_suffix h).length_le
      refine List.forall_mem_cons.2 ⟨?_, ih _ hl value.rest rfl others ho⟩
      exact (entryValue_legible htable _ value hv).own

end

theorem hashtable_honest (text : List Char) : Gives HonestEntries (hashtable text) := by
  induction hn : text.length using Nat.strongRecOn generalizing text with
  | ind n ih =>
    subst hn
    rw [hashtable]
    refine Gives.bind fun found hf => .ok (entries_honest (fun t => ?_) text (text.drop 2) found hf)
    split
    · rename_i hl
      exact ih _ hl t rfl
    · exact .error _

/-! ## Statements -/

/-- What the word is, if it is no parameter, has honest entries. -/
def HonestWord (element : Element) : Prop :=
  ∀ expr, element = .value expr → ∀ entry ∈ expr.entries, Honest entry.2

/-- The hashtable literals among the words of a command, and the one that is assigned, are honest. -/
def HonestTables : Statement → Prop
  | .assignment _ _ _ value => ∀ entry ∈ value.entries, Honest entry.2
  | .command command => ∀ element ∈ command.elements, HonestWord element
  | .other .. => True

theorem argument_honest (text : List Char) :
    Gives (fun found => ∀ entry ∈ found.value.entries, Honest entry.2) (argument hashtable text) := by
  refine Gives.bind fun first hf => ?_
  split
  · rename_i found
    exact .ok (primary?_legible hashtable_honest text _ hf found rfl).values
  · refine Gives.bind fun found _ => Gives.bind fun expr he => .ok ?_
    have hn : expr.entries = [] := by
      cases hw : wordExpr (.between text found.rest) found.value with
      | error fault =>
        rw [hw] at he
        cases he
      | ok word =>
        rw [hw] at he
        cases he
        exact (wordExpr_shape hw).2
    show ∀ entry ∈ expr.entries, Honest entry.2
    rw [hn]
    exact List.forall_mem_nil _

theorem positional_honest (text : List Char) :
    Gives (fun found => HonestWord found.value) (positional hashtable text) := by
  refine Gives.bind fun found hf => Gives.bind fun rest _ => ?_
  split
  · refine .ok fun expr he => ?_
    cases he
    exact List.forall_mem_nil _
  · refine .ok fun expr he => ?_
    cases he
    exact argument_honest text found hf

theorem element_honest (text : List Char) :
    Gives (fun found => HonestWord found.value) (element hashtable text) := by
  unfold element
  split
  · split
    · unfold parameter
      dsimp only
      split
      · refine Gives.bind fun here _ => ?_
        obtain ⟨here, _⟩ := here
        dsimp only
        split
        · exact .error _
        · refine Gives.bind fun found _ => .ok fun expr he => ?_
          cases he
      · refine .ok fun expr he => ?_
        cases he
    · exact positional_honest _
  · exact positional_honest _

theorem elements_honest (text : List Char) :
    Gives (fun out => ∀ element ∈ out.1, HonestWord element) (elements hashtable text) := by
  induction hn : text.length using Nat.strongRecOn generalizing text with
  | ind n ih =>
    subst hn
    rw [elements]
    refine Gives.bind fun here _ => ?_
    obtain ⟨here, h⟩ := here
    dsimp only
    split
    · exact .ok (List.forall_mem_nil _)
    · refine Gives.bind fun first hf => Gives.bind fun out ho => .ok ?_
      have hl := Nat.lt_of_lt_of_le first.shorter (skipInline_suffix h).length_le
      exact List.forall_mem_cons.2 ⟨element_honest here first hf, ih _ hl first.rest rfl out ho⟩

theorem command_honest (text : List Char) :
    Gives (fun found => HonestTables (.command found.value)) (command hashtable text) :=
  Gives.bind fun name _ => Gives.bind fun out ho => .ok (elements_honest name.rest out ho)

theorem pipeline_honest (text : List Char) :
    Gives (fun found => HonestTables found.value) (pipeline text) := by
  refine Gives.bind fun first hf => Gives.bind fun out _ => .ok ?_
  obtain ⟨kind, rest⟩ := out
  cases kind with
  | chained => trivial
  | piped => trivial
  | alone =>
    show HonestTables (match Junction.alone, first.value with | _, _ => _)
    cases hv : first.value with
    | other => trivial
    | command c =>
      obtain ⟨inner, hi, rfl, -⟩ := stage_gives text first hf c hv
      exact command_honest text inner hi

theorem assignedValue_honest (text : List Char) :
    Gives (fun found => ∀ entry ∈ found.value.entries, Honest entry.2) (assignedValue text) := by
  have kept : Gives (fun found => ∀ entry ∈ found.value.entries, Honest entry.2)
      (assignedValue.asText text) :=
    Gives.bind fun _ _ => .ok (List.forall_mem_nil _)
  unfold assignedValue
  split
  · exact kept
  · refine Gives.bind fun found hf => Gives.bind fun here _ => ?_
    split
    · exact kept
    · exact .ok (expression_legible hashtable_honest endsElement text found hf).values

theorem assignment?_honest (t : List Char) :
    Gives (fun out => ∀ found, out = some found → HonestTables found.value) (assignment? t) := by
  refine Gives.bind fun target _ => Gives.bind fun here _ => ?_
  obtain ⟨here, hh⟩ := here
  dsimp only
  split
  · refine .ok fun found h => ?_
    cases h
  · refine Gives.bind fun start _ => ?_
    obtain ⟨start, hs⟩ := start
    dsimp only
    split
    · exact .error _
    · refine Gives.bind fun value hv => Gives.bind fun rest _ => .ok fun found h => ?_
      cases h
      exact assignedValue_honest start value hv

theorem pipelineStatement_honest (text : List Char) :
    Gives (fun found => HonestTables found.value) (pipelineStatement text) :=
  Gives.bind fun found hf => Gives.bind fun _ _ => .ok (pipeline_honest text found hf)

theorem statement_honest (text : List Char) :
    Gives (fun found => HonestTables found.value) (statement text) := by
  unfold statement
  split
  · exact .error _
  · rename_i t
    split
    · refine Gives.bind fun found hf => ?_
      cases found with
      | some found => exact .ok (assignment?_honest t _ hf found rfl)
      | none => exact pipelineStatement_honest _
    · exact pipelineStatement_honest _
  · split
    · exact .error _
    · split
      · exact Gives.bind fun _ _ => .ok trivial
      · exact pipelineStatement_honest _

theorem honestTables_of_reads {text : List Char} {statements : List Statement}
    {complaints : List Complaint} (h : Reads text statements complaints) :
    ∀ s ∈ statements, HonestTables s := by
  induction h with
  | done _ => exact List.forall_mem_nil _
  | next _ hf _ ih => exact List.forall_mem_cons.2 ⟨statement_honest _ _ hf, ih⟩
  | resumed _ _ _ ih => exact ih
  | stuck _ => exact List.forall_mem_nil _

/-- In a script that was read, no entry of a hashtable only looks like an environment variable. -/
theorem honestTables_of_read {source : String} {reading : Reading}
    (h : Script.read source = .ok reading) : ∀ s ∈ reading.statements, HonestTables s := by
  obtain ⟨⟨statements, complaints⟩, hr, he⟩ := ok_of_bind h
  cases he
  exact honestTables_of_reads (reads_of_readStatements hr)

end PageScript.Compile
