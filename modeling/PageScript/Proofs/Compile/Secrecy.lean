import PageScript.CSharp.Module
import PageScript.Compile.Block
import PageScript.Proofs.FoldedTable

/-!
# Account keys stay out of the program

An account key that is taken from the environment is read when the program runs: what a block compiles
to does not depend on the value that the variable has during compilation.

The variable is called `secret`. A statement exposes it if it reads it in any other place than as an
account key, and for blocks without such a statement two compilations, under environments that differ
in nothing but the secret, are compared step by step. Their parameters do differ, in the value of
`AccountKey`, but only where both record that it comes from the secret (`Alike`), and then no branch
looks at the value.
-/

namespace PageScript.Compile

open Script (Expr Element Statement)

/-! ## Where a statement exposes a variable -/

/-- A double-quoted string with this body can ask for the environment variable `secret`. A reference
without a value is scanned again behind its dollar sign; only the automatic variables always have one. -/
def bodyReads (secret : String) (body : List Char) : Bool :=
  match body with
  | [] => false
  | '`' :: _ :: rest => bodyReads secret rest
  | '"' :: '"' :: rest => bodyReads secret rest
  | '$' :: text =>
    match _h : referenceParts? text with
    | some (drive, name, rest) =>
      if Text.fold (String.ofList drive) == "env" then
        String.ofList name == secret || bodyReads secret rest || bodyReads secret text
      else
        bodyReads secret rest ||
          ((automaticVariables.get? (String.ofList name)).isNone && bodyReads secret text)
    | none => bodyReads secret text
  | _ :: rest => bodyReads secret rest
termination_by body.length
decreasing_by
  · simp only [List.length_cons]; omega
  · simp only [List.length_cons]; omega
  · have := (referenceParts?_suffix _h).length_le
    simp only [List.length_cons]
    omega
  · simp
  · have := (referenceParts?_suffix _h).length_le
    simp only [List.length_cons]
    omega
  · simp
  · simp
  · simp

/-- The parameter that holds the account key. -/
def keyParameter : String := "AccountKey"

/-- The key of an entry is the constant `AccountKey`, in any letter case. -/
def isKeyConstant : Expr → Bool
  | .string _ value _ => sameName value keyParameter
  | _ => false

mutual

/-- An expression reads the environment variable `secret`, other than as the account key of a
hashtable literal. -/
def reads (secret : String) : Expr → Bool
  | .expandable _ body => bodyReads secret body.toList
  | .reference _ name drive splatted => !splatted && Script.isEnvDrive drive && name == secret
  | .hashtable _ entries => entriesRead secret entries
  | .string .. | .number .. | .raw .. => false

def entriesRead (secret : String) : List (Expr × Expr) → Bool
  | [] => false
  | entry :: rest => entryReads secret entry || entriesRead secret rest

def entryReads (secret : String) : Expr × Expr → Bool
  | (key, value) =>
    reads secret key ||
      (!(isKeyConstant key && envSource? value == some secret) && reads secret value)

end

/-- The words of a command that reads an item expose the secret: one of them reads it and is not the
argument of the parameter `AccountKey`. -/
def wordsExpose (secret : String) : List Element → Bool
  | [] => false
  | .parameter _ name (some argument) :: rest =>
    (!(sameName name keyParameter && envSource? argument == some secret) && reads secret argument) ||
      wordsExpose secret rest
  | .parameter _ name none :: .value argument :: rest =>
    (!(sameName name keyParameter && envSource? argument == some secret) && reads secret argument) ||
      wordsExpose secret rest
  | .parameter _ _ none :: rest => wordsExpose secret rest
  | .value value :: rest => reads secret value || wordsExpose secret rest

/-- A word of a command reads the secret. -/
def wordReads (secret : String) : Element → Bool
  | .parameter _ _ argument => argument.any (reads secret)
  | .value value => reads secret value

/-- A statement reads the secret in another place than as an account key. -/
def exposes (secret : String) : Statement → Bool
  | .assignment _ _ _ value => reads secret value
  | .command command =>
    if Text.fold command.name == readCommand then wordsExpose secret command.elements
    else command.elements.any (wordReads secret)
  | .other .. => false

section

variable {secret : String} {left right : Environ} {known : FoldedTable String}

/-- Two environments that differ in the secret at most. -/
def AgreeExcept (secret : String) (left right : Environ) : Prop :=
  ∀ name, name ≠ secret → left name = right name

/-! ## Expressions that do not read the secret -/

theorem AgreeExcept.set? (ha : AgreeExcept secret left right) {name : String} (h : name ≠ secret) :
    Environ.set? left name = Environ.set? right name := by
  rw [Environ.set?, Environ.set?, ha name h]

theorem expandChars_eq (ha : AgreeExcept secret left right) {body : List Char}
    (h : bodyReads secret body = false) :
    Scope.expandChars { environ := left, known } body =
      Scope.expandChars { environ := right, known } body := by
  fun_induction bodyReads secret body with
  | case1 => rw [Scope.expandChars, Scope.expandChars]
  | case2 c rest ih => rw [Scope.expandChars, Scope.expandChars, ih h]
  | case3 rest ih => rw [Scope.expandChars, Scope.expandChars, ih h]
  | case4 text drive name rest hp henv ihRest ihText =>
    simp only [Bool.or_eq_false_iff, beq_eq_false_iff_ne] at h
    rw [Scope.expandChars_reference _ hp, Scope.expandChars_reference _ hp]
    simp only [Scope.reference?, if_pos henv, ha.set? h.1.1, ihRest h.1.2, ihText h.2]
  | case5 text drive name rest hp henv ihRest ihText =>
    rw [Bool.or_eq_false_iff, Bool.and_eq_false_iff] at h
    rw [Scope.expandChars_reference _ hp, Scope.expandChars_reference _ hp]
    simp only [Scope.reference?, if_neg henv, Scope.lookup?, ihRest h.1]
    cases hv : automaticVariables.get? (String.ofList name) with
    | some value => rfl
    | none =>
      rw [hv] at h
      rw [ihText (h.2.resolve_left Bool.noConfusion)]
  | case6 text hp ih => rw [Scope.expandChars_dollar _ hp, Scope.expandChars_dollar _ hp, ih h]
  | case7 c rest hescape hquote hdollar ih =>
    have plain (scope : Scope) : scope.expandChars (c :: rest) = c :: scope.expandChars rest := by
      rw [Scope.expandChars]
      · exact hescape
      · exact hquote
      · exact hdollar
    rw [plain, plain, ih h]

theorem resolve_eq (ha : AgreeExcept secret left right) {expr : Expr}
    (h : reads secret expr = false) :
    Scope.resolve { environ := left, known } expr =
      Scope.resolve { environ := right, known } expr := by
  cases expr with
  | expandable extent body =>
    rw [reads] at h
    rw [Scope.resolve, Scope.resolve, Scope.expand, Scope.expand, expandChars_eq ha h]
  | reference extent name drive splatted =>
    rw [Scope.resolve, Scope.resolve]
    cases splatted with
    | true => rfl
    | false =>
      cases hd : Script.isEnvDrive drive with
      | false => rfl
      | true =>
        have hn : name ≠ secret := by
          simpa [reads, hd] using h
        simp only [Scope.envValue, ha.set? hn]
        rfl
  | _ => rfl

/-! ## Two computations at once -/

/-- Both computations fail with the same fault, or both succeed with results that are related. -/
inductive Both {α β : Type} (R : α → β → Prop) :
    Except Numeral.IntegerFault α → Except Numeral.IntegerFault β → Prop where
  | ok {a : α} {b : β} : R a b → Both R (.ok a) (.ok b)
  | error (fault : Numeral.IntegerFault) : Both R (.error fault) (.error fault)

theorem Both.bind {α β γ δ : Type} {R : α → β → Prop} {S : γ → δ → Prop}
    {x : Except Numeral.IntegerFault α} {y : Except Numeral.IntegerFault β}
    {f : α → Except Numeral.IntegerFault γ} {g : β → Except Numeral.IntegerFault δ}
    (h : Both R x y) (hfg : ∀ a b, R a b → Both S (f a) (g b)) : Both S (x >>= f) (y >>= g) := by
  cases h with
  | ok hab => exact hfg _ _ hab
  | error fault => exact .error fault

theorem Both.refl {α : Type} {R : α → α → Prop} (hr : ∀ a, R a a)
    (x : Except Numeral.IntegerFault α) : Both R x x := by
  cases x with
  | error fault => exact .error fault
  | ok a => exact .ok (hr a)

theorem Both.of_eq {α : Type} {x y : Except Numeral.IntegerFault α} (h : x = y) : Both Eq x y := by
  rw [h]
  exact Both.refl (fun _ => rfl) y

theorem Both.eq {α : Type} {x y : Except Numeral.IntegerFault α} (h : Both Eq x y) : x = y := by
  cases h with
  | ok hab => rw [hab]
  | error fault => rfl

theorem Both.foldlM {α β γ : Type} {R : α → β → Prop} {f : α → γ → Except Numeral.IntegerFault α}
    {g : β → γ → Except Numeral.IntegerFault β} {items : List γ} {a : α} {b : β}
    (hstep : ∀ item ∈ items, ∀ a b, R a b → Both R (f a item) (g b item)) (h : R a b) :
    Both R (items.foldlM f a) (items.foldlM g b) := by
  induction items generalizing a b with
  | nil => exact .ok h
  | cons item rest ih =>
    rw [List.foldlM_cons, List.foldlM_cons]
    refine (hstep item List.mem_cons_self a b h).bind fun a b hab => ?_
    exact ih (fun item hi => hstep item (List.mem_cons_of_mem _ hi)) hab

/-! ## Parameters -/

theorem put_sources_get? (parameters : Parameters) (w : Write) (name : String) :
    (parameters.put w).sources.get? name =
      if sameName name w.name then w.source else parameters.sources.get? name := by
  rw [Parameters.put]
  cases w.source with
  | some source => exact FoldedTable.get?_insert ..
  | none => exact FoldedTable.get?_erase ..

theorem write_sources_get? (parameters : Parameters) (w : Write) (name : String) :
    (parameters.write w).sources.get? name =
      if sameName name w.name then w.source else parameters.sources.get? name := by
  rw [Parameters.write, put_sources_get?, FoldedTable.get?_erase]
  cases sameName name w.name <;> rfl

/-- Two writes of one parameter that differ in the value at most, and only if that is an account key
from the secret. -/
structure Write.Alike (secret : String) (w v : Write) : Prop where
  name : w.name = v.name
  source : w.source = v.source
  value : w.value = v.value ∨ (sameName keyParameter w.name = true ∧ w.source = some secret)

/-- A value that is looked at: all but the account key. -/
def shown (name value : String) : Option String :=
  if sameName keyParameter name then none else some value

/-- The entries of a table with the account key hidden. -/
def masked (entries : List (String × String)) : List (String × Option String) :=
  entries.map fun entry => (entry.1, shown entry.1 entry.2)

/-- Two sets of parameters that differ in the account key at most, and only if that comes from the
secret. -/
structure Alike (secret : String) (p q : Parameters) : Prop where
  sources : p.sources = q.sources
  distinct : p.values.Distinct
  others : masked p.values.toList = masked q.values.toList
  key : p.values = q.values ∨ p.sources.get? keyParameter = some secret

theorem alike_empty : Alike secret {} {} :=
  ⟨rfl, FoldedTable.distinct_empty, rfl, .inl rfl⟩

/-- Where no entry is the account key, nothing is hidden. -/
theorem eq_of_masked {entries others : List (String × String)}
    (h : masked entries = masked others)
    (hk : ∀ entry ∈ entries, sameName keyParameter entry.1 = false) : entries = others := by
  induction entries generalizing others with
  | nil =>
    cases others with
    | nil => rfl
    | cons other rest => cases h
  | cons entry rest ih =>
    cases others with
    | nil => cases h
    | cons other more =>
      obtain ⟨hhead, htail⟩ := List.cons.inj h
      obtain ⟨hname, hvalue⟩ := Prod.mk.inj hhead
      have hn := hk entry List.mem_cons_self
      rw [← hname, shown, shown, hn] at hvalue
      rw [ih htail fun entry he => hk entry (List.mem_cons_of_mem _ he)]
      exact congrArg (· :: more) (Prod.ext hname (Option.some.inj hvalue))

/-- Writing the account key anew makes up for the difference. -/
theorem writeInto_eq_of_masked {entries others : List (String × String)} {name : String}
    (hn : sameName keyParameter name = true) (value : String)
    (hd : entries.Pairwise fun first second => sameName first.1 second.1 = false)
    (h : masked entries = masked others) :
    FoldedTable.writeInto name value entries = FoldedTable.writeInto name value others := by
  induction entries generalizing others with
  | nil =>
    cases others with
    | nil => rfl
    | cons other rest => cases h
  | cons entry rest ih =>
    cases others with
    | nil => cases h
    | cons other more =>
      obtain ⟨head, tail⟩ := List.pairwise_cons.1 hd
      obtain ⟨hhead, htail⟩ := List.cons.inj h
      obtain ⟨hname, hvalue⟩ := Prod.mk.inj hhead
      have hsame : sameName name entry.1 = sameName keyParameter entry.1 :=
        (sameName_congr hn entry.1).symm
      rw [FoldedTable.writeInto, FoldedTable.writeInto, ← hname, hsame]
      cases hk : sameName keyParameter entry.1 with
      | true =>
        have hrest : rest = more := by
          refine eq_of_masked htail fun later hl => ?_
          rw [sameName_congr hk]
          exact head later hl
        rw [hrest]
        rfl
      | false =>
        rw [← hname, shown, shown, hk] at hvalue
        rw [if_neg Bool.false_ne_true, if_neg Bool.false_ne_true, ih tail htail,
          Prod.ext hname (Option.some.inj hvalue)]

/-- A write of one parameter, whatever happens to the places of the sources. -/
theorem Alike.insert {p q : Parameters} {w v : Write} (h : Alike secret p q)
    (hw : Write.Alike secret w v) {sources : FoldedTable String}
    (hs : ∀ name, sources.get? name =
      if sameName name w.name then w.source else p.sources.get? name) :
    Alike secret { values := p.values.insert w.name w.value, sources }
      { values := q.values.insert v.name v.value, sources } where
  sources := rfl
  distinct := h.distinct.insert w.name w.value
  others := by
    have hv : shown w.name w.value = shown w.name v.value := by
      rcases hw.value with hv | ⟨hk, -⟩
      · rw [hv]
      · rw [shown, shown, hk]
        rfl
    simp only [masked, FoldedTable.toList_insert, FoldedTable.map_writeInto shown, ← hw.name, hv]
    exact congrArg _ h.others
  key := by
    rw [hs keyParameter]
    cases hk : sameName keyParameter w.name with
    | true =>
      rcases hw.value with hv | ⟨-, hsource⟩
      · left
        show FoldedTable.insert _ _ _ = FoldedTable.insert _ _ _
        rw [← FoldedTable.toList_inj, FoldedTable.toList_insert, FoldedTable.toList_insert, ← hw.name,
          ← hv, writeInto_eq_of_masked hk w.value h.distinct h.others]
      · exact .inr hsource
    | false =>
      have hv : w.value = v.value := by
        rcases hw.value with hv | ⟨hk', -⟩
        · exact hv
        · cases hk.symm.trans hk'
      refine h.key.imp (fun he => ?_) id
      show FoldedTable.insert _ _ _ = FoldedTable.insert _ _ _
      rw [he, hw.name, hv]

theorem Alike.put {p q : Parameters} {w v : Write} (h : Alike secret p q)
    (hw : Write.Alike secret w v) : Alike secret (p.put w) (q.put v) := by
  have hq : q.put v = { values := q.values.insert v.name v.value, sources := (p.put w).sources } := by
    rw [Parameters.put, Parameters.put, ← hw.source, ← hw.name, h.sources]
  rw [hq]
  exact h.insert hw (put_sources_get? p w)

theorem Alike.write {p q : Parameters} {w v : Write} (h : Alike secret p q)
    (hw : Write.Alike secret w v) : Alike secret (p.write w) (q.write v) := by
  have hq : q.write v =
      { values := q.values.insert v.name v.value, sources := (p.write w).sources } := by
    rw [Parameters.write, Parameters.write, Parameters.put, Parameters.put, ← hw.source, ← hw.name,
      h.sources]
  rw [hq]
  exact h.insert hw (write_sources_get? p w)

/-- Merging tables writes their entries in order, so the tables may differ as their writes may. -/
theorem foldl_put_alike {p q : Parameters} {sources : FoldedTable String}
    {entries others : List (String × String)} (h : Alike secret p q)
    (hm : masked entries = masked others)
    (hk : entries = others ∨ sources.get? keyParameter = some secret) :
    Alike secret
      ((entries.map fun (name, value) => (⟨name, value, sources.get? name⟩ : Write)).foldl
        Parameters.put p)
      ((others.map fun (name, value) => (⟨name, value, sources.get? name⟩ : Write)).foldl
        Parameters.put q) := by
  induction entries generalizing others p q with
  | nil =>
    cases others with
    | nil => exact h
    | cons other rest => cases hm
  | cons entry rest ih =>
    cases others with
    | nil => cases hm
    | cons other more =>
      obtain ⟨hhead, htail⟩ := List.cons.inj hm
      obtain ⟨hname, hvalue⟩ := Prod.mk.inj hhead
      have hw : Write.Alike secret ⟨entry.1, entry.2, sources.get? entry.1⟩
          ⟨other.1, other.2, sources.get? other.1⟩ := by
        refine ⟨hname, congrArg sources.get? hname, ?_⟩
        rcases hk with he | hsecret
        · exact .inl (congrArg Prod.snd (List.cons.inj he).1)
        · rw [← hname, shown, shown] at hvalue
          cases hn : sameName keyParameter entry.1 with
          | true => exact .inr ⟨rfl, (FoldedTable.get?_congr hn sources).symm.trans hsecret⟩
          | false =>
            rw [hn] at hvalue
            exact .inl (Option.some.inj hvalue)
      rw [List.map_cons, List.map_cons, List.foldl_cons, List.foldl_cons]
      exact ih (h.put hw) htail (hk.imp_left fun he => (List.cons.inj he).2)

theorem Alike.merge {p q b c : Parameters} (h : Alike secret p q) (hb : Alike secret b c) :
    Alike secret (p.merge b) (q.merge c) := by
  rw [Parameters.merge, Parameters.merge, Parameters.writes, Parameters.writes, ← hb.sources]
  exact foldl_put_alike h hb.others (hb.key.imp_left fun he => congrArg FoldedTable.toList he)

/-! ## Account keys from the secret -/

theorem eq_reference_of_envSource? {expr : Expr} (h : envSource? expr = some secret) :
    ∃ extent drive, expr = .reference extent secret drive false ∧ Script.isEnvDrive drive = true := by
  unfold envSource? at h
  split at h
  · rename_i extent name drive
    split at h
    · rename_i hd
      cases h
      exact ⟨extent, drive, rfl, hd⟩
    · cases h
  · cases h

theorem resolve_of_envSource? {expr : Expr} (scope : Scope) (h : envSource? expr = some secret) :
    scope.resolve expr = .ok (scope.envValue secret) := by
  obtain ⟨extent, drive, rfl, hd⟩ := eq_reference_of_envSource? h
  simp only [Scope.resolve, hd, if_true, Bool.false_eq_true, if_false]

theorem envValue_isEmpty (scope : Scope) (h : secret ≠ "") :
    (scope.envValue secret).isEmpty = false := by
  rw [Scope.envValue, Environ.set?]
  cases hv : (scope.environ secret).filter (!·.isEmpty) with
  | none => simpa using h
  | some value => simpa using (Option.filter_eq_some_iff.1 hv).2

/-! ## The words of a command -/

/-- An argument that does not read the secret, or that is an account key from it. -/
theorem argumentWrite_alike (ha : AgreeExcept secret left right) {name : String} {argument : Expr}
    (h : (!(sameName name keyParameter && envSource? argument == some secret) &&
      reads secret argument) = false) :
    Both (Write.Alike secret)
      (Scope.argumentWrite { environ := left, known } name (some argument))
      (Scope.argumentWrite { environ := right, known } name (some argument)) := by
  rw [Scope.argumentWrite, Scope.argumentWrite]
  cases hr : reads secret argument with
  | false =>
    refine (Both.of_eq (resolve_eq ha hr)).bind fun text other he => ?_
    exact .ok ⟨rfl, rfl, .inl he⟩
  | true =>
    rw [hr, Bool.and_true, Bool.not_eq_false', Bool.and_eq_true, beq_iff_eq] at h
    obtain ⟨hk, hs⟩ := h
    rw [sameName_comm] at hk
    rw [resolve_of_envSource? _ hs, resolve_of_envSource? _ hs]
    exact .ok ⟨rfl, rfl, .inr ⟨hk, hs⟩⟩

theorem keyName_eq (ha : AgreeExcept secret left right) {key : Expr}
    (h : reads secret key = false) :
    Scope.keyName { environ := left, known } key = Scope.keyName { environ := right, known } key := by
  cases key with
  | expandable extent body =>
    simp only [Scope.keyName, Scope.keyName.named, resolve_eq ha h]
  | _ => rfl

theorem keyName_of_isKeyConstant {key : Expr} (h : isKeyConstant key = true) :
    ∃ name, sameName keyParameter name = true ∧ ∀ scope : Scope, scope.keyName key = .ok name := by
  cases key with
  | string extent value quote =>
    rw [isKeyConstant, sameName_comm] at h
    have hne : value.isEmpty = false := by
      cases he : value.isEmpty with
      | false => rfl
      | true =>
        rw [String.isEmpty_iff.1 he] at h
        exact absurd h (by decide)
    refine ⟨value, h, fun scope => ?_⟩
    rw [Scope.keyName, Scope.keyName.named, Scope.resolve]
    show Except.ok (if value.isEmpty then extent.text else value) = _
    rw [hne]
    rfl
  | _ => cases h

theorem entryWrite_alike (ha : AgreeExcept secret left right) (hsecret : secret ≠ "")
    {key value : Expr} (h : entryReads secret (key, value) = false) :
    Both (Write.Alike secret) (Scope.entryWrite { environ := left, known } key value)
      (Scope.entryWrite { environ := right, known } key value) := by
  rw [entryReads, Bool.or_eq_false_iff] at h
  obtain ⟨hkey, hvalue⟩ := h
  rw [Scope.entryWrite, Scope.entryWrite]
  cases hr : reads secret value with
  | false =>
    rw [keyName_eq ha hkey, resolve_eq ha hr]
    exact Both.refl (fun _ => ⟨rfl, rfl, .inl rfl⟩) _
  | true =>
    rw [hr, Bool.and_true, Bool.not_eq_false', Bool.and_eq_true, beq_iff_eq] at hvalue
    obtain ⟨hk, hs⟩ := hvalue
    obtain ⟨name, hsame, hname⟩ := keyName_of_isKeyConstant hk
    simp only [hname, resolve_of_envSource? _ hs, bind, Except.bind, envValue_isEmpty _ hsecret,
      Bool.false_eq_true, if_false]
    exact .ok ⟨rfl, rfl, .inr ⟨hsame, hs⟩⟩

theorem entryReads_of_mem {entries : List (Expr × Expr)} {entry : Expr × Expr}
    (h : entriesRead secret entries = false) (he : entry ∈ entries) :
    entryReads secret entry = false := by
  induction entries with
  | nil => cases he
  | cons first rest ih =>
    rw [entriesRead, Bool.or_eq_false_iff] at h
    rcases List.mem_cons.1 he with rfl | he
    · exact h.1
    · exact ih h.2 he

theorem table_alike (ha : AgreeExcept secret left right) (hsecret : secret ≠ "")
    {entries : List (Expr × Expr)} (h : entriesRead secret entries = false) :
    Both (Alike secret) (Scope.table { environ := left, known } entries)
      (Scope.table { environ := right, known } entries) := by
  refine Both.foldlM (fun entry he p q hpq => ?_) alike_empty
  refine (entryWrite_alike ha hsecret (entryReads_of_mem h he)).bind fun w v hw => ?_
  exact .ok (hpq.write hw)

/-- Two tables of hashtables, with the same variables and parameters that are alike. -/
def BindingsAlike (secret : String) (bindings others : FoldedTable Parameters) : Prop :=
  ∀ name, (bindings.get? name = none ∧ others.get? name = none) ∨
    ∃ p q, bindings.get? name = some p ∧ others.get? name = some q ∧ Alike secret p q

/-- A word that is no parameter, in front of words of which the same is known. -/
theorem collectFrom_value_alike (ha : AgreeExcept secret left right) (hsecret : secret ≠ "")
    {bindings others : FoldedTable Parameters} (hb : BindingsAlike secret bindings others)
    {value : Expr} (h : reads secret value = false) {rest : List Element} {p q : Parameters}
    (hpq : Alike secret p q)
    (hrest : ∀ {p q : Parameters}, Alike secret p q →
      Both (Alike secret) (Scope.collectFrom { environ := left, known } bindings p rest)
        (Scope.collectFrom { environ := right, known } others q rest)) :
    Both (Alike secret)
      (Scope.collectFrom { environ := left, known } bindings p (.value value :: rest))
      (Scope.collectFrom { environ := right, known } others q (.value value :: rest)) := by
  cases value with
  | reference extent name drive splatted =>
    cases splatted with
    | true =>
      rw [Scope.collectFrom, Scope.collectFrom]
      rcases hb name with ⟨hn, hn'⟩ | ⟨b, c, hn, hn', hbc⟩
      · rw [hn, hn']
        exact hrest hpq
      · rw [hn, hn']
        exact hrest (hpq.merge hbc)
    | false =>
      simp only [Scope.collectFrom]
      exact hrest hpq
  | hashtable extent entries =>
    rw [reads] at h
    rw [Scope.collectFrom, Scope.collectFrom]
    exact (table_alike ha hsecret h).bind fun b c hbc => hrest (hpq.merge hbc)
  | _ =>
    simp only [Scope.collectFrom]
    exact hrest hpq

theorem collectFrom_alike (ha : AgreeExcept secret left right) (hsecret : secret ≠ "")
    {bindings others : FoldedTable Parameters} (hb : BindingsAlike secret bindings others)
    {elements : List Element} (h : wordsExpose secret elements = false) {p q : Parameters}
    (hpq : Alike secret p q) :
    Both (Alike secret) (Scope.collectFrom { environ := left, known } bindings p elements)
      (Scope.collectFrom { environ := right, known } others q elements) := by
  fun_induction wordsExpose secret elements generalizing p q with
  | case1 =>
    rw [Scope.collectFrom, Scope.collectFrom]
    exact .ok hpq
  | case2 extent name argument rest ih =>
    rw [Bool.or_eq_false_iff] at h
    rw [Scope.collectFrom, Scope.collectFrom]
    cases name.isEmpty with
    | true => exact ih h.2 hpq
    | false =>
      refine (argumentWrite_alike ha h.1).bind fun w v hw => ?_
      exact ih h.2 (hpq.write hw)
  | case3 extent name argument rest ih =>
    rw [Bool.or_eq_false_iff] at h
    rw [Scope.collectFrom, Scope.collectFrom]
    cases hn : name.isEmpty with
    | true =>
      -- A parameter without a name takes no argument, so the word stands for itself.
      have hr : reads secret argument = false := by
        rw [String.isEmpty_iff.1 hn] at h
        exact h.1
      exact collectFrom_value_alike ha hsecret hb hr hpq (ih h.2)
    | false =>
      refine (argumentWrite_alike ha h.1).bind fun w v hw => ?_
      exact ih h.2 (hpq.write hw)
  | case4 extent name rest hr ih =>
    rw [Scope.collectFrom_switch hr, Scope.collectFrom_switch hr]
    cases name.isEmpty with
    | true => exact ih h hpq
    | false => exact ih h (hpq.write ⟨rfl, rfl, .inl rfl⟩)
  | case5 value rest ih =>
    rw [Bool.or_eq_false_iff] at h
    exact collectFrom_value_alike ha hsecret hb h.1 hpq (ih h.2)

/-! ## The operation of a command -/

/-- Tables that differ in the account key at most have the same values under every other name. -/
theorem get?_eq_of_masked {values others : FoldedTable String}
    (h : masked values.toList = masked others.toList) {name : String}
    (hn : sameName keyParameter name = false) : values.get? name = others.get? name := by
  have found (entries : List (String × String)) :
      (masked entries).find? (sameName name ·.1) =
        (entries.find? (sameName name ·.1)).map fun entry => (entry.1, some entry.2) := by
    rw [masked, List.find?_map]
    refine Option.map_congr fun entry he => ?_
    have hs : sameName name entry.1 = true := by simpa using List.find?_some he
    have hk : sameName keyParameter entry.1 = false := by
      rw [sameName_comm, ← sameName_congr hs, sameName_comm, hn]
    rw [shown, hk]
    rfl
  have hm := congrArg (fun entries => (entries.find? (sameName name ·.1)).bind (·.2)) h
  simp only [found, Option.bind_map] at hm
  rw [FoldedTable.get?, FoldedTable.get?, FoldedTable.entry?_eq_find?, FoldedTable.entry?_eq_find?,
    Option.map_eq_bind, Option.map_eq_bind]
  exact hm

/-- Parameters that are alike give the same operation. Where the account keys differ, the source of
the key is used if there is an account, and no key at all if there is none. -/
theorem readOperation_eq {p q : Parameters} (h : Alike secret p q) (hsecret : secret ≠ "")
    (settings : Settings) : readOperation settings p = readOperation settings q := by
  rcases h.key with hv | hs
  · have hpq : p = q := by
      cases p
      cases q
      cases hv
      cases h.sources
      rfl
    rw [hpq]
  · have same (name : String) (hn : sameName keyParameter name = false) :
        p.values.get? name = q.values.get? name := get?_eq_of_masked h.others hn
    have hsource : p.sources.get? "AccountKey" = some secret := hs
    have hp : keyVariable? p = some secret := by
      rw [keyVariable?, hsource]
    have hq : keyVariable? q = some secret := by
      rw [keyVariable?, ← h.sources, hsource]
    have hfilter : (some secret).filter (!·.isEmpty) = some secret := by
      simpa [Option.filter] using hsecret
    simp only [readOperation, hp, hq, hfilter, connectionOf?, same "DatabaseName" rfl,
      same "ContainerName" rfl, same "Top" rfl, same "Query" rfl, same "PartitionKey" rfl,
      same "AccountName" rfl, same "ConnectionString" rfl]
    cases (q.values.get? "AccountName").filter (!Text.allBlank ·) with
    | some account => rfl
    | none => rfl

/-! ## Statements and blocks -/

theorem assign_eq (ha : AgreeExcept secret left right) {target value : Expr}
    {operator : Script.AssignOp} (h : reads secret value = false) :
    Scope.assign { environ := left, known } target operator value =
      Scope.assign { environ := right, known } target operator value := by
  have hscalar : Scope.scalar? { environ := left, known } value =
      Scope.scalar? { environ := right, known } value := by
    cases value with
    | hashtable extent entries => rfl
    | raw extent kind => rfl
    | _ => simp only [Scope.scalar?, resolve_eq ha h]
  simp only [Scope.assign, hscalar]

theorem rebind_alike (ha : AgreeExcept secret left right) (hsecret : secret ≠ "")
    {bindings others : FoldedTable Parameters} (hb : BindingsAlike secret bindings others)
    {name : String} {operator : Script.AssignOp} {value : Expr} (h : reads secret value = false) :
    Both (BindingsAlike secret)
      (Scope.rebind { environ := left, known } bindings name operator value)
      (Scope.rebind { environ := right, known } others name operator value) := by
  have erased : BindingsAlike secret (bindings.erase name) (others.erase name) := by
    intro other
    rw [FoldedTable.get?_erase, FoldedTable.get?_erase]
    cases sameName other name with
    | true => exact .inl ⟨rfl, rfl⟩
    | false => exact hb other
  unfold Scope.rebind
  split
  · rename_i extent entries
    rw [reads] at h
    refine (table_alike ha hsecret h).bind fun p q hpq => .ok fun other => ?_
    rw [FoldedTable.get?_insert, FoldedTable.get?_insert]
    cases sameName other name with
    | true => exact .inr ⟨p, q, rfl, rfl, hpq⟩
    | false => exact hb other
  · exact .ok erased

/-- Two states of the first pass with the same variables, and hashtables that are alike. -/
structure BoundAlike (secret : String) (bound other : Bound) : Prop where
  known : bound.known = other.known
  bindings : BindingsAlike secret bound.bindings other.bindings

theorem bindStatement_alike (ha : AgreeExcept secret left right) (hsecret : secret ≠ "")
    {bound other : Bound} (hb : BoundAlike secret bound other) {statement : Statement}
    (h : exposes secret statement = false) :
    Both (BoundAlike secret) (bindStatement left bound statement)
      (bindStatement right other statement) := by
  unfold bindStatement
  split
  · rw [exposes] at h
    rw [hb.known]
    refine (rebind_alike ha hsecret hb.bindings h).bind fun bindings others hbo => ?_
    refine (Both.of_eq (assign_eq ha h)).bind fun known known' hk => ?_
    exact .ok ⟨hk, hbo⟩
  · exact .ok hb

theorem bindAll_alike (ha : AgreeExcept secret left right) (hsecret : secret ≠ "")
    {statements : List Statement} (h : ∀ statement ∈ statements, exposes secret statement = false) :
    Both (BoundAlike secret) (bindAll left statements) (bindAll right statements) := by
  refine Both.foldlM (fun statement hs bound other hb => ?_) ⟨rfl, fun _ => .inl ⟨rfl, rfl⟩⟩
  exact bindStatement_alike ha hsecret hb (h statement hs)

theorem reads_firstArgument? {elements : List Element} {argument : Expr}
    (h : elements.any (wordReads secret) = false) (hf : firstArgument? elements = some argument) :
    reads secret argument = false := by
  obtain ⟨element, he, hv⟩ := List.exists_of_findSome?_eq_some hf
  have hr := List.any_eq_false.1 h element he
  cases element with
  | parameter extent name attached => cases hv
  | value expr =>
    cases hv
    simpa [wordReads] using hr

theorem commandOperations_eq (ha : AgreeExcept secret left right) (hsecret : secret ≠ "")
    {bindings others : FoldedTable Parameters} (hb : BindingsAlike secret bindings others)
    {settings : Settings} {command : Script.Command}
    (h : exposes secret (.command command) = false) :
    Scope.commandOperations { environ := left, known } settings bindings command =
      Scope.commandOperations { environ := right, known } settings others command := by
  rw [exposes] at h
  simp only [Scope.commandOperations]
  cases hw : Text.fold command.name == writeCommand with
  | true =>
    have hr : (Text.fold command.name == readCommand) = false := by
      rw [beq_iff_eq.1 hw]
      decide
    rw [hr, if_neg Bool.false_ne_true] at h
    rw [if_pos rfl, if_pos rfl, Scope.writeOperations, Scope.writeOperations]
    cases hf : firstArgument? command.elements with
    | none => rfl
    | some argument => simp only [resolve_eq ha (reads_firstArgument? h hf)]
  | false =>
    rw [if_neg Bool.false_ne_true, if_neg Bool.false_ne_true]
    cases hr : Text.fold command.name == readCommand with
    | false => rfl
    | true =>
      rw [hr, if_pos rfl] at h
      refine ((collectFrom_alike ha hsecret hb h alike_empty).bind fun p q hpq => ?_).eq
      exact Both.of_eq (by rw [readOperation_eq hpq hsecret])

theorem compileAll_eq (ha : AgreeExcept secret left right) (hsecret : secret ≠ "")
    {bindings others : FoldedTable Parameters} (hb : BindingsAlike secret bindings others)
    {settings : Settings} {statements : List Statement}
    (h : ∀ statement ∈ statements, exposes secret statement = false) :
    compileAll settings left bindings known statements =
      compileAll settings right others known statements := by
  induction statements generalizing known with
  | nil => rfl
  | cons statement rest ih =>
    rw [List.forall_mem_cons] at h
    have hs : compileStatement settings left bindings known statement =
        compileStatement settings right others known statement := by
      cases statement with
      | assignment extent target operator value =>
        rw [compileStatement, compileStatement, assign_eq ha h.1]
      | command command =>
        rw [compileStatement, compileStatement, commandOperations_eq ha hsecret hb h.1]
      | other extent kind => rfl
    rw [compileAll, compileAll, hs]
    simp only [fun known => @ih known h.2]

theorem compileBlock_eq (ha : AgreeExcept secret left right) (hsecret : secret ≠ "")
    {statements : List Statement} (h : ∀ statement ∈ statements, exposes secret statement = false)
    (settings : Settings) :
    compileBlock settings left statements = compileBlock settings right statements := by
  refine ((bindAll_alike ha hsecret h).bind fun bound other hb => ?_).eq
  exact Both.of_eq (compileAll_eq ha hsecret hb.bindings h)

end

/-- If no statement of a block exposes the secret, the block compiles to the same operations under
environments that differ in the secret only, and the program of the block is the same text. -/
theorem compileBlock_independent_of_secret {secret : String} {left right : Environ}
    {statements : List Statement} (hsecret : secret ≠ "") (ha : AgreeExcept secret left right)
    (h : ∀ statement ∈ statements, exposes secret statement = false) (settings : Settings) :
    compileBlock settings left statements = compileBlock settings right statements ∧
      ∀ sourceName index,
        (compileBlock settings left statements).map
            (fun operations => CSharp.moduleText settings ⟨sourceName, [⟨index, operations⟩]⟩) =
          (compileBlock settings right statements).map
            (fun operations => CSharp.moduleText settings ⟨sourceName, [⟨index, operations⟩]⟩) := by
  have same := compileBlock_eq ha hsecret h settings
  constructor
  · exact same
  · intro sourceName index
    rw [same]

/-- `$env:COSMOS_KEY` -/
def keyReference : Expr := .reference ⟨"$env:COSMOS_KEY", 0⟩ "COSMOS_KEY" (some "env") false

/-- A bare word. -/
def bareWord (text : String) : Expr := .string ⟨text, 0⟩ text .bare

/-- A hashtable with an account key from the environment, a command that splats it, and a command
with the same key as an argument. -/
def keyedBlock : List Statement :=
  [.assignment ⟨"$p = @\x7b ... \x7d", 0⟩ (.reference ⟨"$p", 0⟩ "p" none false) .set
      (.hashtable ⟨"@\x7b ... \x7d", 0⟩
        [(bareWord "AccountName", bareWord "a"), (bareWord "accountkey", keyReference),
          (bareWord "DatabaseName", bareWord "d"), (bareWord "ContainerName", bareWord "c")]),
    .command ⟨⟨"Read-AzCosmosItems @p", 0⟩, "Read-AzCosmosItems",
      [.value (.reference ⟨"@p", 0⟩ "p" none true)]⟩,
    .command ⟨⟨"Read-AzCosmosItems -AccountKey $env:COSMOS_KEY", 0⟩, "Read-AzCosmosItems",
      [.parameter ⟨"-AccountKey", 0⟩ "AccountKey" none, .value keyReference]⟩]

theorem compileBlock_keyedBlock :
    "COSMOS_KEY" ≠ "" ∧ AgreeExcept "COSMOS_KEY" (fun _ => none) (fun name =>
        if name = "COSMOS_KEY" then some "dG9w" else none) ∧
      (∀ statement ∈ keyedBlock, exposes "COSMOS_KEY" statement = false) ∧
      compileBlock {} (fun _ => none) keyedBlock =
        compileBlock {} (fun name => if name = "COSMOS_KEY" then some "dG9w" else none) keyedBlock := by
  have agree : AgreeExcept "COSMOS_KEY" (fun _ => none) (fun name =>
      if name = "COSMOS_KEY" then some "dG9w" else none) := by
    intro name hn
    exact (if_neg hn).symm
  have hidden : ∀ statement ∈ keyedBlock, exposes "COSMOS_KEY" statement = false := by decide
  refine ⟨by decide, agree, hidden, ?_⟩
  exact (compileBlock_independent_of_secret (by decide) agree hidden {}).1

end PageScript.Compile
