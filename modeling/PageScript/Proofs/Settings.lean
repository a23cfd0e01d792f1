import PageScript.Found
import PageScript.Settings.Load

/-!
# Where settings come from

A setting has the value that the environment overrides it with, or else the one that its file gives
last, or else its default. The file is the one in the nearest directory upward that has any, and the
first entry of its table that breaks a rule is reported.
-/

namespace PageScript

/-- The text of a value. -/
def Toml.Value.text? : Toml.Value → Option String
  | .string text => some text
  | _ => none

/-- Whether a value is a number, which a truth value is not. -/
def Toml.Value.isNumber : Toml.Value → Bool
  | .integer _ | .float _ => true
  | _ => false

/-- The double of a number; none for an integer that is too large. -/
def Toml.Value.double? : Toml.Value → Option Float
  | .integer n => Numeral.ofInteger? n
  | .float x => some x
  | _ => none

namespace Settings

/-! ## Settings by name -/

/-- The text of a setting. -/
def text? (settings : Settings) (name : String) : Option String :=
  match name with
  | "script_type" => some settings.scriptType
  | "namespace" => some settings.nameSpace
  | "class_name" => some settings.className
  | "source_label" => some settings.sourceLabel
  | "service_domain" => some settings.serviceDomain
  | "secret_reference" => some settings.secretReference
  | "fallback_secret_env" => some settings.fallbackSecretEnv
  | "no_output_message" => some settings.noOutputMessage
  | "newline" => some settings.newline
  | _ => none

/-- What the environment overrides a setting with. -/
def override? (environ : Environ) (name : String) : Option String :=
  match name with
  | "namespace" => environ.set? "PWSHC_NAMESPACE"
  | "class_name" => environ.set? "PWSHC_CLASS_NAME"
  | _ => none

theorem text?_withText {name : String} (h : name ∈ names) (ht : name ≠ timeoutName)
    (settings : Settings) (text : String) : (settings.withText name text).text? name = some text := by
  simp only [names, List.mem_cons, List.not_mem_nil, or_false] at h
  rcases h with rfl | rfl | rfl | rfl | rfl | rfl | rfl | rfl | rfl | rfl
  case inr.inr.inr.inr.inr.inl => exact absurd rfl ht
  all_goals rfl

theorem text?_withText_ne {name other : String} (h : name ≠ other) (settings : Settings)
    (text : String) : (settings.withText name text).text? other = settings.text? other := by
  unfold withText
  split
  all_goals
    unfold text?
    split <;> simp_all only [ne_eq, not_true_eq_false]

theorem text?_overridden (environ : Environ) (settings : Settings) (name : String) :
    (settings.overridden environ).text? name = (override? environ name).or (settings.text? name) := by
  unfold text? override?
  split <;> simp [overridden]

/-! ## Tables -/

/-- The value that a table gives last for a setting. -/
def given? (table : Toml.Table) (name : String) : Option Toml.Value :=
  (table.reverse.find? (nameOfKey ·.1 == name)).map (·.2)

/-- Whether the key of an entry names no setting or its value has the wrong type. -/
def isWrong (entry : String × Toml.Value) : Bool :=
  !names.contains (nameOfKey entry.1) ||
    if nameOfKey entry.1 == timeoutName then !entry.2.isNumber else entry.2.text?.isNone

/-- Whether an entry gives a time with an integer too large for a double. -/
def isTooLarge (entry : String × Toml.Value) : Bool :=
  nameOfKey entry.1 == timeoutName && entry.2.isNumber && entry.2.double?.isNone

/-- The report about a wrong entry of a table in a file. -/
def complaint (path : Option String) (entry : String × Toml.Value) : Report :=
  if !names.contains (nameOfKey entry.1) then
    { category := .settings, message := "Unknown configuration key '" ++ entry.1 ++ "'",
      place := { path }, hint := some ("Valid keys: " ++ ", ".intercalate names) }
  else if nameOfKey entry.1 == timeoutName then
    { category := .settings, message := "'request_timeout' must be a number of seconds",
      place := { path } }
  else { category := .settings, message := "'" ++ entry.1 ++ "' must be a string", place := { path } }

/-- The settings with the value of an entry. -/
def withValue (settings : Settings) (entry : String × Toml.Value) : Settings :=
  if nameOfKey entry.1 == timeoutName then { settings with requestTimeout := entry.2.double? }
  else settings.withText (nameOfKey entry.1) (entry.2.text?.getD "")

/-- What one entry does: it is wrong, or too large, or its value is taken. -/
theorem withEntry_eq (path : Option String) (settings : Settings) (entry : String × Toml.Value) :
    settings.withEntry path entry.1 entry.2 =
      if isWrong entry then .error (.report (complaint path entry))
      else if isTooLarge entry then .error .overflow
      else .ok (settings.withValue entry) := by
  obtain ⟨key, value⟩ := entry
  unfold withEntry isWrong isTooLarge complaint withValue
  dsimp only
  cases hn : names.contains (nameOfKey key) with
  | false => rfl
  | true =>
    cases ht : nameOfKey key == timeoutName with
    | false => cases value <;> rfl
    | true =>
      cases value with
      | integer n =>
        rw [secondsOf?, Toml.Value.double?]
        cases Numeral.ofInteger? n <;> rfl
      | _ => rfl

/-- Entries are taken one after the other up to the first wrong one. -/
theorem foldlM_withEntry (path : Option String) (settings : Settings) {table : Toml.Table}
    (h : ∀ entry ∈ table, isTooLarge entry = false) :
    table.foldlM (fun settings entry => settings.withEntry path entry.1 entry.2) settings =
      match table.find? isWrong with
      | some entry => .error (.report (complaint path entry))
      | none => .ok (table.foldl withValue settings) := by
  induction table generalizing settings with
  | nil => rfl
  | cons entry table ih =>
    obtain ⟨fine, rest⟩ := List.forall_mem_cons.1 h
    rw [List.foldlM_cons, withEntry_eq, List.find?_cons, List.foldl_cons, fine]
    cases isWrong entry with
    | true => rfl
    | false => exact ih _ rest

theorem fine_of_foldlM {path : Option String} {settings result : Settings} {table : Toml.Table}
    (h : table.foldlM (fun settings entry => settings.withEntry path entry.1 entry.2) settings =
      .ok result) :
    ∀ entry ∈ table, isWrong entry = false ∧ isTooLarge entry = false := by
  induction table generalizing settings with
  | nil => exact List.forall_mem_nil _
  | cons entry table ih =>
    rw [List.foldlM_cons, withEntry_eq] at h
    obtain ⟨next, taken, rest⟩ := ok_of_bind h
    split at taken
    · cases taken
    · split at taken
      · cases taken
      · rename_i right fits
        exact List.forall_mem_cons.2
          ⟨⟨Bool.not_eq_true _ ▸ right, Bool.not_eq_true _ ▸ fits⟩, ih rest⟩

/-- The text of a setting after an entry that is not wrong. -/
theorem text?_withValue {entry : String × Toml.Value} (h : isWrong entry = false) {name : String}
    (ht : name ≠ timeoutName) (settings : Settings) :
    (settings.withValue entry).text? name =
      if nameOfKey entry.1 == name then some (entry.2.text?.getD "") else settings.text? name := by
  rw [isWrong, Bool.or_eq_false_iff, Bool.not_eq_false'] at h
  rw [withValue]
  cases hs : nameOfKey entry.1 == name with
  | true =>
    rw [eq_of_beq hs] at h ⊢
    rw [beq_false_of_ne ht]
    exact text?_withText (List.contains_iff_mem.1 h.1) ht _ _
  | false =>
    split
    · rfl
    · exact text?_withText_ne (ne_of_beq_false hs) _ _

theorem text?_isSome {entry : String × Toml.Value} (h : isWrong entry = false)
    (ht : nameOfKey entry.1 ≠ timeoutName) : entry.2.text?.isSome := by
  rw [isWrong, beq_false_of_ne ht, Bool.or_eq_false_iff] at h
  exact Option.isNone_eq_false_iff.1 h.2

/-- A text that a table gives last is taken. -/
theorem text?_foldl {table : Toml.Table} (h : ∀ entry ∈ table, isWrong entry = false) {name : String}
    (ht : name ≠ timeoutName) (settings : Settings) :
    (table.foldl withValue settings).text? name =
      ((given? table name).bind Toml.Value.text?).or (settings.text? name) := by
  rw [List.foldl_eq_foldr_reverse, given?]
  replace h : ∀ entry ∈ table.reverse, isWrong entry = false :=
    fun entry hm => h entry (List.mem_reverse.1 hm)
  -- the last entries decide, so the induction goes from the end
  generalize table.reverse = entries at h
  induction entries with
  | nil => rfl
  | cons entry entries ih =>
    obtain ⟨fine, rest⟩ := List.forall_mem_cons.1 h
    rw [List.foldr_cons, text?_withValue fine ht, List.find?_cons]
    cases hs : nameOfKey entry.1 == name with
    | false => exact ih rest
    | true =>
      obtain ⟨text, hv⟩ := Option.isSome_iff_exists.1 (text?_isSome fine (eq_of_beq hs ▸ ht))
      rw [hv, Option.map_some, Option.bind_some, hv]
      rfl

theorem requestTimeout_withText (settings : Settings) (name text : String) :
    (settings.withText name text).requestTimeout = settings.requestTimeout := by
  unfold withText
  split <;> rfl

/-- The time that a table gives last is taken. -/
theorem requestTimeout_foldl (table : Toml.Table) :
    (table.foldl withValue {}).requestTimeout =
      (given? table timeoutName).bind Toml.Value.double? := by
  rw [List.foldl_eq_foldr_reverse, given?]
  generalize table.reverse = entries
  induction entries with
  | nil => rfl
  | cons entry entries ih =>
    rw [List.foldr_cons, withValue, List.find?_cons]
    cases hs : nameOfKey entry.1 == timeoutName with
    | false => exact (requestTimeout_withText _ _ _).trans ih
    | true => rfl

/-! ## The search -/

/-- The project file of a directory has a table for this program. -/
def ProjectTable (tree : Files.Tree) (directory : Files.Location) (table : Toml.Table) : Prop :=
  ∃ project tools, readTable tree (.ofLocation (directory ++ [projectFileName])) = .ok project ∧
    project.lookup "tool" = some (.table tools) ∧ tools.lookup toolName = some (.table table)

/-- A directory has neither a settings file of its own nor a table in a project file. -/
def Bare (tree : Files.Tree) (directory : Files.Location) : Prop :=
  tree.find? (.ofLocation (directory ++ [fileName])) = none ∧
    ∀ table, ¬ProjectTable tree directory table

/-- The settings file of a directory and its table. A project file counts only without a file for
nothing but settings. -/
inductive FileOf (tree : Files.Tree) (directory : Files.Location) :
    Files.Location → Toml.Table → Prop where
  | own {table : Toml.Table} :
    readTable tree (.ofLocation (directory ++ [fileName])) = .ok table →
      FileOf tree directory (directory ++ [fileName]) table
  | project {table : Toml.Table} :
    tree.find? (.ofLocation (directory ++ [fileName])) = none → ProjectTable tree directory table →
      FileOf tree directory (directory ++ [projectFileName]) table

/-- The directory that the search starts in: where the path leads, or the one that holds it. -/
def ownDirectory (tree : Files.Tree) (start : Files.Path) : Files.Location :=
  let place := start.resolve tree.workingDirectory
  if tree.find? (.ofLocation place) = some .directory then place else place.dropLast

/-- A directory is on the way up from another one, and all nearer ones are bare. -/
def Nearest (tree : Files.Tree) (own directory : Files.Location) : Prop :=
  directory <+: own ∧
    ∀ nearer, nearer <+: own → directory.length < nearer.length → Bare tree nearer

theorem look_ok {tree : Files.Tree} {path : Files.Path} {node : Option Files.Node}
    (h : tree.look path = .ok node) : tree.find? path = node := by
  unfold Files.Tree.look at h
  split at h
  · cases h
  · cases h; rfl

theorem isThere_ok {tree : Files.Tree} {place : Files.Location} {there : Bool}
    (h : isThere tree place = .ok there) : (tree.find? (.ofLocation place)).isSome = there := by
  obtain ⟨node, hl, rfl⟩ := ok_of_map (ok_of_mapError h)
  rw [look_ok hl]

/-- A table can be read only from what is there. -/
theorem find?_of_readTable {tree : Files.Tree} {path : Files.Path} {table : Toml.Table}
    (h : readTable tree path = .ok table) : (tree.find? path).isSome := by
  obtain ⟨bytes, hr, -⟩ := ok_of_bind h
  replace hr := ok_of_mapError hr
  unfold Files.Tree.read at hr
  unfold Files.Tree.find?
  split at hr
  · cases hr
  · rename_i location hl
    rw [hl]
    dsimp only
    cases hg : tree.get? location with
    | none => rw [hg] at hr; cases hr
    | some node => rfl

theorem hasTool_of_projectTable {tree : Files.Tree} {directory : Files.Location}
    {table project : Toml.Table} (h : ProjectTable tree directory table)
    (hr : readTable tree (.ofLocation (directory ++ [projectFileName])) = .ok project) :
    hasTool (toolValue project) = .ok true := by
  obtain ⟨found, tools, hf, tool, entry⟩ := h
  cases hf.symm.trans hr
  rw [toolValue, tool, Option.getD_some, hasTool, entry]
  rfl

/-- What is found in a directory. -/
theorem fileIn_ok {tree : Files.Tree} {directory : Files.Location} {found : Option Files.Location}
    (h : fileIn tree directory = .ok found) :
    (found = none ∧ Bare tree directory) ∨ found = some (directory ++ [fileName]) ∨
      found = some (directory ++ [projectFileName]) ∧
        tree.find? (.ofLocation (directory ++ [fileName])) = none ∧
        ∃ project, readTable tree (.ofLocation (directory ++ [projectFileName])) = .ok project ∧
          hasTool (toolValue project) = .ok true := by
  obtain ⟨own, ho, h⟩ := ok_of_bind h
  replace ho := isThere_ok ho
  cases own with
  | true => cases h; exact .inr (.inl rfl)
  | false =>
    rw [Option.isSome_eq_false_iff, Option.isNone_iff_eq_none] at ho
    obtain ⟨there, ht, h⟩ := ok_of_bind h
    replace ht := isThere_ok ht
    cases there with
    | false =>
      cases h
      refine .inl ⟨rfl, ho, fun table ⟨project, _, hr, _⟩ => ?_⟩
      rw [find?_of_readTable hr] at ht
      cases ht
    | true =>
      obtain ⟨project, hr, h⟩ := ok_of_bind h
      obtain ⟨has, hh, h⟩ := ok_of_bind h
      cases has with
      | false =>
        cases h
        refine .inl ⟨rfl, ho, fun table hp => ?_⟩
        cases (hasTool_of_projectTable hp hr).symm.trans hh
      | true => cases h; exact .inr (.inr ⟨rfl, ho, project, hr, hh⟩)

/-- The first directories have no file, and the next one has the one that is found. -/
theorem firstFile_ok {tree : Files.Tree} {directories : List Files.Location}
    {found : Option Files.Location} (h : firstFile tree directories = .ok found) :
    (found = none ∧ ∀ directory ∈ directories, fileIn tree directory = .ok none) ∨
      ∃ before directory after file, directories = before ++ directory :: after ∧
        (∀ nearer ∈ before, fileIn tree nearer = .ok none) ∧
        fileIn tree directory = .ok (some file) ∧ found = some file := by
  induction directories with
  | nil => cases h; exact .inl ⟨rfl, List.forall_mem_nil _⟩
  | cons directory rest ih =>
    obtain ⟨here, hh, h⟩ := ok_of_bind h
    cases here with
    | some file =>
      cases h
      exact .inr ⟨[], directory, rest, file, rfl, List.forall_mem_nil _, hh, rfl⟩
    | none =>
      rcases ih h with ⟨hn, none⟩ | ⟨before, next, after, file, hd, none, hf, hs⟩
      · exact .inl ⟨hn, List.forall_mem_cons.2 ⟨hh, none⟩⟩
      · exact .inr ⟨directory :: before, next, after, file, congrArg _ hd,
          List.forall_mem_cons.2 ⟨hh, none⟩, hf, hs⟩

theorem mem_upward {own directory : Files.Location} : directory ∈ upward own ↔ directory <+: own := by
  rw [upward, List.mem_map, List.prefix_iff_eq_take]
  constructor
  · rintro ⟨n, -, rfl⟩
    rw [List.length_take, ← List.take_take, List.take_length]
  · intro h
    have hl : directory.length ≤ own.length := by
      rw [h, List.length_take]
      exact Nat.min_le_right _ _
    refine ⟨own.length - directory.length, List.mem_range.2 (by omega), ?_⟩
    rw [Nat.sub_sub_self hl, ← h]

/-- The directories upward come in the order of their lengths, the longest first. -/
theorem mem_before {own before : List _} {directory : Files.Location} {after : List Files.Location}
    (h : upward own = before ++ directory :: after) {nearer : Files.Location} (hn : nearer <+: own)
    (hl : directory.length < nearer.length) : nearer ∈ before := by
  have sorted : (upward own).Pairwise fun first second => second.length ≤ first.length := by
    rw [upward, List.pairwise_map]
    refine List.pairwise_lt_range.imp fun {m n} hm => ?_
    rw [List.length_take, List.length_take]
    omega
  rw [h, List.pairwise_append, List.pairwise_cons] at sorted
  have hm := mem_upward.2 hn
  rw [h, List.mem_append, List.mem_cons] at hm
  rcases hm with hm | rfl | hm
  · exact hm
  · exact absurd hl (Nat.lt_irrefl _)
  · exact absurd hl (Nat.not_lt.2 (sorted.2.1.1 nearer hm))

/-- What the search finds: the file of the nearest directory, or nothing if there is none at all. -/
theorem locateFile_ok {tree : Files.Tree} {start : Files.Path} {found : Option Files.Location}
    (h : locateFile tree start = .ok found) :
    (found = none ∧ ∀ directory, directory <+: ownDirectory tree start → Bare tree directory) ∨
      ∃ directory file, found = some file ∧ fileIn tree directory = .ok (some file) ∧
        Nearest tree (ownDirectory tree start) directory := by
  unfold locateFile at h
  split at h
  · cases h
  · obtain ⟨node, hl, h⟩ := ok_of_bind h
    rw [← look_ok (ok_of_mapError hl)] at h
    have bare {directory} (hf : fileIn tree directory = .ok none) : Bare tree directory := by
      rcases fileIn_ok hf with ⟨-, hb⟩ | he | ⟨he, -⟩
      · exact hb
      · cases he
      · cases he
    rcases firstFile_ok h with ⟨hn, none⟩ | ⟨before, directory, after, file, hd, none, hf, hs⟩
    · exact .inl ⟨hn, fun directory hp => bare (none directory (mem_upward.2 hp))⟩
    · have here : directory ∈ upward (ownDirectory tree start) := by
        rw [ownDirectory, hd]
        exact List.mem_append_right _ List.mem_cons_self
      exact .inr ⟨directory, file, hs, hf, mem_upward.1 here,
        fun nearer hp hl => bare (none nearer (mem_before hd hp hl))⟩

/-! ## Loading -/

/-- The settings that a table and the environment give. -/
structure Effective (environ : Environ) (table : Toml.Table) (settings : Settings) : Prop where
  /-- An override counts before the last text of the table, and that before the default. -/
  text : ∀ name ∈ names, name ≠ timeoutName → settings.text? name =
    ((override? environ name).or ((given? table name).bind Toml.Value.text?)).or
      (({} : Settings).text? name)
  /-- No time is the default. -/
  timeout : settings.requestTimeout = (given? table timeoutName).bind Toml.Value.double?

theorem effective_foldl (environ : Environ) {table : Toml.Table}
    (h : ∀ entry ∈ table, isWrong entry = false) :
    Effective environ table ((table.foldl withValue {}).overridden environ) where
  text name _ ht := by rw [text?_overridden, text?_foldl h ht, Option.or_assoc]
  timeout := requestTimeout_foldl table

theorem ofTable_eq (path : Option String) {table : Toml.Table}
    (h : ∀ entry ∈ table, isTooLarge entry = false) :
    ofTable table path =
      match table.find? isWrong with
      | some entry => .error (.report (complaint path entry))
      | none => .ok (table.foldl withValue {}) :=
  foldlM_withEntry path {} h

theorem name_ofLocation (directory : Files.Location) (name : String) :
    (Files.Path.ofLocation (directory ++ [name])).name = name := by
  rw [Files.Path.name, Files.Path.ofLocation, List.getLast?_concat, Option.getD_some]

theorem toolTable_ok_iff {project table : Toml.Table} (h : hasTool (toolValue project) = .ok true) :
    toolTable project = .ok table ↔ ∃ tools, project.lookup "tool" = some (.table tools) ∧
      tools.lookup toolName = some (.table table) := by
  unfold toolTable toolValue at *
  cases hl : project.lookup "tool" with
  | none =>
    rw [hl] at h
    cases h
  | some value =>
    rw [hl, Option.getD_some] at h
    rw [Option.getD_some]
    cases value with
    | table tools =>
      dsimp only
      cases ht : tools.lookup toolName with
      | none =>
        rw [hasTool, ht] at h
        cases h
      | some entry => cases entry <;> simp [ht]
    | _ => simp

theorem ofFile_eq {tree : Files.Tree} {directory file : Files.Location} {table : Toml.Table}
    (h : FileOf tree directory file table) :
    ofFile tree (.ofLocation file) =
      (ofTable table (some (Files.Path.ofLocation file).toText)).mapError .settings := by
  cases h with
  | own hr =>
    rw [ofFile, hr, name_ofLocation]
    rfl
  | project _ hp =>
    obtain ⟨project, tools, hr, entry⟩ := id hp
    rw [ofFile, hr, name_ofLocation]
    have taken := (toolTable_ok_iff (hasTool_of_projectTable hp hr)).2 ⟨tools, entry⟩
    rw [beq_self_eq_true]
    dsimp only [bind, Except.bind]
    rw [if_pos rfl, taken]

/-- A file that settings come from has a table for them. -/
theorem exists_fileOf {tree : Files.Tree} {directory file : Files.Location} {settings : Settings}
    (hf : fileIn tree directory = .ok (some file)) (h : ofFile tree (.ofLocation file) = .ok settings) :
    ∃ table, FileOf tree directory file table := by
  obtain ⟨table, hr, h⟩ := ok_of_bind h
  rcases fileIn_ok hf with ⟨hn, -⟩ | hs | ⟨hs, ho, project, hp, has⟩
  · cases hn
  · cases hs
    exact ⟨table, .own hr⟩
  · cases hs
    cases hp.symm.trans hr
    rw [name_ofLocation] at h
    obtain ⟨entries, ht, -⟩ := ok_of_bind h
    obtain ⟨tools, entry⟩ := (toolTable_ok_iff has).1 ht
    exact ⟨entries, .project ho ⟨table, tools, hr, entry⟩⟩

theorem load_of_located {tree : Files.Tree} {start : Files.Path} {file : Files.Location}
    (h : locateFile tree start = .ok (some file)) (environ : Environ) :
    load tree environ none start = (ofFile tree (.ofLocation file)).map (overridden environ) := by
  rw [load, chooseFile, h]
  dsimp only [Except.map, bind, Except.bind, Option.map_some]
  cases ofFile tree (.ofLocation file) <;> rfl

theorem load_of_none {tree : Files.Tree} {start : Files.Path} (h : locateFile tree start = .ok none)
    (environ : Environ) : load tree environ none start = .ok (({} : Settings).overridden environ) := by
  rw [load, chooseFile, h]
  rfl

theorem located_of_load {tree : Files.Tree} {environ : Environ} {start : Files.Path}
    {settings : Settings} (h : load tree environ none start = .ok settings) :
    ∃ found, locateFile tree start = .ok found := by
  obtain ⟨_, hc, -⟩ := ok_of_bind h
  obtain ⟨found, hl, -⟩ := ok_of_map hc
  exact ⟨found, hl⟩

/-- A file with a table that the search finds is in the nearest directory that has one. -/
theorem nearest_of_located {tree : Files.Tree} {start : Files.Path} {directory file : Files.Location}
    {table : Toml.Table} (h : locateFile tree start = .ok (some file))
    (hf : FileOf tree directory file table) : Nearest tree (ownDirectory tree start) directory := by
  rcases locateFile_ok h with ⟨hn, -⟩ | ⟨found, _, hs, hi, nearest⟩
  · cases hn
  · cases hs
    have last : file.dropLast = directory := by cases hf <;> exact List.dropLast_concat
    have last' : file.dropLast = found := by
      rcases fileIn_ok hi with ⟨he, -⟩ | he | ⟨he, -⟩ <;> cases he <;> exact List.dropLast_concat
    rwa [← last, last']

/-- Loaded settings are those of the file in the nearest directory that has one, overridden by the
environment; the first wrong entry in that file is reported. -/
theorem load_nearest (tree : Files.Tree) (environ : Environ) (start : Files.Path) :
    (∀ settings, load tree environ none start = .ok settings →
      (locateFile tree start = .ok none ∧
        (∀ directory, directory <+: ownDirectory tree start → Bare tree directory) ∧
        Effective environ [] settings) ∨
      ∃ directory file table, locateFile tree start = .ok (some file) ∧
        FileOf tree directory file table ∧ Nearest tree (ownDirectory tree start) directory ∧
        (∀ entry ∈ table, isWrong entry = false ∧ isTooLarge entry = false) ∧
        Effective environ table settings) ∧
    (locateFile tree start = .ok none → ∃ settings, load tree environ none start = .ok settings) ∧
    ∀ directory file table, locateFile tree start = .ok (some file) →
      FileOf tree directory file table → (∀ entry ∈ table, isTooLarge entry = false) →
      Nearest tree (ownDirectory tree start) directory ∧
      (∀ entry, table.find? isWrong = some entry → load tree environ none start =
        .error (.settings (.report (complaint (some (Files.Path.ofLocation file).toText) entry)))) ∧
      (table.find? isWrong = none → ∃ settings, load tree environ none start = .ok settings) := by
  refine ⟨fun settings h => ?_, fun hn => ⟨_, load_of_none hn environ⟩, ?_⟩
  · obtain ⟨found, hl⟩ := located_of_load h
    rcases locateFile_ok hl with ⟨rfl, bare⟩ | ⟨directory, file, rfl, hi, nearest⟩
    · rw [load_of_none hl] at h
      cases h
      exact .inl ⟨hl, bare, effective_foldl environ (List.forall_mem_nil _)⟩
    · rw [load_of_located hl] at h
      obtain ⟨made, hm, rfl⟩ := ok_of_map h
      obtain ⟨table, hf⟩ := exists_fileOf hi hm
      rw [ofFile_eq hf] at hm
      replace hm := ok_of_mapError hm
      have fine := fine_of_foldlM hm
      rw [ofTable_eq _ fun entry he => (fine entry he).2, List.find?_eq_none.2 ?_] at hm
      · cases hm
        exact .inr ⟨directory, file, table, hl, hf, nearest, fine,
          effective_foldl environ fun entry he => (fine entry he).1⟩
      · intro entry he
        rw [(fine entry he).1]
        exact Bool.false_ne_true
  · intro directory file table hl hf fits
    refine ⟨nearest_of_located hl hf, fun entry he => ?_, fun hn => ?_⟩
    · rw [load_of_located hl, ofFile_eq hf, ofTable_eq _ fits, he]
      rfl
    · rw [load_of_located hl, ofFile_eq hf, ofTable_eq _ fits, hn]
      exact ⟨_, rfl⟩

/-- A directory of pages in one with a settings file. -/
def nestedTree : Files.Tree where
  nodes := [(["site"], .directory), (["site", "pages"], .directory),
    (["site", "pwshc.toml"], .file "newline = \"\"\ncolor = 1".toUTF8.toList)]

/-- The settings file is found above, and its second entry is wrong. -/
theorem load_nearest_unknownKey :
    ∃ value, load nestedTree (fun _ => none) none (.ofLocation ["site", "pages"]) =
      .error (.settings (.report (complaint (some "/site/pwshc.toml") ("color", value)))) := by
  have found : (locateFile nestedTree (.ofLocation ["site", "pages"])).toOption.map id =
      some (some (["site"] ++ [fileName])) := by decide +kernel
  have read : (readTable nestedTree (.ofLocation (["site"] ++ [fileName]))).toOption.map (fun table =>
      (table.any isTooLarge, (table.find? isWrong).map (·.1))) = some (false, some "color") := by
    decide +kernel
  obtain ⟨_, located, rfl⟩ := ok_of_toOption found
  obtain ⟨table, hr, evaluated⟩ := ok_of_toOption read
  obtain ⟨fits, first⟩ := Prod.mk.inj evaluated
  obtain ⟨⟨_, value⟩, wrong, rfl⟩ := Option.map_eq_some_iff.1 first
  obtain ⟨-, reported, -⟩ :=
    (load_nearest nestedTree (fun _ => none) (.ofLocation ["site", "pages"])).2.2 ["site"] _ table
      located (.own hr) fun entry he => Bool.eq_false_iff.2 (List.any_eq_false.1 fits entry he)
  exact ⟨value, reported _ wrong⟩

end Settings

end PageScript
