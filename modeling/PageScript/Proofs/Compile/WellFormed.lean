import PageScript.Proofs.Compile.Isolation

/-!
# Plans are well formed

Whatever the page says, a plan can be carried out as far as its operations go: there is something to
write where a text is written, and a query names its database, its container and where its credentials
come from. This is decided command by command (`wellFormed_readOperation`), and nothing else adds
operations. The blocks of a plan are in the order of the page, each with a number of its own.
-/

namespace PageScript.Compile

open Script (Statement)

/-- The query names a database and a container. -/
def Addressed (query : Query) : Prop :=
  Text.allBlank query.database = false ∧ Text.allBlank query.container = false

/-- The operation is one that can be carried out, with all that it needs. -/
def WellFormed (settings : Settings) : Operation → Prop
  | .emitText text => text ≠ ""
  | .readFirstItem connection query => Text.allBlank connection = false ∧ Addressed query
  | .readFirstItemFromEnv variableName endpoint query =>
    variableName ≠ "" ∧ Addressed query ∧ ∃ account, Text.allBlank account = false ∧
      endpoint = "https://" ++ account ++ "." ++ settings.serviceDomain ++ ":443/"
  | .unsupported _ => False

variable {settings : Settings} {environ : Environ}

/-! ## Operations -/

theorem of_filter_allBlank {value : Option String} {text : String}
    (h : value.filter (!Text.allBlank ·) = some text) : Text.allBlank text = false := by
  simpa using (Option.filter_eq_some_iff.1 h).2

theorem allBlank_connectionString (endpoint key : String) :
    Text.allBlank (Cosmos.connectionString endpoint key) = false := by
  have hk : Text.allBlank Cosmos.Wire.endpointKey = false := by decide +kernel
  simp only [Text.allBlank, Cosmos.connectionString, String.toList_append, List.all_append] at hk ⊢
  simp only [hk, Bool.false_and]

theorem allBlank_connectionOf? {parameters : Parameters} {connection : String}
    (h : connectionOf? settings parameters = some connection) :
    Text.allBlank connection = false := by
  unfold connectionOf? at h
  simp only at h
  split at h
  · cases h
    exact allBlank_connectionString _ _
  · exact of_filter_allBlank h

/-- Every way out of the choice of credentials gives an operation that can be carried out. -/
theorem wellFormed_readOperation {parameters : Parameters} {operation : Operation}
    (h : readOperation settings parameters = .ok operation) : WellFormed settings operation := by
  unfold readOperation at h
  simp only at h
  split at h
  · rename_i database container hd hc
    obtain ⟨top, -, h⟩ := ok_of_bind h
    have addressed := And.intro (of_filter_allBlank hd) (of_filter_allBlank hc)
    split at h
    · rename_i source account hs ha
      cases h
      have hne : source ≠ "" := by simpa using (Option.filter_eq_some_iff.1 hs).2
      exact ⟨hne, addressed, account, of_filter_allBlank ha, rfl⟩
    · split at h
      · rename_i connection hconnection
        cases h
        exact ⟨allBlank_connectionOf? hconnection, addressed⟩
      · cases h
        exact (by decide : Message.missingAccountKey ≠ "")
  · cases h
    exact (by decide : Message.missingParameters ≠ "")

theorem wellFormed_writeOperations {scope : Scope} {elements : List Script.Element}
    {operations : List Operation} (h : scope.writeOperations elements = .ok operations) :
    ∀ operation ∈ operations, WellFormed settings operation := by
  unfold Scope.writeOperations at h
  split at h
  · cases h
    exact nofun
  · obtain ⟨text, -, h⟩ := ok_of_bind h
    cases h
    split
    · exact nofun
    · rename_i hne
      have hne : text ≠ "" := by simpa using hne
      exact List.forall_mem_singleton.2 hne

/-- One command. -/
theorem wellFormed_commandOperations {scope : Scope} {bindings : FoldedTable Parameters}
    {command : Script.Command} {operations : List Operation}
    (h : scope.commandOperations settings bindings command = .ok operations) :
    ∀ operation ∈ operations, WellFormed settings operation := by
  unfold Scope.commandOperations at h
  simp only at h
  split at h
  · exact wellFormed_writeOperations h
  · split at h
    · obtain ⟨parameters, -, h⟩ := ok_of_bind h
      obtain ⟨operation, ho, h⟩ := ok_of_bind h
      cases h
      exact List.forall_mem_singleton.2 (wellFormed_readOperation ho)
    · cases h
      exact nofun

theorem wellFormed_compileStatement {bindings : FoldedTable Parameters}
    {known after : FoldedTable String} {statement : Statement} {operations : List Operation}
    (h : compileStatement settings environ bindings known statement = .ok (operations, after)) :
    ∀ operation ∈ operations, WellFormed settings operation := by
  cases statement with
  | assignment extent target operator value =>
    obtain ⟨known, -, h⟩ := ok_of_bind h
    cases h
    exact nofun
  | command command =>
    obtain ⟨found, hf, h⟩ := ok_of_bind h
    cases h
    exact wellFormed_commandOperations hf
  | other =>
    cases h
    exact nofun

theorem wellFormed_compileAll {bindings : FoldedTable Parameters} {known : FoldedTable String}
    {statements : List Statement} {operations : List Operation}
    (h : compileAll settings environ bindings known statements = .ok operations) :
    ∀ operation ∈ operations, WellFormed settings operation := by
  induction statements generalizing known operations with
  | nil =>
    cases h
    exact nofun
  | cons statement rest ih =>
    rw [compileAll] at h
    obtain ⟨⟨first, after⟩, hs, h⟩ := ok_of_bind h
    obtain ⟨others, ho, h⟩ := ok_of_bind h
    cases h
    exact List.forall_mem_append.2 ⟨wellFormed_compileStatement hs, ih ho⟩

/-- A whole block. -/
theorem wellFormed_compileBlock {statements : List Statement} {operations : List Operation}
    (h : compileBlock settings environ statements = .ok operations) :
    ∀ operation ∈ operations, WellFormed settings operation := by
  obtain ⟨bound, -, h⟩ := ok_of_bind h
  exact wellFormed_compileAll h

/-! ## Blocks -/

/-- What a block adds to a plan is one plan at most, with the number of the block. -/
theorem Contributes.numbered {sourceName : String} {block : Page.Block} {plans : List BlockPlan}
    {notes : List Note} (h : Contributes settings environ sourceName block plans notes) :
    plans.length ≤ 1 ∧ ∀ plan ∈ plans, plan.index = block.index := by
  cases h with
  | skipped => exact ⟨Nat.zero_le 1, nofun⟩
  | planned => exact ⟨Nat.le_refl 1, List.forall_mem_singleton.2 rfl⟩

theorem Contributes.wellFormed {sourceName : String} {block : Page.Block} {plans : List BlockPlan}
    {notes : List Note} (h : Contributes settings environ sourceName block plans notes) :
    ∀ plan ∈ plans, ∀ operation ∈ plan.operations, WellFormed settings operation := by
  cases h with
  | skipped => exact nofun
  | planned hr hd hp =>
    refine List.forall_mem_singleton.2 ?_
    rw [planBlock_clean block hr hd] at hp
    obtain ⟨operations, hc, he⟩ := ok_of_map (congrArg Prod.fst hp)
    cases he
    exact wellFormed_compileBlock hc

/-- The numbers of what blocks add increase if their own do. -/
theorem pairwise_contributions {sourceName : String} {blocks : List Page.Block}
    {added : Page.Block → List BlockPlan × List Note}
    (h : ∀ block ∈ blocks,
      Contributes settings environ sourceName block (added block).1 (added block).2)
    (hb : blocks.Pairwise fun first second => first.index < second.index) :
    (blocks.flatMap fun block => (added block).1).Pairwise fun first second =>
      first.index < second.index := by
  refine List.pairwise_flatMap.2 ⟨fun block hm => ?_, ?_⟩
  · cases ha : (added block).1 with
    | nil => exact .nil
    | cons plan plans =>
      have hl := (h block hm).numbered.1
      rw [ha, List.length_cons] at hl
      rw [List.eq_nil_of_length_eq_zero (by omega : plans.length = 0)]
      exact List.pairwise_singleton _ _
  · refine hb.imp_of_mem fun hfirst hsecond hlt plan hp other ho => ?_
    rw [(h _ hfirst).numbered.2 plan hp, (h _ hsecond).numbered.2 other ho]
    omega

theorem blocks_increasing (scriptType page : String) :
    (Page.blocks scriptType page).Pairwise fun first second => first.index < second.index := by
  rw [List.pairwise_iff_getElem]
  intro i j hi hj hij
  simpa only [Page.blocks, List.getElem_mapIdx] using hij

theorem Compiler.plan_of_planPage {compiler after : Compiler} {sourceName : Option String}
    {page : String} {whole : Plan}
    (h : (compiler.planPage sourceName page).1 = .ok (whole, after)) :
    (compiler.plan sourceName (Page.blocks compiler.settings.scriptType page)).1 =
      .ok (whole, after) := h

/-- Every plan of a page is well formed: the numbers of its blocks increase, and each of its operations
has all that it needs. -/
theorem Compiler.planPage_wellFormed {compiler after : Compiler} {sourceName : Option String}
    {page : String} {whole : Plan}
    (h : (compiler.planPage sourceName page).1 = .ok (whole, after)) :
    whole.blocks.Pairwise (fun first second => first.index < second.index) ∧
      ∀ block ∈ whole.blocks, ∀ operation ∈ block.operations,
        WellFormed compiler.settings operation := by
  obtain ⟨added, hadded, hblocks, -⟩ := contributions_of_plan (plan_of_planPage h)
  rw [hblocks]
  constructor
  · exact pairwise_contributions hadded (blocks_increasing _ page)
  · intro plan hp
    obtain ⟨block, hb, hm⟩ := List.mem_flatMap.1 hp
    exact (hadded block hb).wellFormed plan hm

/-- A page with a block that writes and one that asks with a key from the environment. -/
def mixedPage : String :=
  "<script type=\"pwsh\">Write-Output x</script><script type=\"pwsh\">Read-AzCosmosItems " ++
    "-DatabaseName d -ContainerName c -AccountName a -AccountKey k</script>"

/-- A compiler that has been used before. -/
def usedCompiler : Compiler where
  settings := {}
  environ := fun _ => none
  tables := { known := FoldedTable.empty.insert "x" "y" }

theorem Compiler.planPage_wellFormed_mixedPage :
    ∃ whole after, (usedCompiler.planPage none mixedPage).1 = .ok (whole, after) ∧
      whole = ⟨"index.html", [⟨0, [.emitText "x"]⟩,
        ⟨1, [.readFirstItemFromEnv "k" "https://a.documents.azure.com:443/"
          ⟨"d", "c", "SELECT TOP 1 * FROM c", ""⟩]⟩]⟩ ∧
      whole.blocks.Pairwise (fun first second => first.index < second.index) ∧
      ∀ block ∈ whole.blocks, ∀ operation ∈ block.operations,
        WellFormed usedCompiler.settings operation := by
  have run : (usedCompiler.planPage none mixedPage).1.toOption.map Prod.fst =
      some ⟨"index.html", [⟨0, [.emitText "x"]⟩,
        ⟨1, [.readFirstItemFromEnv "k" "https://a.documents.azure.com:443/"
          ⟨"d", "c", "SELECT TOP 1 * FROM c", ""⟩]⟩]⟩ := by
    decide +kernel
  obtain ⟨⟨whole, after⟩, hw, he⟩ := ok_of_toOption run
  exact ⟨whole, after, hw, he, planPage_wellFormed hw⟩

end PageScript.Compile
