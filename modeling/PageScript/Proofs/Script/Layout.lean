import PageScript.Proofs.Script.Extents
import PageScript.Proofs.Script.Gaps
import PageScript.Proofs.Text.Position

/-!
# The layout of a script

A script that is read without complaint falls into its statements and the gaps between them, and no
character of it is lost: behind a gap a statement begins, its text is kept, and behind the text there is
a gap again (`Laid`). Every part of every statement, at any depth and in any script, has the text that
stands at the place which its location names.
-/

namespace PageScript.Script

/-! ## A run of reading -/

/-- What reading gets from a text: the statements and the complaints. -/
inductive Reads : List Char → List Statement → List Complaint → Prop where
  | done {text : List Char} : skipSeparators text = .ok [] → Reads text [] []
  | next {text : List Char} {c : Char} {t : List Char} {found : Found Statement (c :: t)}
      {statements : List Statement} {complaints : List Complaint} :
    skipSeparators text = .ok (c :: t) → statement (c :: t) = .ok found →
    Reads found.rest statements complaints → Reads text (found.value :: statements) complaints
  /-- A statement has failed. -/
  | resumed {text : List Char} {c : Char} {t : List Char} {what : Problem} {site reached : List Char}
      {statements : List Statement} {complaints : List Complaint} :
    skipSeparators text = .ok (c :: t) →
    statement (c :: t) = .error (.problem what site reached) →
    Reads (resume t reached) statements complaints →
    Reads text statements (⟨what, site.length⟩ :: complaints)
  /-- There is a comment without an end. -/
  | stuck {text : List Char} {what : Problem} {site reached : List Char} :
    skipSeparators text = .error (.problem what site reached) → Reads text [] [⟨what, site.length⟩]

theorem reads_of_readStatements {text : List Char} {statements : List Statement}
    {complaints : List Complaint} (h : readStatements text = .ok (statements, complaints)) :
    Reads text statements complaints := by
  induction hn : text.length using Nat.strongRecOn generalizing text statements complaints with
  | ind n ih =>
    subst hn
    cases hs : skipSeparators text with
    | error fault =>
      obtain ⟨site, -, rfl⟩ := skipSeparators_error hs
      rw [readStatements_openComment hs] at h
      cases h
      exact .stuck hs
    | ok here =>
      cases here with
      | nil =>
        rw [readStatements_end hs] at h
        cases h
        exact .done hs
      | cons c t =>
        have hl := (skipSeparators_suffix hs).length_le
        cases hf : statement (c :: t) with
        | ok found =>
          rw [readStatements_next hs hf] at h
          obtain ⟨out, ho, he⟩ := ok_of_map h
          cases he
          exact .next hs hf (ih _ (Nat.lt_of_lt_of_le found.shorter hl) ho rfl)
        | error fault =>
          cases fault with
          | numeral fault =>
            rw [readStatements_eq hs, hf] at h
            cases h
          | problem what site reached =>
            rw [readStatements_resumed hs hf] at h
            obtain ⟨out, ho, he⟩ := ok_of_map h
            cases he
            exact .resumed hs hf (ih _ (Nat.lt_of_le_of_lt (resume_length t reached) hl) ho rfl)

/-- What a run records lies in the text that it reads. -/
theorem Reads.within {text : List Char} {statements : List Statement} {complaints : List Complaint}
    (h : Reads text statements complaints) :
    (∀ s ∈ statements, s.Within text) ∧ ∀ complaint ∈ complaints, complaint.remaining ≤ text.length := by
  induction h with
  | done _ => exact ⟨fun _ hm => absurd hm List.not_mem_nil, fun _ hm => absurd hm List.not_mem_nil⟩
  | @next text c t found _ _ hs hf _ ih =>
    have hhere := skipSeparators_suffix hs
    have hrest := found.suffix.trans hhere
    refine ⟨List.forall_mem_cons.2 ⟨?_, fun s hm => ?_⟩, fun complaint hm => ?_⟩
    · exact (statement_placed (c :: t) found hf).mono hhere
    · exact (ih.1 s hm).mono hrest
    · exact Nat.le_trans (ih.2 complaint hm) hrest.length_le
  | @resumed text c t what site reached _ _ hs hf _ ih =>
    have hfault : reached <:+ site ∧ site <:+ c :: t := statement_faults (c :: t) _ hf
    have hhere := skipSeparators_suffix hs
    have hrest := ((resume_suffix (hfault.1.trans hfault.2)).trans (List.suffix_cons c t)).trans hhere
    refine ⟨fun s hm => (ih.1 s hm).mono hrest, List.forall_mem_cons.2 ⟨?_, fun complaint hm => ?_⟩⟩
    · exact (hfault.2.trans hhere).length_le
    · exact Nat.le_trans (ih.2 complaint hm) hrest.length_le
  | stuck hs =>
    obtain ⟨site, hsite, he⟩ := skipSeparators_error hs
    cases he
    refine ⟨fun _ hm => absurd hm List.not_mem_nil, List.forall_mem_singleton.2 ?_⟩
    exact hsite.length_le

/-! ## The text of a statement -/

/-- The text starts with the text of the extent, and from there a gap leads to `rest`. -/
structure Spans (text : List Char) (extent : Extent) (rest : List Char) : Prop where
  remaining : extent.remaining = text.length
  gap : ∃ behind, text = extent.text.toList ++ behind ∧ GapBetween behind rest

theorem Spans.trans {text middle rest : List Char} {extent : Extent} (h : Spans text extent middle)
    (hg : GapBetween middle rest) : Spans text extent rest := by
  obtain ⟨behind, ht, hb⟩ := h.gap
  exact ⟨h.remaining, behind, ht, hb.trans hg⟩

theorem trimmed_spans {text rest : List Char} (h : rest <:+ text) :
    Spans text (.trimmed text rest) rest := by
  obtain ⟨taken, rfl⟩ := h
  obtain ⟨blanks, ht, hb⟩ := trimEndOf_append Text.isBlank taken
  refine ⟨rfl, blanks ++ rest, ?_, blanks, rfl, gap_of_blanks hb rest⟩
  have htake : (taken ++ rest).take ((taken ++ rest).length - rest.length) = taken := by
    rw [List.length_append, Nat.add_sub_cancel, List.take_left]
  rw [Extent.trimmed, htake, String.toList_ofList, ← List.append_assoc, ← ht]

/-- A part of a pipeline that nothing is joined to has only blanks behind it. -/
theorem junction_alone (text : List Char) :
    Gives (fun out => out.1 = .alone → GapBetween text out.2.val) (junction text) := by
  rw [junction]
  refine Gives.bind fun here _ => ?_
  obtain ⟨here, h⟩ := here
  dsimp only
  split
  · refine Gives.bind fun next _ => Gives.bind fun rest _ => .ok fun halone => ?_
    cases halone
  · split
    · refine Gives.bind fun next _ => ?_
      split
      · exact .error _
      · refine Gives.bind fun part _ => Gives.bind fun out _ => .ok fun halone => ?_
        dsimp only at halone
        split at halone <;> cases halone
    · exact .ok fun _ => skipInline_gap h

theorem statementEnd_gap (text : List Char) : Gives (GapBetween text) (statementEnd text) := by
  refine Gives.bind fun here h => ?_
  split
  · exact .ok (skipInline_gap h)
  · exact .error _

theorem command_spans (text : List Char) :
    Gives (fun found => Spans text found.value.extent found.rest) (command hashtable text) :=
  Gives.bind fun name _ => Gives.bind fun out _ => .ok (trimmed_spans (out.2.property.trans name.suffix))

theorem pipeline_spans (text : List Char) :
    Gives (fun found => Spans text found.value.extent found.rest) (pipeline text) := by
  refine Gives.bind fun first hf => Gives.bind fun out ho => .ok ?_
  obtain ⟨kind, rest⟩ := out
  have hx : Spans text (.trimmed text rest.val) rest.val :=
    trimmed_spans (rest.property.trans first.suffix)
  cases kind with
  | chained => exact hx
  | piped => exact hx
  | alone =>
    cases hv : first.value with
    | other => exact hx
    | command c =>
      -- A single command ends in front of the blanks that were looked over for a pipe.
      obtain ⟨inner, hi, rfl, hr⟩ := stage_gives text first hf c hv
      have hcommand : Spans text inner.value.extent first.rest := hr ▸ command_spans text inner hi
      exact hcommand.trans (junction_alone _ _ ho rfl)

theorem pipelineStatement_spans (text : List Char) :
    Gives (fun found => Spans text found.value.extent found.rest) (pipelineStatement text) := by
  refine Gives.bind fun found hf => Gives.bind fun rest _ => .ok ?_
  obtain ⟨rest, hr⟩ := rest
  exact (pipeline_spans text found hf).trans (statementEnd_gap _ _ hr)

theorem assignment?_spans (t : List Char) :
    Gives (fun out => ∀ found, out = some found → Spans ('$' :: t) found.value.extent found.rest)
      (assignment? t) := by
  refine Gives.bind fun target _ => Gives.bind fun here _ => ?_
  obtain ⟨here, _⟩ := here
  dsimp only
  split
  · refine .ok fun found h => ?_
    cases h
  · refine Gives.bind fun start _ => ?_
    split
    · exact .error _
    · refine Gives.bind fun value _ => Gives.bind fun rest _ => .ok fun found h => ?_
      have hs := found.suffix
      cases h
      exact trimmed_spans hs

/-- A statement begins where it is read, and only a gap stands behind its text. -/
theorem statement_spans (text : List Char) :
    Gives (fun found => Spans text found.value.extent found.rest) (statement text) := by
  unfold statement
  split
  · exact .error _
  · rename_i t
    split
    · refine Gives.bind fun found hf => ?_
      cases found with
      | some found => exact .ok (assignment?_spans t _ hf found rfl)
      | none => exact pipelineStatement_spans _
    · exact pipelineStatement_spans _
  · rename_i c t _
    split
    · exact .error _
    · split
      · exact Gives.bind fun rest _ => .ok (trimmed_spans (rest.property.trans (List.suffix_cons c t)))
      · exact pipelineStatement_spans _

/-! ## The layout -/

/-- The offset into the script that a place names. -/
def Reading.offset (reading : Reading) (place : Location) : Nat :=
  Text.Position.offset ⟨place.line.toNat, place.column.toNat⟩ reading.text

/-- Behind `before` stands the text of the extent, and there its location points. -/
structure Reading.Places (reading : Reading) (before : List Char) (extent : Extent) : Prop where
  slice : ∃ after, reading.text = before ++ extent.text.toList ++ after
  offset : ∀ file, reading.offset (reading.location file extent) = before.length

/-- Behind `before` the script goes on with `text`, which is these statements and the gaps between
them. -/
inductive Reading.Laid (reading : Reading) : List Char → List Statement → List Char → Prop where
  | done {before gap : List Char} : Gap gap [] → Laid reading before [] gap
  | next {before gap behind : List Char} {s : Statement} {statements : List Statement} :
    Gap gap (s.extent.text.toList ++ behind) → reading.Places (before ++ gap) s.extent →
    Laid reading (before ++ gap ++ s.extent.text.toList) statements behind →
    Laid reading before (s :: statements) (gap ++ s.extent.text.toList ++ behind)

theorem places_of_remaining {reading : Reading} {before start : List Char} {extent : Extent}
    (ht : reading.text = before ++ start) (hr : extent.remaining = start.length)
    (hp : extent.text.toList <+: start) : reading.Places before extent := by
  obtain ⟨after, rfl⟩ := hp
  refine ⟨⟨after, by rw [ht, List.append_assoc]⟩, fun file => ?_⟩
  have hn : reading.text.length - extent.remaining = before.length := by
    rw [ht, hr, List.length_append, Nat.add_sub_cancel]
  have hle : before.length ≤ reading.text.length := by
    rw [ht, List.length_append]
    exact Nat.le_add_right _ _
  have ho := Text.offset_position hle
  rw [← hn] at ho ⊢
  exact ho

/-- A gap may be put in front. -/
theorem Reading.Laid.precede {reading : Reading} {before gap text : List Char}
    {statements : List Statement} (hg : Gap gap text)
    (h : reading.Laid (before ++ gap) statements text) :
    reading.Laid before statements (gap ++ text) := by
  cases h with
  | done h =>
    rw [← List.append_nil text] at hg
    exact .done (hg.append h)
  | @next _ inner behind s _ h hp hl =>
    rw [List.append_assoc] at hg
    rw [← List.append_assoc, ← List.append_assoc]
    rw [List.append_assoc] at hp
    rw [List.append_assoc before] at hl
    exact .next (hg.append h) hp hl

/-- A run without complaints lays out the text that it reads. -/
theorem Reads.laid {reading : Reading} {before text : List Char} {statements : List Statement}
    {complaints : List Complaint} (h : Reads text statements complaints) (hc : complaints = [])
    (ht : reading.text = before ++ text) : reading.Laid before statements text := by
  induction h generalizing before with
  | done hs =>
    obtain ⟨gap, rfl, hg⟩ := skipSeparators_gap hs
    rw [List.append_nil]
    exact .done hg
  | @next text c t found statements _ hs hf _ ih =>
    obtain ⟨gap, rfl, hg⟩ := skipSeparators_gap hs
    have hspan := statement_spans (c :: t) found hf
    obtain ⟨behind, hb, inner, rfl, hi⟩ := hspan.gap
    rw [← List.append_assoc] at ht
    have hplace := places_of_remaining ht hspan.remaining ⟨_, hb.symm⟩
    rw [hb] at hg ht
    have hlaid : reading.Laid (before ++ gap ++ found.value.extent.text.toList ++ inner) statements
        found.rest := by
      apply ih hc
      rw [ht]
      simp only [List.append_assoc]
    have hwhole : gap ++ c :: t =
        gap ++ found.value.extent.text.toList ++ (inner ++ found.rest) := by
      rw [List.append_assoc, ← hb]
    exact hwhole ▸ .next hg hplace (.precede hi hlaid)
  | resumed => cases hc
  | stuck => cases hc

/-- Reading without complaint loses no text, and every part of a statement has the text that stands
at its location. -/
theorem read_lossless {source : String} {reading : Reading} (h : read source = .ok reading)
    (hc : reading.complaints = []) :
    reading.text = Text.unifyLineEnds source.toList ∧
    reading.Laid [] reading.statements reading.text ∧
    ∀ s ∈ reading.statements, ∀ extent, s.HasExtent extent →
      ∃ before, reading.Places before extent := by
  rw [read_eq] at h
  obtain ⟨⟨statements, complaints⟩, ho, rfl⟩ := ok_of_map h
  have hreads := reads_of_readStatements ho
  refine ⟨rfl, hreads.laid hc rfl, fun s hm extent hx => ?_⟩
  obtain ⟨start, ⟨before, hb⟩, hr, hp⟩ := hreads.within.1 s hm extent hx
  exact ⟨before, places_of_remaining hb.symm hr hp⟩

/-- Three statements, with comments of both kinds, a continued line and a hashtable. -/
theorem read_lossless_mixedScript :
    ∃ reading, read
        "# all\n$p = @\x7bName = 'x'; n = 1\x7d # p\nGet-X -Id:'v' @p `\n 5; <# c #> if (1) \x7b\x7d" =
        .ok reading ∧ reading.complaints = [] ∧ reading.statements.length = 3 ∧
      reading.Laid [] reading.statements reading.text ∧
      ∀ s ∈ reading.statements, ∀ extent, s.HasExtent extent →
        ∃ before, reading.Places before extent := by
  have run : (read
      "# all\n$p = @\x7bName = 'x'; n = 1\x7d # p\nGet-X -Id:'v' @p `\n 5; <# c #> if (1) \x7b\x7d").toOption.map
        (fun reading => (reading.complaints, reading.statements.length)) = some ([], 3) := by
    decide +kernel
  obtain ⟨reading, hr, he⟩ := ok_of_toOption run
  obtain ⟨hc, hn⟩ := Prod.mk.inj he
  obtain ⟨-, laid, placed⟩ := read_lossless hr hc
  exact ⟨reading, hr, hc, hn, laid, placed⟩

end PageScript.Script
