import PageScript.Proofs.Script.Layout

/-!
# The order of the diagnostics

A fault is reported between the first character of the statement that fails and the place reading had
got to, and reading resumes behind a line feed that is not in front of that place (`resume_lineFeed`).
So whatever is complained about later stands on a later line.
-/

namespace PageScript.Script

/-- Reading resumes at the end of the script, or behind a line feed that does not stand in front of the
site of the fault. -/
theorem resume_lineFeed {c : Char} {t site reached : List Char} (hr : reached <:+ site)
    (hs : site <:+ c :: t) :
    resume t reached = [] ∨ '\n' :: resume t reached <:+ site := by
  have passed {from_ : List Char} (hf : from_ <:+ site) :
      (from_.dropWhile (· != '\n')).tail = [] ∨
        '\n' :: (from_.dropWhile (· != '\n')).tail <:+ site := by
    have hd := (List.dropWhile_suffix (· != '\n') (l := from_)).trans hf
    have hn := List.head?_dropWhile_not (· != '\n') from_
    cases hw : from_.dropWhile (· != '\n') with
    | nil => exact .inl rfl
    | cons d u =>
      rw [hw] at hd hn
      obtain rfl : d = '\n' := by simpa using hn
      exact .inr hd
  rw [resume]
  split
  · exact passed hr
  · rename_i hl
    apply passed
    -- Nothing has been read of the statement, so the fault is at its first character.
    have hlength : (c :: t).length ≤ reached.length := by
      rw [List.length_cons]
      omega
    obtain rfl := (hr.trans hs).eq_of_length_le hlength
    exact (List.suffix_cons c t).trans hr

theorem Reads.complaints_nil {statements : List Statement} {complaints : List Complaint}
    (h : Reads [] statements complaints) : complaints = [] := by
  have hn := skipSeparators_nil rfl
  cases h with
  | done _ => rfl
  | next hs _ _ => cases hn.symm.trans hs
  | resumed hs _ _ => cases hn.symm.trans hs
  | stuck hs => cases hn.symm.trans hs

/-- The complaints of a run are about one line after the other. -/
theorem Reads.lines_increase {whole text : List Char} {statements : List Statement}
    {complaints : List Complaint} (h : Reads text statements complaints) (ht : text <:+ whole) :
    complaints.Pairwise fun first second =>
      (Text.position whole (whole.length - first.remaining)).line <
        (Text.position whole (whole.length - second.remaining)).line := by
  induction h with
  | done _ => exact List.Pairwise.nil
  | @next text c t found _ _ hs _ _ ih =>
    exact ih ((found.suffix.trans (skipSeparators_suffix hs)).trans ht)
  | @resumed text c t what site reached _ _ hs hf hr ih =>
    have hstart := (skipSeparators_suffix hs).trans ht
    have hw : reached <:+ site ∧ site <:+ c :: t := statement_faults (c :: t) _ hf
    have hresume := (resume_suffix (hw.1.trans hw.2)).trans (List.suffix_cons c t)
    refine List.pairwise_cons.2 ⟨?_, ih (hresume.trans hstart)⟩
    intro later hm
    rcases resume_lineFeed hw.1 hw.2 with hend | hfeed
    · rw [hend] at hr
      rw [hr.complaints_nil] at hm
      cases hm
    · have hlater := hr.within.2 later hm
      have hlength := hfeed.length_le
      obtain ⟨before, rfl⟩ := hfeed.trans (hw.2.trans hstart)
      apply Text.line_lt_line
      · simp only [List.length_append, List.length_cons] at hlength ⊢
        omega
      · simp only [List.length_append, List.length_cons]
        omega
  | stuck _ => exact List.pairwise_singleton _ _

end PageScript.Script

namespace PageScript

/-- The line of the first diagnostic is above that of the second. -/
def Diagnostic.IsAbove (first second : Diagnostic) : Prop :=
  ∃ m n : Int, first.place.line = some m ∧ second.place.line = some n ∧ m < n

end PageScript

namespace PageScript.Script

/-- The diagnostics of a script that is read stand on increasing lines, so there is at most one for a
line and the first is for the uppermost place. Each of them names a position of the script with unified
line ends, and the page and the block that it was asked for. -/
theorem read_diagnostics_ordered {source : String} {reading : Reading} (h : read source = .ok reading)
    (path : String) (block : Option Int) :
    reading.text = Text.unifyLineEnds source.toList ∧
    (reading.diagnostics path block).Pairwise Diagnostic.IsAbove ∧
    ∀ diagnostic ∈ reading.diagnostics path block, ∃ place : Text.Position,
      place.In reading.text ∧
        diagnostic.place = ⟨some path, block, some (place.line : Int), some (place.column : Int)⟩ := by
  rw [read_eq] at h
  obtain ⟨⟨statements, complaints⟩, ho, rfl⟩ := ok_of_map h
  have hreads := reads_of_readStatements ho
  refine ⟨rfl, ?_, ?_⟩
  · rw [Reading.diagnostics, List.pairwise_map]
    refine (hreads.lines_increase List.suffix_rfl).imp ?_
    intro first second hlines
    exact ⟨_, _, rfl, rfl, Int.ofNat_lt.2 hlines⟩
  · intro diagnostic hm
    rw [Reading.diagnostics, List.mem_map] at hm
    obtain ⟨complaint, -, rfl⟩ := hm
    exact ⟨_, Text.position_in (Nat.sub_le _ _), rfl⟩

/-- A bracket that closes nothing, a group over two lines that is closed by another one, and a string
without an end. -/
theorem read_diagnostics_ordered_threeFaults :
    ∃ reading, read ")\r\nf (\n]\n g \"x" = .ok reading ∧
      (reading.diagnostics "p" (some 2)).map (·.place) =
        [⟨some "p", some 2, some 1, some 1⟩, ⟨some "p", some 2, some 3, some 1⟩,
          ⟨some "p", some 2, some 4, some 4⟩] ∧
      (reading.diagnostics "p" (some 2)).Pairwise Diagnostic.IsAbove ∧
      ∀ diagnostic ∈ reading.diagnostics "p" (some 2), ∃ place : Text.Position,
        place.In reading.text ∧
          diagnostic.place = ⟨some "p", some 2, some (place.line : Int), some (place.column : Int)⟩ := by
  have run : (read ")\r\nf (\n]\n g \"x").toOption.map
      (fun reading => (reading.diagnostics "p" (some 2)).map (·.place)) =
        some [⟨some "p", some 2, some 1, some 1⟩, ⟨some "p", some 2, some 3, some 1⟩,
          ⟨some "p", some 2, some 4, some 4⟩] := by
    decide +kernel
  obtain ⟨reading, hr, hplaces⟩ := ok_of_toOption run
  have ordered := read_diagnostics_ordered hr "p" (some 2)
  exact ⟨reading, hr, hplaces, ordered.2⟩

end PageScript.Script
