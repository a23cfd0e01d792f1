import PageScript.Text.Folding

/-!
# What folding keeps apart

Folding moves letters only, and moves them to letters: a digit or a mark below the capital letters
comes from no other character (`eq_of_mem_foldChar`), and no character folds to nothing. So a text
that folds to one with a colon has a colon, and only the empty text folds to the empty text.
-/

namespace PageScript.Text

/-! ## Characters -/

theorem toLower_of_low {c : Char} (hc : c.toNat < 0x80) (h : c.toLower.toNat < 0x41) :
    c.toLower = c := by
  have all : ∀ n < 0x80, (Char.ofNat n).toLower.toNat < 0x41 →
      (Char.ofNat n).toLower = Char.ofNat n := by decide
  rw [← Char.ofNat_toNat c]
  apply all c.toNat hc
  rwa [Char.ofNat_toNat]

/-- The sequences in the table are not empty, and hold letters and marks above them only. -/
theorem foldSequences_high {n : Nat} {codes : List Nat} (h : foldSequences.lookup n = some codes) :
    codes ≠ [] ∧ ∀ code ∈ codes, 0x41 ≤ (Char.ofNat code).toNat := by
  have all : (foldSequences.all fun entry =>
      !entry.2.isEmpty && entry.2.all fun code => 0x41 ≤ (Char.ofNat code).toNat) = true := by
    decide +kernel
  obtain ⟨before, after, hl, -⟩ := List.lookup_eq_some_iff.1 h
  have hm : (n, codes) ∈ foldSequences := by simp [hl]
  simpa using List.all_eq_true.1 all (n, codes) hm

theorem toNat_ofNat_or (n : Nat) : (Char.ofNat n).toNat = 0 ∨ (Char.ofNat n).toNat = n := by
  by_cases h : n.isValidChar
  · right
    rw [Char.ofNat, dif_pos h]
    rfl
  · left
    rw [Char.ofNat, dif_neg h]
    rfl

/-- Runs that move their characters to letters have letters for partners. -/
theorem partner?_high {runs : Array CaseRun} {c other : Char}
    (h : (runs.toList.all fun run => 0x41 ≤ run.first + run.delta) = true)
    (hp : CaseRun.partner? runs c = some other) : other.toNat = 0 ∨ 0x41 ≤ other.toNat := by
  unfold CaseRun.partner? at hp
  dsimp only at hp
  split at hp
  · rename_i run hrun
    split at hp
    · rename_i hc
      cases hp
      have hhigh : 0x41 ≤ run.first + run.delta := by
        simpa using List.all_eq_true.1 h run (Array.mem_toList_iff.2 (Array.mem_of_getElem? hrun))
      have hfirst : run.first ≤ c.toNat := by
        simp only [CaseRun.covers, Bool.and_eq_true, decide_eq_true_eq] at hc
        exact hc.1.1
      refine (toNat_ofNat_or _).imp_right fun he => ?_
      omega
    · cases hp
  · cases hp

theorem partner_high {c other : Char}
    (h : (CaseRun.partner? foldRuns c).or (CaseRun.partner? lowerRuns c) = some other) :
    other.toNat = 0 ∨ 0x41 ≤ other.toNat := by
  rcases Option.or_eq_some_iff.1 h with h | ⟨-, h⟩
  · exact partner?_high (by decide +kernel) h
  · exact partner?_high (by decide +kernel) h

/-- A character below the letters, the first one apart, comes from itself only. -/
theorem eq_of_mem_foldChar {x c : Char} (hpos : 0 < x.toNat) (hlow : x.toNat < 0x41)
    (h : x ∈ foldChar c) : c = x := by
  unfold foldChar at h
  split at h
  · rename_i hc
    cases List.mem_singleton.1 h
    exact (toLower_of_low hc hlow).symm
  · split at h
    · rename_i codes hcodes
      obtain ⟨code, hm, rfl⟩ := List.mem_map.1 h
      have := (foldSequences_high hcodes).2 code hm
      omega
    · have he := List.mem_singleton.1 h
      cases hp : (CaseRun.partner? foldRuns c).or (CaseRun.partner? lowerRuns c) with
      | none =>
        rw [hp] at he
        exact he.symm
      | some other =>
        rw [hp, Option.getD_some] at he
        rcases partner_high hp with hs | hs
        · rw [← he] at hs
          omega
        · rw [← he] at hs
          omega

theorem foldChar_ne_nil (c : Char) : foldChar c ≠ [] := by
  unfold foldChar
  split
  · exact List.cons_ne_nil _ _
  · split
    · rename_i codes hcodes
      rw [Ne, List.map_eq_nil_iff]
      exact (foldSequences_high hcodes).1
    · exact List.cons_ne_nil _ _

/-! ## Texts -/

theorem foldChars_append (text rest : List Char) :
    foldChars (text ++ rest) = foldChars text ++ foldChars rest := List.flatMap_append

theorem mem_of_mem_foldChars {x : Char} {text : List Char} (hpos : 0 < x.toNat)
    (hlow : x.toNat < 0x41) (h : x ∈ foldChars text) : x ∈ text := by
  obtain ⟨c, hc, hx⟩ := List.mem_flatMap.1 h
  rwa [← eq_of_mem_foldChar hpos hlow hx]

theorem foldChars_eq_nil {text : List Char} (h : foldChars text = []) : text = [] := by
  cases text with
  | nil => rfl
  | cons c rest =>
    rw [foldChars, List.flatMap_cons, List.append_eq_nil_iff] at h
    exact absurd h.1 (foldChar_ne_nil c)

/-- Names that fold alike are both empty or both not. -/
theorem isEmpty_of_fold {a b : String} (h : fold a = fold b) : a.isEmpty = b.isEmpty := by
  have nil {a b : String} (h : fold a = fold b) (ha : a = "") : b = "" := by
    subst ha
    have hb : foldChars b.toList = [] := (String.ofList_injective h).symm
    exact String.toList_eq_nil_iff.1 (foldChars_eq_nil hb)
  rw [Bool.eq_iff_iff, String.isEmpty_iff, String.isEmpty_iff]
  exact ⟨nil h, nil h.symm⟩

end PageScript.Text
