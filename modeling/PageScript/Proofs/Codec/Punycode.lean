import PageScript.Codec.Punycode
import PageScript.Proofs.Text.Cut

/-!
# The characters of Punycode

Encoding adds nothing to the ASCII characters of a text but a hyphen and digits, which are letters and
numbers of ASCII. In the other direction, a text that is read strictly has only digits behind its last
hyphen, and what stands in front of it is among the characters it stands for.
-/

namespace PageScript.Codec.Punycode

theorem digit_isAlphanum : ∀ n < 36, (digit n).isAlphanum = true := by decide

theorem digitsOf_isAlphanum (bias k delta : Nat) :
    ∀ c ∈ digitsOf bias k delta, c.isAlphanum = true := by
  fun_induction digitsOf bias k delta with
  | case1 k delta t h =>
    have bounds := threshold_bounds k bias
    exact List.forall_mem_singleton.2 (digit_isAlphanum _ (by omega))
  | case2 k delta t h ih =>
    have bounds := threshold_bounds k bias
    have rest : (delta - t) % (36 - t) < 36 - t := Nat.mod_lt _ (by omega)
    exact List.forall_mem_cons.2 ⟨digit_isAlphanum _ (by omega), ih⟩

/-! ## Encoding -/

section

variable {c : Char} {p : Progress}

theorem Progress.mem_output_step {basic n : Nat} {x : Char} (h : c ∈ (p.step basic n x).output) :
    c ∈ p.output ∨ c.isAlphanum = true := by
  unfold Progress.step at h
  split at h
  · exact .inl h
  · split at h
    · rcases List.mem_append.1 h with h | h
      · exact .inl h
      · exact .inr (digitsOf_isAlphanum _ _ _ c h)
    · exact .inl h

theorem mem_output_foldl {basic n : Nat} {text : List Char}
    (h : c ∈ (text.foldl (Progress.step basic n) p).output) :
    c ∈ p.output ∨ c.isAlphanum = true := by
  induction text generalizing p with
  | nil => exact .inl h
  | cons x text ih =>
    rcases ih h with h | h
    · exact Progress.mem_output_step h
    · exact .inr h

theorem mem_output_writeAll {basic last : Nat} {text : List Char} {codes : List Nat}
    (h : c ∈ (writeAll basic text last codes p).output) : c ∈ p.output ∨ c.isAlphanum = true := by
  induction codes generalizing last p with
  | nil => exact .inl h
  | cons n codes ih =>
    rcases ih h with h | h
    · exact mem_output_foldl (p := { p with delta := p.delta + (n - last) * (p.done + 1) }) h
    · exact .inr h

theorem mem_encode {text : List Char} (h : c ∈ encode text) :
    c ∈ text.filter (·.toNat < 0x80) ∨ c = '-' ∨ c.isAlphanum = true := by
  rcases mem_output_writeAll h with h | h
  · split at h
    · cases h
    · rcases List.mem_append.1 h with h | h
      · exact .inl h
      · exact .inr (.inl (List.mem_singleton.1 h))
  · exact .inr (.inr h)

end

/-! ## Decoding -/

theorem isAlphanum_of_digitValue? {c : Char} {d : Nat} (h : digitValue? c = some d) :
    c.isAlphanum = true := by
  unfold digitValue? at h
  split at h
  · rename_i lower
    exact Bool.or_eq_true_iff.2 (.inl (Bool.or_eq_true_iff.2 (.inr lower)))
  · split at h
    · rename_i upper
      exact Bool.or_eq_true_iff.2 (.inl (Bool.or_eq_true_iff.2 (.inl upper)))
    · split at h
      · rename_i number
        exact Bool.or_eq_true_iff.2 (.inr number)
      · cases h

theorem mem_of_takeDifference {bias k weight sum delta : Nat} {text rest : List Char}
    (h : takeDifference bias k weight sum text = some (delta, rest)) :
    ∀ c ∈ text, c.isAlphanum = true ∨ c ∈ rest := by
  induction text generalizing k weight sum with
  | nil => exact List.forall_mem_nil _
  | cons c text ih =>
    rw [takeDifference] at h
    split at h
    · cases h
    · rename_i d hd
      refine List.forall_mem_cons.2 ⟨.inl (isAlphanum_of_digitValue? hd), ?_⟩
      dsimp only at h
      split at h
      · cases h
        exact fun c hc => .inr hc
      · exact ih h

theorem insertAll_strict {n place bias : Nat} {isFirst : Bool} {points result : List Nat}
    {text : List Char} (h : insertAll false n place bias isFirst points text = some result) :
    points ⊆ result ∧ ∀ c ∈ text, c.isAlphanum = true := by
  fun_induction insertAll false n place bias isFirst points text with
  | case1 n place bias isFirst points =>
    cases h
    exact ⟨List.Subset.refl _, List.forall_mem_nil _⟩
  | case2 _ _ _ _ _ _ _ _ lenient => cases lenient
  | case3 => cases h
  | case4 => cases h
  | case5 n place bias isFirst points c rest delta after taken count total m inRange m' place' ih =>
    obtain ⟨kept, digits⟩ := ih h
    have fits : place' ≤ points.length := Nat.lt_succ_iff.1 (Nat.mod_lt total points.length.succ_pos)
    refine ⟨fun x hx => kept ((List.mem_insertIdx fits).2 (.inr hx)), fun c hc => ?_⟩
    exact (mem_of_takeDifference taken c hc).elim id (digits c)

/-- A text read strictly has nothing but digits behind the last hyphen. -/
theorem mem_of_decode? {text : List Char} {points : List Nat} (h : decode? false text = some points) :
    ∀ c ∈ text, c.toNat ∈ points ∨ c = '-' ∨ c.isAlphanum = true := by
  rw [decode?] at h
  by_cases hm : '-' ∈ text
  · obtain ⟨basic, digits, rfl, hd⟩ := Text.exists_last_mark hm
    rw [Text.cutLast_mark hd] at h
    obtain ⟨kept, alphanum⟩ := insertAll_strict h
    refine List.forall_mem_append.2 ⟨fun c hc => .inl (kept (List.mem_map_of_mem hc)), ?_⟩
    exact List.forall_mem_cons.2 ⟨.inr (.inl rfl), fun c hc => .inr (.inr (alphanum c hc))⟩
  · rw [Text.cutLast_none hm] at h
    exact fun c hc => .inr (.inr ((insertAll_strict h).2 c hc))

end PageScript.Codec.Punycode
