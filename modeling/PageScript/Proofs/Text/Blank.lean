import Mathlib.Data.List.DropRight
import PageScript.Text.Blank

/-!
# Blanks and trimming

There are few blanks, so that a fact about all of them can be checked one by one (`mem_blankCodes`).
A trimmed text is a part of the text, and trimming it again changes nothing.
-/

namespace PageScript.Text

/-- The codes of all blanks. -/
def blankCodes : List Nat :=
  [0x09, 0x0A, 0x0B, 0x0C, 0x0D, 0x1C, 0x1D, 0x1E, 0x1F, 0x20, 0x85, 0xA0, 0x1680, 0x2000, 0x2001,
    0x2002, 0x2003, 0x2004, 0x2005, 0x2006, 0x2007, 0x2008, 0x2009, 0x200A, 0x2028, 0x2029, 0x202F,
    0x205F, 0x3000]

theorem mem_blankCodes {c : Char} (h : isBlank c = true) : c.toNat ∈ blankCodes := by
  simp only [isBlank, Bool.or_eq_true, Bool.and_eq_true, decide_eq_true_eq, beq_iff_eq] at h
  simp only [blankCodes, List.mem_cons, List.not_mem_nil, or_false]
  omega

/-! ## Trimming -/

theorem sublist_trimOf (drop : Char → Bool) (text : List Char) : (trimOf drop text).Sublist text :=
  (List.rdropWhile_prefix drop _).sublist.trans (List.dropWhile_suffix drop).sublist

/-- A text that starts with a character to be kept still starts with it when its end is trimmed. -/
theorem trimEndOf_cons_of_neg {drop : Char → Bool} {c : Char} (hc : drop c = false)
    (text : List Char) :
    ∃ kept, trimEndOf drop (c :: text) = c :: kept := by
  obtain ⟨rest, hr⟩ : trimEndOf drop (c :: text) <+: c :: text := List.rdropWhile_prefix drop _
  cases hk : trimEndOf drop (c :: text) with
  | nil =>
    have all := List.rdropWhile_eq_nil_iff.1 hk c List.mem_cons_self
    rw [hc] at all
    cases all
  | cons d kept =>
    rw [hk, List.cons_append] at hr
    rw [(List.cons.inj hr).1]
    exact ⟨kept, rfl⟩

theorem trimOf_trimOf (drop : Char → Bool) (text : List Char) :
    trimOf drop (trimOf drop text) = trimOf drop text := by
  have started : trimStartOf drop (trimOf drop text) = trimOf drop text := by
    unfold trimOf
    cases hs : trimStartOf drop text with
    | nil => rfl
    | cons c rest =>
      have hc : drop c = false := by
        have head := List.head?_dropWhile_not drop text
        rwa [show text.dropWhile drop = c :: rest from hs] at head
      obtain ⟨kept, hk⟩ := trimEndOf_cons_of_neg hc rest
      rw [hk, trimStartOf, List.dropWhile_cons_of_neg (by simp [hc])]
  have ended : trimEndOf drop (trimOf drop text) = trimOf drop text :=
    List.rdropWhile_idempotent drop _
  conv => lhs; rw [trimOf, started, ended]

theorem trim_trim (text : String) : trim (trim text) = trim text := by
  rw [trim, trim, String.toList_ofList, trimOf_trimOf]

end PageScript.Text
