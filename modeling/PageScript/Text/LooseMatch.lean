import PageScript.Text.Lowering

/-!
# Matching without regard to letter case

Two characters match loosely when their one-character lower cases agree, or when those lower cases
are different letters with a common upper case (`s` and `ſ`, `σ` and `ς`). Unlike folding it never
relates one character to two. Tags of a page are found this way.
-/

namespace PageScript.Text

/-- Lower-case letters that share their upper case with an earlier letter, and that letter. -/
def sharedUpper : List (Nat × Nat) := [
  (0x131, 0x69), (0x17F, 0x73), (0x3B9, 0x345), (0x3BC, 0xB5), (0x3C3, 0x3C2), (0x3D0, 0x3B2),
  (0x3D1, 0x3B8), (0x3D5, 0x3C6), (0x3D6, 0x3C0), (0x3F0, 0x3BA), (0x3F1, 0x3C1), (0x3F5, 0x3B5),
  (0x1C80, 0x432), (0x1C81, 0x434), (0x1C82, 0x43E), (0x1C83, 0x441), (0x1C84, 0x442),
  (0x1C85, 0x442), (0x1C86, 0x44A), (0x1C87, 0x463), (0x1E9B, 0x1E61), (0x1FBE, 0x345),
  (0x1FD3, 0x390), (0x1FE3, 0x3B0), (0xA64B, 0x1C88), (0xFB06, 0xFB05)]

/-- A representative of the characters that match `c` loosely. -/
def looseKey (c : Char) : Char :=
  let small := lowerChar c
  if small.toNat < 0x80 then small
  else
    match sharedUpper.lookup small.toNat with
    | some code => Char.ofNat code
    | none => small

/-- `c` and `d` are the same letter up to case. -/
def looselyEqual (c d : Char) : Bool := looseKey c == looseKey d

/-- What follows `pattern` when `text` starts with it up to letter case. -/
def dropLoosely? : (pattern text : List Char) → Option (List Char)
  | [], text => some text
  | p :: ps, c :: cs => if looselyEqual p c then dropLoosely? ps cs else none
  | _ :: _, [] => none

theorem dropLoosely?_suffix {pattern text rest : List Char}
    (h : dropLoosely? pattern text = some rest) :
    rest <:+ text ∧ rest.length + pattern.length = text.length := by
  fun_induction dropLoosely? pattern text with
  | case1 => cases h; exact ⟨List.suffix_rfl, rfl⟩
  | case2 p ps c cs _ ih =>
    obtain ⟨hs, hl⟩ := ih h
    exact ⟨hs.trans (List.suffix_cons c cs), by simp only [List.length_cons]; omega⟩
  | case3 => cases h
  | case4 => cases h

end PageScript.Text
