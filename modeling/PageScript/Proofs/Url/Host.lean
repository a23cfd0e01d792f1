import PageScript.Found
import PageScript.Proofs.Codec.Percent
import PageScript.Proofs.Codec.Punycode
import PageScript.Url.Basic

/-!
# The characters of a host

Whatever a host name is made of, its written form holds only characters that may stand in a host: an
ASCII name is escaped, and of an international name only letters, digits, hyphens and full stops are
left (`mem_hostName`). So a written host never runs into what stands around it in an address
(`encodeHost_name`).
-/

namespace PageScript

/-- A check that has been passed. -/
theorem ok_of_check {ε α : Type} {c : Prop} [Decidable c] {e : ε} {next : Unit → Except ε α} {a : α}
    (h : (if c then throw e >>= next else next ()) = .ok a) : ¬ c ∧ next () = .ok a := by
  split at h
  · cases h
  · rename_i hc
    exact ⟨hc, h⟩

theorem of_ascii {p : Char → Prop} (h : ∀ n < 0x80, p (Char.ofNat n)) {c : Char}
    (hc : c.toNat < 0x80) : p c :=
  Char.ofNat_toNat c ▸ h c.toNat hc

end PageScript

namespace PageScript.Url.Idna

/-! ## Labels -/

/-- A character of a label in ASCII. -/
def isLabelChar (c : Char) : Bool := c.isAlphanum || c == '-'

theorem isLabelChar_of_isPermitted : ∀ n < 0x80, isPermitted n = true →
    isLabelChar (Char.ofNat n) = true := by
  decide +kernel

theorem needs_nothing_of_ascii : ∀ n < 0x80, isJoiner n = false ∧ needsNeighbours n = false := by
  decide

theorem isPermitted_of_checkChars {label before text : List Nat}
    (h : checkChars label before text = .ok ()) : ∀ n ∈ text, n < 0x80 → isPermitted n = true := by
  induction text generalizing before with
  | nil => exact List.forall_mem_nil _
  | cons n text ih =>
    unfold checkChars at h
    refine List.forall_mem_cons.2 ?_
    dsimp only at h
    split at h
    · rename_i hp
      exact ⟨fun _ => hp, ih h⟩
    · split at h
      · rename_i hj
        split at h
        · exact ⟨fun hn => absurd hj (by simp [(needs_nothing_of_ascii n hn).1]), ih h⟩
        · cases h
      · split at h
        · rename_i hs
          split at h
          · exact ⟨fun hn => absurd hs (by simp [(needs_nothing_of_ascii n hn).2]), ih h⟩
          · cases h
        · cases h

theorem of_checkLabel {label : Label} (h : checkLabel label = .ok ()) :
    label ≠ [] ∧ ∀ n ∈ label, n < 0x80 → isLabelChar (Char.ofNat n) = true := by
  unfold checkLabel at h
  obtain ⟨hne, h⟩ := ok_of_check h
  obtain ⟨-, h⟩ := ok_of_check h
  obtain ⟨-, h⟩ := ok_of_check h
  obtain ⟨-, h⟩ := ok_of_check h
  obtain ⟨-, h⟩ := ok_of_check h
  obtain ⟨_, chars, -⟩ := ok_of_bind h
  exact ⟨fun he => hne (by simp [he]), fun n hn hlow =>
    isLabelChar_of_isPermitted n hlow (isPermitted_of_checkChars chars n hn hlow)⟩

theorem isLabelChar_of_mem {label : List Char} (h : checkLabel (label.map Char.toNat) = .ok ())
    {c : Char} (hc : c ∈ label) (hlow : c.toNat < 0x80) : isLabelChar c = true := by
  have permitted := (of_checkLabel h).2 c.toNat (List.mem_map_of_mem hc) hlow
  rwa [Char.ofNat_toNat] at permitted

theorem isLabelChar_of_isAlphanum {c : Char} (h : c.isAlphanum = true) : isLabelChar c = true := by
  rw [isLabelChar, h, Bool.true_or]

theorem isLabelChar_asciiMark : ∀ c ∈ asciiMark, isLabelChar c = true :=
  List.all_eq_true.1 (by decide)

/-- What is checked behind the mark of an ASCII form is the label that the Punycode stands for, but
its digits are letters and numbers as well. -/
theorem of_checkAscii {label : List Char} (ha : ∀ c ∈ label, c.toNat < 0x80)
    (h : checkAscii label = .ok ()) : label ≠ [] ∧ ∀ c ∈ label, isLabelChar c = true := by
  unfold checkAscii at h
  split at h
  · rename_i marked
    obtain ⟨encoded, rfl⟩ := List.isPrefixOf_iff_prefix.1 marked
    rw [List.drop_left] at h
    rw [List.forall_mem_append] at ha
    refine ⟨List.cons_ne_nil _ _, List.forall_mem_append.2 ⟨isLabelChar_asciiMark, fun c hc => ?_⟩⟩
    dsimp only at h
    split at h
    · cases h
    split at h
    · cases h
    split at h
    · rename_i points decoded
      rcases Codec.Punycode.mem_of_decode? decoded c hc with hp | rfl | hd
      · have permitted := (of_checkLabel h).2 c.toNat hp (ha.2 c hc)
        rwa [Char.ofNat_toNat] at permitted
      · rfl
      · exact isLabelChar_of_isAlphanum hd
    · cases h
  · refine ⟨?_, fun c hc => isLabelChar_of_mem h hc (ha c hc)⟩
    rintro rfl
    exact (of_checkLabel h).1 rfl

theorem of_asciiLabel {label ascii : List Char} (h : asciiLabel label = .ok ascii) :
    ascii ≠ [] ∧ ∀ c ∈ ascii, isLabelChar c = true := by
  unfold asciiLabel at h
  dsimp only at h
  split at h
  · rename_i low
    obtain ⟨_, checked, h⟩ := ok_of_bind h
    obtain ⟨-, h⟩ := ok_of_check (show (if _ then _ else _) = _ from h)
    cases h
    refine of_checkAscii (fun c hc => ?_) checked
    exact of_decide_eq_true (List.all_eq_true.1 low c hc)
  · obtain ⟨_, checked, h⟩ := ok_of_bind h
    obtain ⟨-, h⟩ := ok_of_check (show (if _ then _ else _) = _ from h)
    cases h
    refine ⟨List.cons_ne_nil _ _, List.forall_mem_append.2 ⟨isLabelChar_asciiMark, fun c hc => ?_⟩⟩
    rcases Codec.Punycode.mem_encode hc with hm | rfl | hd
    · obtain ⟨hm, low⟩ := List.mem_filter.1 hm
      exact isLabelChar_of_mem checked hm (of_decide_eq_true low)
    · rfl
    · exact isLabelChar_of_isAlphanum hd

/-! ## Names -/

theorem of_mapM_asciiLabel {parts ascii : List (List Char)}
    (h : parts.mapM asciiLabel = .ok ascii) :
    ascii.length = parts.length ∧
      ∀ label ∈ ascii, label ≠ [] ∧ ∀ c ∈ label, isLabelChar c = true := by
  induction parts generalizing ascii with
  | nil =>
    cases h
    exact ⟨rfl, List.forall_mem_nil _⟩
  | cons part parts ih =>
    rw [List.mapM_cons] at h
    obtain ⟨label, hl, h⟩ := ok_of_bind h
    obtain ⟨labels, hls, h⟩ := ok_of_bind h
    cases h
    obtain ⟨length, each⟩ := ih hls
    exact ⟨congrArg (· + 1) length, List.forall_mem_cons.2 ⟨of_asciiLabel hl, each⟩⟩

theorem labels_ne_nil (host : List Char) : labels host ≠ [] := by
  cases host with
  | nil => exact List.cons_ne_nil _ _
  | cons c host =>
    rw [labels]
    split
    · exact List.cons_ne_nil _ _
    · split <;> exact List.cons_ne_nil _ _

theorem properLabels_ne_nil {host : List Char} {parts : List (List Char)} {dotted : Bool}
    (h : properLabels host = .ok (parts, dotted)) : parts ≠ [] := by
  have some := labels_ne_nil host
  unfold properLabels at h
  dsimp only at h
  split at h
  · cases h
  · rename_i hn
    split at h
    · rename_i last
      cases h
      -- Labels of which none is left without the last are one, the empty one.
      obtain ⟨first, hf⟩ := List.getLast?_eq_some_iff.1 (beq_iff_eq.1 last)
      rw [hf, List.dropLast_concat]
      rintro rfl
      rw [hf] at hn
      exact hn rfl
    · cases h
      exact some

/-- A host name in ASCII is not empty, and has nothing in it but letters, digits, hyphens and full
stops. -/
theorem mem_hostName {host name : List Char} (h : hostName host = .ok name) :
    name ≠ [] ∧ ∀ c ∈ name, isLabelChar c = true ∨ c = '.' := by
  unfold hostName at h
  obtain ⟨⟨parts, dotted⟩, hp, h⟩ := ok_of_bind h
  obtain ⟨ascii, ha, h⟩ := ok_of_bind h
  obtain ⟨-, h⟩ := ok_of_check h
  cases h
  obtain ⟨length, each⟩ := of_mapM_asciiLabel ha
  have some : ascii ≠ [] := by
    rw [← List.length_pos_iff, length]
    exact List.length_pos_iff.2 (properLabels_ne_nil hp)
  obtain ⟨first, others, rfl⟩ := List.exists_cons_of_ne_nil some
  have labels : ∀ label ∈ (if dotted = true then (first :: others) ++ [[]] else first :: others),
      ∀ c ∈ label, isLabelChar c = true := by
    split
    · refine List.forall_mem_append.2 ⟨fun label hl => (each label hl).2, ?_⟩
      exact List.forall_mem_singleton.2 (List.forall_mem_nil _)
    · exact fun label hl => (each label hl).2
  constructor
  · have hf := (each first List.mem_cons_self).1
    split
    · exact Text.intercalate_ne_nil hf _ (others ++ [[]])
    · exact Text.intercalate_ne_nil hf _ others
  · intro c hc
    rcases Text.mem_intercalate hc with rfl | ⟨label, hl, hc⟩
    · exact .inr rfl
    · exact .inl (labels label hl c hc)

end PageScript.Url.Idna

namespace PageScript.Url

/-! ## Written names -/

/-- A character that separates the parts of an address. -/
def isDelimiter (c : Char) : Bool := ":/?#[]@".toList.contains c

theorem toNat_lt_of_isAlphanum {c : Char} (h : c.isAlphanum = true) : c.toNat < 0x80 := by
  have below {high : UInt32} (hc : c.val ≤ high) (hh : high.toNat < 0x80) : c.toNat < 0x80 :=
    Nat.lt_of_le_of_lt (UInt32.le_iff_toNat_le.1 hc) hh
  rcases Bool.or_eq_true_iff.1 h with letter | number
  · rcases Bool.or_eq_true_iff.1 letter with upper | lower
    · exact below (of_decide_eq_true upper).2 (by decide)
    · exact below (of_decide_eq_true (Bool.and_eq_true_iff.1 lower).2) (by decide)
  · exact below (of_decide_eq_true (Bool.and_eq_true_iff.1 number).2) (by decide)

theorem toLower_of_isDigit {c : Char} (h : c.isDigit = true) : c.toLower = c := by
  have all : ∀ n < 0x80, (Char.ofNat n).isDigit = true → (Char.ofNat n).toLower = Char.ofNat n := by
    decide +kernel
  have low : c.toNat < 0x80 := toNat_lt_of_isAlphanum (Bool.or_eq_true_iff.2 (.inr h))
  exact of_ascii (p := fun c => c.isDigit = true → c.toLower = c) all low h

theorem toNat_lt_of_isHostSafe {c : Char} (h : isHostSafe c = true) : c.toNat < 0x80 := by
  simp only [isHostSafe, Codec.Percent.isUnreserved, Bool.or_eq_true, beq_iff_eq] at h
  rcases h with ((((h | rfl) | rfl) | rfl) | rfl) | h
  · exact toNat_lt_of_isAlphanum h
  · decide
  · decide
  · decide
  · decide
  · have low : ("!$&'()*+,;=\"`\x7b\x7d%|\\".toList.all (·.toNat < 0x80)) = true := by decide
    exact of_decide_eq_true (List.all_eq_true.1 low c (List.contains_iff_mem.1 h))

theorem of_isHostSafe {c : Char} (h : isHostSafe c = true) :
    isDelimiter c = false ∧ isControl c = false ∧ isHostSafe c.toLower = true := by
  have all : ∀ n < 0x80, isHostSafe (Char.ofNat n) = true → isDelimiter (Char.ofNat n) = false ∧
      isControl (Char.ofNat n) = false ∧ isHostSafe (Char.ofNat n).toLower = true := by
    decide +kernel
  exact of_ascii (p := fun c => isHostSafe c = true → isDelimiter c = false ∧
    isControl c = false ∧ isHostSafe c.toLower = true) all (toNat_lt_of_isHostSafe h) h

theorem isHostSafe_of_isHex {c : Char} (h : Codec.Percent.isHex c = true) : isHostSafe c = true := by
  have all : ∀ n < 0x80, Codec.Percent.isHex (Char.ofNat n) = true →
      isHostSafe (Char.ofNat n) = true := by decide +kernel
  exact of_ascii (p := fun c => Codec.Percent.isHex c = true → isHostSafe c = true) all
    (Codec.Percent.toNat_lt_of_isHex h) h

theorem isHostSafe_of_isLabelChar {c : Char} (h : Idna.isLabelChar c = true) :
    isHostSafe c = true := by
  rw [Idna.isLabelChar] at h
  simp only [isHostSafe, Codec.Percent.isUnreserved]
  rw [h]
  rfl

/-! ## Addresses of numbers -/

theorem mem_of_looksLikeIpv4 {host : List Char} (h : looksLikeIpv4 host = true) :
    ∀ c ∈ host, c = '.' ∨ c.isDigit = true := by
  intro c hc
  refine (Text.mem_splitAtEach hc).imp_right fun ⟨piece, hp, hm⟩ => ?_
  rw [looksLikeIpv4, Bool.and_eq_true] at h
  have digits := List.all_eq_true.1 h.2 piece hp
  rw [Bool.and_eq_true] at digits
  exact List.all_eq_true.1 digits.2 c hm

theorem of_isOctet {text : List Char} (h : isOctet text = true) :
    text.isEmpty = false ∧ text.all Char.isDigit = true := by
  simp only [isOctet, Bool.and_eq_true, Bool.not_eq_true'] at h
  exact ⟨h.1.1.1.1, h.1.1.2⟩

theorem looksLikeIpv4_of_isIpv4 {host : List Char} (h : isIpv4 host = true) :
    looksLikeIpv4 host = true := by
  rw [isIpv4, Bool.and_eq_true] at h
  rw [looksLikeIpv4, Bool.and_eq_true]
  refine ⟨h.1, List.all_eq_true.2 fun piece hp => ?_⟩
  obtain ⟨some, digits⟩ := of_isOctet (List.all_eq_true.1 h.2 piece hp)
  rw [some, digits]
  rfl

theorem of_areHextets {parts : List (List Char)} (h : areHextets parts = true) :
    ∀ part ∈ parts, part = [] ∨ isHextet part = true := by
  intro part hp
  by_cases hn : part = []
  · exact .inl hn
  · right
    unfold areHextets at h
    dsimp only at h
    split at h
    · rw [Bool.and_eq_true] at h
      exact List.all_eq_true.1 h.2 part hp
    · simp only [Bool.and_eq_true] at h
      refine List.all_eq_true.1 h.1.2 part (List.mem_filter.2 ⟨hp, ?_⟩)
      rw [Bool.not_eq_true', List.isEmpty_eq_false_iff]
      exact hn

theorem mem_of_hextetParts? {address : List Char} {parts : List (List Char)}
    (h : hextetParts? address = some parts) (hp : areHextets parts = true) :
    ∀ c ∈ address, c = ':' ∨ c = '.' ∨ Codec.Percent.isHex c = true := by
  intro c hc
  refine (Text.mem_splitAtEach hc).imp_right fun ⟨piece, hm, hcp⟩ => ?_
  have group (hg : piece ∈ parts) : Codec.Percent.isHex c = true := by
    rcases of_areHextets hp piece hg with rfl | hx
    · cases hcp
    · rw [isHextet, Bool.and_eq_true] at hx
      exact List.all_eq_true.1 hx.2 c hcp
  unfold hextetParts? at h
  dsimp only at h
  split at h
  · rename_i last hl
    obtain ⟨before, hb⟩ := List.getLast?_eq_some_iff.1 hl
    rw [hb] at h hm
    split at h
    · split at h
      · rename_i ipv4
        cases h
        rw [List.dropLast_concat] at group
        rcases List.mem_append.1 hm with hm | hm
        · exact .inr (group (List.mem_append_left _ hm))
        · rw [List.mem_singleton.1 hm] at hcp
          exact (mem_of_looksLikeIpv4 (looksLikeIpv4_of_isIpv4 ipv4) c hcp).imp_right
            Codec.Percent.isHex_of_isDigit
      · cases h
    · cases h
      exact .inr (group hm)
  · cases h

/-- In front of its zone, an address in brackets holds only digits, colons and points. -/
theorem mem_of_isIpv6 {text : List Char} (h : isIpv6 text = true) :
    ':' ∈ text ∧ ∀ c ∈ text.takeWhile (· != '%'),
      c = ':' ∨ c = '.' ∨ Codec.Percent.isHex c = true := by
  have front := Text.cutFirst_fst '%' text
  unfold isIpv6 at h
  generalize Text.cutFirst '%' text = cut at h front
  obtain ⟨address, zone⟩ := cut
  dsimp only at h front
  subst front
  simp only [Bool.and_eq_true, decide_eq_true_eq] at h
  obtain ⟨⟨-, three⟩, groups⟩ := h
  constructor
  · refine Decidable.byContradiction fun hc => ?_
    have absent : ':' ∉ text.takeWhile (· != '%') :=
      fun hm => hc ((List.takeWhile_prefix _).subset hm)
    have whole := Text.splitAtEach_append absent []
    rw [List.append_nil] at whole
    rw [whole, List.length_modifyHead] at three
    exact absurd three (by decide)
  · split at groups
    · rename_i parts hp
      exact mem_of_hextetParts? hp groups
    · cases groups

/-! ## Hosts -/

/-- A written name is not empty and holds only characters that may stand in one. -/
theorem encodeHost_name {text written : List Char} (hne : text ≠ [])
    (hd : ∀ c ∈ text, isDelimiter c = false) (h : encodeHost text = .ok written) :
    written ≠ [] ∧ ∀ c ∈ written, isHostSafe c = true := by
  unfold encodeHost at h
  split at h
  · rename_i empty
    exact absurd (List.isEmpty_iff.1 empty) hne
  split at h
  · rename_i digits
    split at h
    · cases h
      refine ⟨hne, fun c hc => ?_⟩
      rcases mem_of_looksLikeIpv4 digits c hc with rfl | hn
      · rfl
      · exact isHostSafe_of_isHex (Codec.Percent.isHex_of_isDigit hn)
    · cases h
  split at h
  · rename_i brackets
    rw [Bool.and_eq_true, beq_iff_eq] at brackets
    cases hd '[' (List.mem_of_head? brackets.1)
  split at h
  · cases h
    refine ⟨Codec.Percent.escapeAgain_ne_nil (by simpa using hne), ?_⟩
    exact Codec.Percent.safe_of_mem_escapeAgain rfl fun c => isHostSafe_of_isHex
  · split at h
    · rename_i name hn
      cases h
      obtain ⟨some, chars⟩ := Idna.mem_hostName hn
      refine ⟨some, fun c hc => ?_⟩
      rcases chars c hc with hl | rfl
      · exact isHostSafe_of_isLabelChar hl
      · rfl
    · cases h

/-- A written name is read as itself in lower case, unless it is an address of numbers by mistake. -/
theorem encodeHost_written {written : List Char} (hne : written ≠ [])
    (hs : ∀ c ∈ written, isHostSafe c = true)
    (hv : looksLikeIpv4 written = true → isIpv4 written = true) :
    encodeHost written = .ok (written.map Char.toLower) := by
  unfold encodeHost
  rw [if_neg (by simpa using hne)]
  split
  · rename_i digits
    have same : written.map Char.toLower = written := by
      refine (List.map_congr_left fun c hc => ?_).trans (List.map_id written)
      rcases mem_of_looksLikeIpv4 digits c hc with rfl | hn
      · rfl
      · exact toLower_of_isDigit hn
    rw [if_pos (hv digits), same]
  · have unbracketed : (written.head? == some '[' && written.getLast? == some ']') = false := by
      rw [Bool.and_eq_false_iff, beq_eq_false_iff_ne]
      exact .inl fun hb => absurd (hs '[' (List.mem_of_head? hb)) (by decide)
    have ascii : (written.all (·.toNat < 0x80)) = true :=
      List.all_eq_true.2 fun c hc => decide_eq_true (toNat_lt_of_isHostSafe (hs c hc))
    rw [unbracketed, if_neg Bool.false_ne_true, if_pos ascii, Codec.Percent.escapeAgain_of_safe]
    rw [List.forall_mem_map]
    exact fun c hc => (of_isHostSafe (hs c hc)).2.2

example : encodeHost "1234567".toList = .ok "1234567".toList := rfl

theorem encodeHost_literal (address : List Char) :
    encodeHost ('[' :: address ++ [']']) =
      if isIpv6 address then .ok address else .error .badIpv6 := by
  have unlike : looksLikeIpv4 ('[' :: address ++ [']']) = false := by
    rw [← Bool.not_eq_true]
    intro digits
    exact absurd (mem_of_looksLikeIpv4 digits '[' List.mem_cons_self) (by decide)
  have brackets : (('[' :: address ++ [']']).head? == some '[' &&
      ('[' :: address ++ [']']).getLast? == some ']') = true := by
    rw [List.getLast?_concat]
    rfl
  rw [encodeHost, unlike, brackets]
  simp

end PageScript.Url
