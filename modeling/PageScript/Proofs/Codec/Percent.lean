import PageScript.Codec.Percent
import PageScript.Proofs.Text.Utf8

/-!
# Percent escapes are taken back

A text without percent signs of its own, or with all of them escaped, is what its escaped form stands
for. Escaping leaves only safe characters and escapes, so escaping a second time with escapes left
alone changes nothing.
-/

namespace PageScript.Codec.Percent

/-- The text that an escaped text stands for, if its bytes are those of a text. -/
def unescaped (text : List Char) : Except Text.Utf8Fault (List Char) :=
  Text.decodeStrict (bytesOf text)

/-- An upper-case hexadecimal digit. -/
def isUpperHex (c : Char) : Bool := c.isDigit || ('A' ≤ c && c ≤ 'F')

/-- Nothing but safe characters and escapes with upper-case digits. -/
inductive Escaped (safe : Char → Bool) : List Char → Prop where
  | nil : Escaped safe []
  | char {c : Char} {rest : List Char} (hc : safe c = true) (hr : Escaped safe rest) :
    Escaped safe (c :: rest)
  | escape {a b : Char} {rest : List Char} (ha : isUpperHex a = true) (hb : isUpperHex b = true)
    (hr : Escaped safe rest) : Escaped safe ('%' :: a :: b :: rest)

/-! ## One byte -/

theorem hexDigit_of_lt : ∀ n < 16, isHex (hexDigit n) = true ∧ isUpperHex (hexDigit n) = true ∧
    hexValue (hexDigit n) = n := by
  decide

theorem bytesOf_escapeByte (b : UInt8) (rest : List Char) :
    bytesOf (escapeByte b ++ rest) = b :: bytesOf rest := by
  have hb := b.toNat_lt
  obtain ⟨hh, -, hv⟩ := hexDigit_of_lt (b.toNat / 16) (by omega)
  obtain ⟨lh, -, lv⟩ := hexDigit_of_lt (b.toNat % 16) (by omega)
  rw [escapeByte, List.cons_append, List.cons_append, List.cons_append, List.nil_append, bytesOf,
    hh, lh, hv, lv, show b.toNat / 16 * 16 + b.toNat % 16 = b.toNat by omega]
  simp

theorem bytesOf_flatMap_escapeByte (bytes : List UInt8) (rest : List Char) :
    bytesOf (bytes.flatMap escapeByte ++ rest) = bytes ++ bytesOf rest := by
  induction bytes with
  | nil => rfl
  | cons b bytes ih =>
    rw [List.flatMap_cons, List.append_assoc, bytesOf_escapeByte, ih, List.cons_append]

theorem bytesOf_char {c : Char} (h : c ≠ '%') (rest : List Char) :
    bytesOf (c :: rest) = String.utf8EncodeChar c ++ bytesOf rest := by
  rw [bytesOf]
  intro a b tail hc _
  exact h hc

/-! ## Texts -/

section

variable {safe : Char → Bool} {text : List Char}

theorem escape_cons (safe : Char → Bool) (c : Char) (text : List Char) :
    escape safe (c :: text) = (if safe c then [c] else escapeChar c) ++ escape safe text :=
  List.flatMap_cons

theorem bytesOf_escape (h : ∀ c ∈ text, safe c = true → c ≠ '%') :
    bytesOf (escape safe text) = text.flatMap String.utf8EncodeChar := by
  induction text with
  | nil => rfl
  | cons c text ih =>
    rw [List.forall_mem_cons] at h
    rw [escape_cons, List.flatMap_cons, ← ih h.2]
    split
    · rename_i hc
      rw [List.singleton_append, bytesOf_char (h.1 hc)]
    · rw [escapeChar, bytesOf_flatMap_escapeByte]

/-- A text is what its escaped form stands for, if no percent sign is taken to be safe. -/
theorem unescaped_escape (h : ∀ c ∈ text, safe c = true → c ≠ '%') :
    unescaped (escape safe text) = .ok text := by
  rw [unescaped, bytesOf_escape h, Text.decodeStrict_flatMap]

/-- A text without percent signs stands for itself. -/
theorem unescaped_of_not_mem (h : '%' ∉ text) : unescaped text = .ok text := by
  have all : escape (fun _ => true) text = text := by simp [escape]
  have read := @unescaped_escape (fun _ => true) text fun c hc _ hx => h (hx ▸ hc)
  rwa [all] at read

theorem Escaped.append {text more : List Char} (h : Escaped safe text) (hm : Escaped safe more) :
    Escaped safe (text ++ more) := by
  induction h with
  | nil => exact hm
  | char hc _ ih => exact ih.char hc
  | escape ha hb _ ih => exact ih.escape ha hb

theorem escaped_escapeByte (b : UInt8) : Escaped safe (escapeByte b) := by
  have hb := b.toNat_lt
  exact Escaped.nil.escape (hexDigit_of_lt _ (by omega)).2.1 (hexDigit_of_lt _ (by omega)).2.1

theorem escaped_escape (text : List Char) : Escaped safe (escape safe text) := by
  have bytes (bytes : List UInt8) : Escaped safe (bytes.flatMap escapeByte) := by
    induction bytes with
    | nil => exact .nil
    | cons b bytes ih => exact (escaped_escapeByte b).append ih
  induction text with
  | nil => exact .nil
  | cons c text ih =>
    rw [escape_cons]
    refine Escaped.append ?_ ih
    split
    · rename_i hc
      exact Escaped.nil.char hc
    · exact bytes _

theorem Escaped.mem (h : Escaped safe text) {c : Char} (hc : c ∈ text) :
    safe c = true ∨ c = '%' ∨ isUpperHex c = true := by
  induction h with
  | nil => cases hc
  | char hs _ ih =>
    rcases List.mem_cons.1 hc with rfl | hc
    · exact .inl hs
    · exact ih hc
  | escape ha hb _ ih =>
    simp only [List.mem_cons] at hc
    rcases hc with rfl | rfl | rfl | hc
    · exact .inr (.inl rfl)
    · exact .inr (.inr ha)
    · exact .inr (.inr hb)
    · exact ih hc

end

/-! ## Escapes that are left alone -/

section

variable {safe : Char → Bool} {text : List Char}

theorem escapeAgain_char {c : Char} (h : c ≠ '%') (rest : List Char) :
    escapeAgain safe (c :: rest) =
      (if safe c then [c] else escapeChar c) ++ escapeAgain safe rest := by
  rw [escapeAgain]
  intro a b tail hc _
  exact h hc

theorem escapeAgain_of_not_mem (h : '%' ∉ text) : escapeAgain safe text = escape safe text := by
  induction text with
  | nil => rfl
  | cons c text ih =>
    rw [List.mem_cons, not_or] at h
    rw [escapeAgain_char (Ne.symm h.1), escape_cons, ih h.2]

theorem escapeAgain_of_safe (h : ∀ c ∈ text, safe c = true) : escapeAgain safe text = text := by
  fun_induction escapeAgain safe text with
  | case1 => rfl
  | case2 a b rest _ ih =>
    simp only [List.forall_mem_cons] at h
    rw [ih h.2.2.2]
  | case3 a b rest _ ih =>
    rw [List.forall_mem_cons] at h
    rw [if_pos h.1, ih h.2, List.singleton_append]
  | case4 c rest _ ih =>
    rw [List.forall_mem_cons] at h
    rw [if_pos h.1, ih h.2, List.singleton_append]

theorem isHex_of_isUpperHex {c : Char} (h : isUpperHex c = true) : isHex c = true := by
  rw [isHex, Bool.or_right_comm]
  exact Bool.or_eq_true_iff.2 (.inl h)

theorem isHex_of_isDigit {c : Char} (h : c.isDigit = true) : isHex c = true := by
  rw [isHex, h, Bool.true_or, Bool.true_or]

theorem toNat_lt_of_isHex {c : Char} (h : isHex c = true) : c.toNat < 0x80 := by
  have below {high : Char} (hc : c ≤ high) (hh : high.toNat < 0x80) : c.toNat < 0x80 :=
    Nat.lt_of_le_of_lt (UInt32.le_iff_toNat_le.1 hc) hh
  rcases Bool.or_eq_true_iff.1 h with h | upper
  · rcases Bool.or_eq_true_iff.1 h with number | lower
    · exact below (show c ≤ '9' from of_decide_eq_true (Bool.and_eq_true_iff.1 number).2) (by decide)
    · exact below (of_decide_eq_true (Bool.and_eq_true_iff.1 lower).2) (by decide)
  · exact below (of_decide_eq_true (Bool.and_eq_true_iff.1 upper).2) (by decide)

theorem mem_escapeChar {c x : Char} (h : x ∈ escapeChar c) : x = '%' ∨ isHex x = true := by
  have escaped := @escaped_escape (fun _ => false) [c]
  rw [escape_cons, if_neg Bool.false_ne_true] at escaped
  rcases escaped.mem (List.mem_append_left _ h) with hs | hp | hx
  · cases hs
  · exact .inl hp
  · exact .inr (isHex_of_isUpperHex hx)

theorem mem_escape {x : Char} (h : x ∈ escape safe text) :
    (x ∈ text ∧ safe x = true) ∨ x = '%' ∨ isHex x = true := by
  obtain ⟨c, hc, hx⟩ := List.mem_flatMap.1 h
  split at hx
  · rename_i hs
    rw [List.mem_singleton.1 hx]
    exact .inl ⟨hc, hs⟩
  · exact .inr (mem_escapeChar hx)

/-- Where escapes may stand, escaping leaves nothing that may not. -/
theorem safe_of_mem_escapeAgain (hp : safe '%' = true) (hx : ∀ c, isHex c = true → safe c = true) :
    ∀ c ∈ escapeAgain safe text, safe c = true := by
  have one (c : Char) : ∀ x ∈ (if safe c then [c] else escapeChar c), safe x = true := by
    split
    · rename_i hc
      exact List.forall_mem_singleton.2 hc
    · intro x hm
      rcases mem_escapeChar hm with rfl | hh
      · exact hp
      · exact hx x hh
  fun_induction escapeAgain safe text with
  | case1 => exact List.forall_mem_nil _
  | case2 a b rest hab ih =>
    rw [Bool.and_eq_true] at hab
    simp only [List.forall_mem_cons]
    exact ⟨hp, hx a hab.1, hx b hab.2, ih⟩
  | case3 a b rest _ ih => exact List.forall_mem_append.2 ⟨one '%', ih⟩
  | case4 c rest _ ih => exact List.forall_mem_append.2 ⟨one c, ih⟩

theorem escape_append (more : List Char) :
    escape safe (text ++ more) = escape safe text ++ escape safe more :=
  List.flatMap_append

/-- A mark that needs no escape divides a text in the same places once it is escaped. -/
theorem escape_intercalate {mark : Char} (h : safe mark = true) (pieces : List (List Char)) :
    escape safe ([mark].intercalate pieces) = [mark].intercalate (pieces.map (escape safe)) := by
  have single : escape safe [mark] = [mark] := by
    rw [escape_cons, if_pos h]
    rfl
  induction pieces with
  | nil => rfl
  | cons piece pieces ih =>
    cases pieces with
    | nil => rw [List.map_singleton, List.intercalate_singleton, List.intercalate_singleton]
    | cons next pieces =>
      rw [List.map_cons, List.map_cons, List.intercalate_cons_cons, List.intercalate_cons_cons,
        escape_append, escape_append, single, ih, List.map_cons]

theorem escaped_char_ne_nil (safe : Char → Bool) (c : Char) :
    (if safe c then [c] else escapeChar c) ≠ [] := by
  split
  · exact List.cons_ne_nil _ _
  · obtain ⟨b, bytes, hb⟩ := List.exists_cons_of_ne_nil (String.utf8EncodeChar_ne_nil (c := c))
    rw [escapeChar, hb]
    exact List.cons_ne_nil _ _

theorem escapeAgain_ne_nil (h : text ≠ []) : escapeAgain safe text ≠ [] := by
  fun_cases escapeAgain safe text with
  | case1 => exact absurd rfl h
  | case2 => exact List.cons_ne_nil _ _
  | case3 => exact fun hn => escaped_char_ne_nil safe '%' (List.append_eq_nil_iff.1 hn).1
  | case4 c => exact fun hn => escaped_char_ne_nil safe c (List.append_eq_nil_iff.1 hn).1

theorem length_le_escape (safe : Char → Bool) (text : List Char) :
    text.length ≤ (escape safe text).length := by
  induction text with
  | nil => exact Nat.le_refl _
  | cons c text ih =>
    have one := List.length_pos_iff.2 (escaped_char_ne_nil safe c)
    rw [escape_cons, List.length_append, List.length_cons]
    omega

end

end PageScript.Codec.Percent
