import PageScript.Text.Utf8

/-!
# Characters and their bytes

The bytes of a text are decoded to the text. A character takes one byte to four, and each of them is
within the range that the bytes in front of it leave (`decodeFrom_utf8EncodeChar`): a smaller number
would have been written in fewer bytes, and the numbers of surrogates are no characters.
-/

namespace PageScript.Text

theorem toNat_ofNat_byte {n : Nat} (h : n < 256) : (UInt8.ofNat n).toNat = n := by
  rw [UInt8.toNat_ofNat']
  exact Nat.mod_eq_of_lt h

/-! ## First bytes -/

/-- What a first byte says about a character of several bytes: how many follow, its own bits, and the
range of the second byte. -/
structure Leads (first : UInt8) (count bits : Nat) (range : UInt8 × UInt8) : Prop where
  large : ¬ first < 0x80
  followers : followers? first = some count
  bits : leadBits first = bits
  range : secondRange first = range

instance (first : UInt8) (count bits : Nat) (range : UInt8 × UInt8) :
    Decidable (Leads first count bits range) :=
  decidable_of_iff (¬ first < 0x80 ∧ followers? first = some count ∧ leadBits first = bits ∧
    secondRange first = range) ⟨fun ⟨a, b, c, d⟩ => ⟨a, b, c, d⟩, fun ⟨a, b, c, d⟩ => ⟨a, b, c, d⟩⟩

theorem Leads.decodeFrom_eq {first : UInt8} {count bits : Nat} {range : UInt8 × UInt8}
    (h : Leads first count bits range) (rest : List UInt8) :
    decodeFrom first rest = decodeMore first [] bits range count rest := by
  rw [decodeFrom, if_neg h.large, h.followers, h.bits, h.range]

theorem leads_two : ∀ n < 32, 2 ≤ n → Leads (.ofNat (n + 192)) 1 n (.ofNat 0x80, .ofNat 0xBF) := by
  decide +kernel

theorem leads_three : ∀ n < 16, Leads (.ofNat (n + 224)) 2 n
    (.ofNat (if n = 0 then 0xA0 else 0x80), .ofNat (if n = 13 then 0x9F else 0xBF)) := by
  decide +kernel

theorem leads_four : ∀ n < 5, Leads (.ofNat (n + 240)) 3 n
    (.ofNat (if n = 0 then 0x90 else 0x80), .ofNat (if n = 4 then 0x8F else 0xBF)) := by
  decide +kernel

/-! ## Bytes behind the first one -/

/-- A byte behind the first one adds six bits. -/
theorem decodeMore_continuation {n lower upper : Nat} (hn : n < 64) (hu : upper < 256)
    (hrange : lower ≤ n + 128 ∧ n + 128 ≤ upper) (first : UInt8) (taken : List UInt8)
    (bits count : Nat) (rest : List UInt8) :
    decodeMore first taken bits (.ofNat lower, .ofNat upper) (count + 1) (.ofNat (n + 128) :: rest) =
      decodeMore first (.ofNat (n + 128) :: taken) (bits * 64 + n) (.ofNat 0x80, .ofNat 0xBF) count
        rest := by
  have hb := toNat_ofNat_byte (show n + 128 < 256 by omega)
  have within : (UInt8.ofNat lower ≤ UInt8.ofNat (n + 128) &&
      UInt8.ofNat (n + 128) ≤ UInt8.ofNat upper) = true := by
    simp only [Bool.and_eq_true, decide_eq_true_eq, UInt8.le_iff_toNat_le, hb,
      toNat_ofNat_byte hu, toNat_ofNat_byte (show lower < 256 by omega)]
    exact hrange
  rw [decodeMore, if_pos within, hb, show (n + 128) % 0x40 = n by omega]
  rfl

/-! ## Whole characters and texts -/

theorem valid_toNat (c : Char) : c.toNat < 0xD800 ∨ 0xDFFF < c.toNat ∧ c.toNat < 0x110000 := c.valid

/-- The bytes of a character are decoded to it. -/
theorem decodeFrom_utf8EncodeChar (c : Char) (rest : List UInt8) :
    ∃ first more, String.utf8EncodeChar c = first :: more ∧
      decodeFrom first (more ++ rest) = .char c rest := by
  have valid := valid_toNat c
  have back : ∀ n, n = c.toNat → Utf8Step.char (Char.ofNat n) rest = .char c rest := by
    rintro n rfl
    rw [Char.ofNat_toNat]
  unfold String.utf8EncodeChar
  simp only [Char.toNat_val]
  generalize c.toNat = v at *
  split
  · refine ⟨_, _, rfl, ?_⟩
    have hv := toNat_ofNat_byte (show v < 256 by omega)
    rw [decodeFrom, if_pos (by rw [UInt8.lt_iff_toNat_lt, hv]; exact Nat.lt_succ_of_le ‹_›), hv]
    exact back v rfl
  split
  · refine ⟨_, _, rfl, ?_⟩
    rw [(leads_two _ (by omega) (by omega)).decodeFrom_eq, List.cons_append, List.nil_append,
      decodeMore_continuation (by omega) (by omega) (by omega), decodeMore]
    exact back _ (by omega)
  split
  · refine ⟨_, _, rfl, ?_⟩
    rw [(leads_three _ (by omega)).decodeFrom_eq, List.cons_append, List.cons_append, List.nil_append,
      decodeMore_continuation (by omega) (by split <;> omega)
        (by constructor <;> split <;> omega),
      decodeMore_continuation (by omega) (by omega) (by omega), decodeMore]
    exact back _ (by omega)
  · refine ⟨_, _, rfl, ?_⟩
    rw [(leads_four _ (by omega)).decodeFrom_eq, List.cons_append, List.cons_append,
      List.cons_append, List.nil_append,
      decodeMore_continuation (by omega) (by split <;> omega)
        (by constructor <;> split <;> omega),
      decodeMore_continuation (by omega) (by omega) (by omega),
      decodeMore_continuation (by omega) (by omega) (by omega), decodeMore]
    exact back _ (by omega)

theorem decodeStrict_utf8EncodeChar (c : Char) (rest : List UInt8) :
    decodeStrict (String.utf8EncodeChar c ++ rest) = (decodeStrict rest).map (c :: ·) := by
  obtain ⟨first, more, hb, hd⟩ := decodeFrom_utf8EncodeChar c rest
  rw [hb, List.cons_append, decodeStrict]
  split
  · rename_i found _ he
    cases he.symm.trans hd
    rfl
  · rename_i he
    cases he.symm.trans hd

/-- The bytes of a text are decoded to the text. -/
theorem decodeStrict_flatMap (text : List Char) :
    decodeStrict (text.flatMap String.utf8EncodeChar) = .ok text := by
  induction text with
  | nil => rw [List.flatMap_nil, decodeStrict]
  | cons c text ih => rw [List.flatMap_cons, decodeStrict_utf8EncodeChar, ih, Except.map]

end PageScript.Text
