import PageScript.Codec.Base64

/-!
# Base64 is decoded to what was encoded

Strict decoding accepts everything that encoding writes and gives the bytes back, in each of the three
cases of padding. Between the two stand the values of the digits (`sextets`): reading the digits gives
the values, and the values give the bytes.
-/

namespace PageScript.Codec.Base64

/-! ## Digits -/

theorem value?_digit : ∀ n < 64, value? (digit n) = some n ∧ digit n ≠ '=' ∧ (digit n).toNat < 0x80 := by
  decide

theorem digitsFrom_digit {n : Nat} (h : n < 64) (count : Nat) (rest : List Char) :
    digitsFrom count 0 false (digit n :: rest) =
      (digitsFrom (count + 1) 0 false rest).map (n :: ·) := by
  obtain ⟨hv, hne, -⟩ := value?_digit n h
  rw [digitsFrom, if_neg hne, hv]
  rfl

/-! ## Bytes in groups of three -/

/-- The values of the digits that some bytes are written with. -/
def sextets : List UInt8 → List Nat
  | a :: b :: c :: rest =>
    let n := a.toNat * 0x10000 + b.toNat * 0x100 + c.toNat
    n / 0x40000 :: n / 0x1000 % 0x40 :: n / 0x40 % 0x40 :: n % 0x40 :: sextets rest
  | [a, b] =>
    let n := a.toNat * 0x100 + b.toNat
    [n / 0x400, n / 0x10 % 0x40, n % 0x10 * 4]
  | [a] => [a.toNat / 4, a.toNat % 4 * 0x10]
  | [] => []

theorem bytesOf_sextets (bytes : List UInt8) : bytesOf (sextets bytes) = bytes := by
  have byte (a : UInt8) {n : Nat} (h : n = a.toNat) : UInt8.ofNat n = a := by
    rw [h, UInt8.ofNat_toNat]
  fun_induction sextets bytes with
  | case1 a b c rest n ih =>
    have := a.toNat_lt
    have := b.toNat_lt
    have := c.toNat_lt
    rw [bytesOf, ih, byte a (by omega), byte b (by omega), byte c (by omega)]
  | case2 a b n =>
    have := a.toNat_lt
    have := b.toNat_lt
    rw [bytesOf, byte a (by omega), byte b (by omega)]
  | case3 a =>
    have := a.toNat_lt
    rw [bytesOf, byte a (by omega)]
  | case4 => rfl

/-- Behind whole groups the digits of some bytes are read as their values. -/
theorem digitsFrom_encodeChars {count : Nat} (h : count % 4 = 0) (bytes : List UInt8) :
    digitsFrom count 0 false (encodeChars bytes) = .ok (sextets bytes) := by
  induction bytes using encodeChars.induct generalizing count with
  | case1 a b c rest ih =>
    have := a.toNat_lt
    have := b.toNat_lt
    have := c.toNat_lt
    rw [encodeChars, digitsFrom_digit (by omega), digitsFrom_digit (by omega),
      digitsFrom_digit (by omega), digitsFrom_digit (by omega), ih (by omega)]
    rfl
  | case2 a b =>
    have := a.toNat_lt
    have := b.toNat_lt
    rw [encodeChars, digitsFrom_digit (by omega), digitsFrom_digit (by omega),
      digitsFrom_digit (by omega), digitsFrom, if_pos rfl, if_pos (by omega), if_pos (by omega)]
    rfl
  | case3 a =>
    have := a.toNat_lt
    rw [encodeChars, digitsFrom_digit (by omega), digitsFrom_digit (by omega), digitsFrom,
      if_pos rfl, if_pos (by omega), if_neg (by omega), digitsFrom, if_pos rfl, if_pos (by omega),
      if_pos (by omega)]
    rfl
  | case4 => rw [encodeChars, digitsFrom, finish, if_pos h, sextets]

theorem length_encodeChars (bytes : List UInt8) :
    (encodeChars bytes).length = (bytes.length + 2) / 3 * 4 := by
  fun_induction encodeChars bytes with
  | case1 a b c rest n ih =>
    simp only [List.length_cons, ih]
    omega
  | case2 => simp only [List.length_cons, List.length_nil]
  | case3 => simp only [List.length_cons, List.length_nil]
  | case4 => rfl

/-- Nothing but digits and equals signs is written, and no equals sign in front. -/
theorem encodeChars_ascii (bytes : List UInt8) :
    (∀ c ∈ encodeChars bytes, c.toNat < 0x80) ∧ (encodeChars bytes).head? ≠ some '=' := by
  have ascii {n : Nat} (h : n < 64) : (digit n).toNat < 0x80 := (value?_digit n h).2.2
  have first {n : Nat} (h : n < 64) (rest : List Char) : (digit n :: rest).head? ≠ some '=' :=
    fun he => (value?_digit n h).2.1 (Option.some.inj he)
  fun_induction encodeChars bytes with
  | case1 a b c rest n ih =>
    have := a.toNat_lt
    have := b.toNat_lt
    have := c.toNat_lt
    refine ⟨?_, first (by omega) _⟩
    simp only [List.forall_mem_cons]
    exact ⟨ascii (by omega), ascii (by omega), ascii (by omega), ascii (by omega), ih.1⟩
  | case2 a b n =>
    have := a.toNat_lt
    have := b.toNat_lt
    refine ⟨?_, first (by omega) _⟩
    simp only [List.forall_mem_cons]
    exact ⟨ascii (by omega), ascii (by omega), ascii (by omega), by decide, List.forall_mem_nil _⟩
  | case3 a =>
    have := a.toNat_lt
    refine ⟨?_, first (by omega) _⟩
    simp only [List.forall_mem_cons]
    exact ⟨ascii (by omega), ascii (by omega), by decide, by decide, List.forall_mem_nil _⟩
  | case4 => exact ⟨List.forall_mem_nil _, nofun⟩

/-- Encoded bytes are decoded to the bytes. -/
theorem decode_encode (bytes : List UInt8) : decode (encode bytes) = .ok bytes := by
  obtain ⟨ascii, first⟩ := encodeChars_ascii bytes
  have plain : ¬ (encodeChars bytes).any (0x80 ≤ ·.toNat) = true := by
    rw [List.any_eq_true]
    rintro ⟨c, hc, hl⟩
    exact absurd (ascii c hc) (Nat.not_lt.2 (of_decide_eq_true hl))
  rw [decode, encode, String.toList_ofList, if_neg plain, if_neg first,
    digitsFrom_encodeChars rfl, Except.map, bytesOf_sextets]

end PageScript.Codec.Base64
