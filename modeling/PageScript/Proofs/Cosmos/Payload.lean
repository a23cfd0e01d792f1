import PageScript.Cosmos.Request
import PageScript.Proofs.CSharp.LiteralReading
import PageScript.Proofs.Json.Writing

/-!
# Texts inside a request

The query and the partition key are put between the quotes of JSON strings. What stands there for one
code point reads back as the UTF-16 code units of that code point (`stringBody_escapedPoint`), and the
code units of a text join to its characters again. Everything that is written is printable ASCII and
none of it is a quote, so a text can neither end its string early nor leave the line of a header.
-/

namespace PageScript.Json

open Text (CodePoint)

/-! ## One code point -/

/-- A printable ASCII character that is no quote. -/
def isSafe (c : Char) : Bool := 0x20 ≤ c.toNat && c.toNat ≤ 0x7E && c != '"'

theorem hexValue?_upper : ∀ d < 16, Numeral.hexValue? (Nat.digitChar d).toUpper = some d := by
  decide

theorem stringBody_unitEscape {n : Nat} (h : n < 0x10000) {text : List Char} (hne : text ≠ [])
    (opened : List Char) :
    stringBody opened (unitEscape n ++ text) =
      (stringBody opened text).map fun (units, after) => (.ofNat n :: units, after) := by
  have hv : Numeral.ofDigits 16 [n / 16 / 16 / 16, n / 16 / 16 % 16, n / 16 % 16, n % 16] = n := by
    simp only [Numeral.ofDigits, List.foldl]
    omega
  have hu : codeUnit? (Nat.digitChar (n / 16 / 16 / 16)).toUpper
      (Nat.digitChar (n / 16 / 16 % 16)).toUpper (Nat.digitChar (n / 16 % 16)).toUpper
      (Nat.digitChar (n % 16)).toUpper = some n := by
    rw [codeUnit?, hexValue?_upper _ (by omega), hexValue?_upper _ (by omega),
      hexValue?_upper _ (by omega), hexValue?_upper _ (by omega)]
    exact congrArg some hv
  rw [unitEscape, CSharp.hexDigits_four h]
  exact stringBody_unit hu hne opened

theorem stringBody_unitEscapes {units : List CodePoint} (h : ∀ unit ∈ units, unit.val < 0x10000)
    {text : List Char} (hne : text ≠ []) (opened : List Char) :
    stringBody opened (units.flatMap (fun unit => unitEscape unit.val) ++ text) =
      (stringBody opened text).map fun (more, after) => (units ++ more, after) := by
  induction units with
  | nil =>
    rw [List.flatMap_nil, List.nil_append]
    cases stringBody opened text <;> rfl
  | cons unit units ih =>
    rw [List.forall_mem_cons] at h
    have more : units.flatMap (fun unit => unitEscape unit.val) ++ text ≠ [] :=
      List.append_ne_nil_of_right_ne_nil _ hne
    have whole : CodePoint.ofNat unit.val = unit := Fin.ofNat_val_eq_self unit
    rw [List.flatMap_cons, List.append_assoc, stringBody_unitEscape h.1 more, ih h.2, whole]
    cases stringBody opened text <;> rfl

theorem val_ofNat {n : Nat} (h : n < 0x110000) : (CodePoint.ofNat n).val = n :=
  Nat.mod_eq_of_lt h

theorem units_lt (point : CodePoint) : ∀ unit ∈ point.units, unit.val < 0x10000 := by
  have hmax := point.isLt
  rw [CodePoint.units]
  split
  · rwa [List.forall_mem_singleton]
  · rw [List.forall_mem_cons, List.forall_mem_singleton, val_ofNat (by omega), val_ofNat (by omega)]
    omega

theorem shortEscape?_of_shortLetter? {n : Nat} {letter : Char} (h : shortLetter? n = some letter) :
    shortEscape? letter = some n ∧ n < 0x10000 ∧ isSafe letter = true := by
  unfold shortLetter? at h
  iterate 6
    split at h
    · rename_i hn
      subst hn
      cases h
      exact ⟨rfl, by decide, rfl⟩
  cases h

/-- The character with the code point of a plain one. -/
theorem ofNat_of_isPlain {n : Nat} (hp : isPlain n = true) (hs : shortLetter? n = none) :
    (Char.ofNat n).toNat = n ∧ isSafe (Char.ofNat n) = true ∧ Char.ofNat n ≠ '\\' := by
  simp only [isPlain, Bool.and_eq_true, decide_eq_true_eq, Bool.not_eq_true', Bool.or_eq_false_iff,
    beq_eq_false_iff_ne] at hp
  obtain ⟨⟨hl, hu⟩, ⟨⟨⟨⟨⟨hq, -⟩, -⟩, -⟩, -⟩, -⟩, -⟩ := hp
  have hc : (Char.ofNat n).toNat = n := by
    rw [Char.ofNat, dif_pos (.inl (by omega))]
    rfl
  refine ⟨hc, ?_, ?_⟩
  · simp only [isSafe, hc, Bool.and_eq_true, decide_eq_true_eq, bne_iff_ne]
    refine ⟨⟨hl, by omega⟩, fun he => hq ?_⟩
    rw [← hc, he]
    rfl
  · intro he
    rw [he] at hc
    subst hc
    cases hs

/-- What a code point is written as reads back as its code units, in front of any text that goes on. -/
theorem stringBody_escapedPoint (point : CodePoint) {text : List Char} (hne : text ≠ [])
    (opened : List Char) :
    stringBody opened (escapedPoint point ++ text) =
      (stringBody opened text).map fun (units, after) => (point.units ++ units, after) := by
  have single (h : point.val < 0x10000) : point.units = [point] := if_pos h
  unfold escapedPoint
  split
  · rename_i letter hl
    obtain ⟨hs, hn, -⟩ := shortEscape?_of_shortLetter? hl
    have whole : CodePoint.ofNat point.val = point := Fin.ofNat_val_eq_self point
    rw [single hn, List.cons_append, List.cons_append, List.nil_append, stringBody_short hs, whole]
    rfl
  · rename_i hl
    split
    · rename_i hp
      obtain ⟨hc, hsafe, hb⟩ := ofNat_of_isPlain hp hl
      simp only [isSafe, hc, Bool.and_eq_true, decide_eq_true_eq, bne_iff_ne] at hsafe
      have hpoint : CodePoint.ofChar (Char.ofNat point.val) = point := Fin.ext hc
      rw [single (by omega), List.singleton_append, stringBody_plain hsafe.2 hb (by omega), hpoint]
      rfl
    · exact stringBody_unitEscapes (units_lt point) hne opened

/-! ## Texts -/

/-- The two code units of a code point that does not fit into one are a surrogate pair for it. -/
theorem ofPair_units {point : CodePoint} (h : ¬point.val < 0x10000) :
    CodePoint.isHigh (.ofNat (0xD800 + (point.val - 0x10000) / 0x400)) = true ∧
      CodePoint.isLow (.ofNat (0xDC00 + (point.val - 0x10000) % 0x400)) = true ∧
      CodePoint.ofPair (.ofNat (0xD800 + (point.val - 0x10000) / 0x400))
        (.ofNat (0xDC00 + (point.val - 0x10000) % 0x400)) = point := by
  have hmax := point.isLt
  have hhigh := val_ofNat (n := 0xD800 + (point.val - 0x10000) / 0x400) (by omega)
  have hlow := val_ofNat (n := 0xDC00 + (point.val - 0x10000) % 0x400) (by omega)
  refine ⟨?_, ?_, Fin.ext ?_⟩
  · rw [CodePoint.isHigh, hhigh, Bool.and_eq_true, decide_eq_true_eq, decide_eq_true_eq]
    omega
  · rw [CodePoint.isLow, hlow, Bool.and_eq_true, decide_eq_true_eq, decide_eq_true_eq]
    omega
  · rw [CodePoint.ofPair]
    simp only [hhigh, hlow]
    omega

/-- The code units of a character join to the character again. -/
theorem joinPairs_units (c : Char) (points : List CodePoint) :
    Text.joinPairs ((CodePoint.ofChar c).units ++ points) = .ofChar c :: Text.joinPairs points := by
  rw [CodePoint.units]
  split
  · cases points with
    | nil => rfl
    | cons point points =>
      rw [List.singleton_append, Text.joinPairs, CSharp.isHigh_ofChar, Bool.false_and,
        if_neg Bool.false_ne_true]
  · rename_i hlarge
    obtain ⟨hhigh, hlow, hpair⟩ := ofPair_units hlarge
    rw [List.cons_append, List.singleton_append, Text.joinPairs, hhigh, hlow, Bool.and_true,
      if_pos rfl, hpair]

/-- The string that an escaped text stands in reads back as the text, whatever follows it. -/
theorem stringBody_escaped (text : List Char) (opened rest : List Char) :
    stringBody opened ((text.map CodePoint.ofChar).flatMap escapedPoint ++ '"' :: rest) =
      .ok ((text.map CodePoint.ofChar).flatMap CodePoint.units, rest) := by
  induction text with
  | nil => rw [List.map_nil, List.flatMap_nil, List.nil_append, stringBody, List.flatMap_nil]
  | cons c text ih =>
    rw [List.map_cons, List.flatMap_cons, List.append_assoc, stringBody_escapedPoint _ (by simp), ih]
    rfl

theorem joinPairs_flatMap_units (text : List Char) :
    Text.joinPairs ((text.map CodePoint.ofChar).flatMap CodePoint.units) =
      text.map CodePoint.ofChar := by
  induction text with
  | nil => rfl
  | cons c text ih => rw [List.map_cons, List.flatMap_cons, joinPairs_units, ih]

/-- `text` as a JSON string. -/
def inQuotes (text : String) : List Char := '"' :: ((escaped (Text.codePoints text)).toList ++ ['"'])

theorem writes_inQuotes (text : String) :
    Writes readValue (inQuotes text) (.string (Text.codePoints text)) := by
  refine ⟨ends_cons.2 rfl, fun rest _ => ?_⟩
  rw [inQuotes, escaped, String.toList_ofList, List.cons_append, List.append_assoc]
  refine finds_string.2 ⟨_, stringBody_escaped text.toList _ rest, ?_⟩
  rw [joinPairs_flatMap_units]
  rfl

theorem writes_emptyArray : Writes readValue ['[', ']'] (.array []) :=
  ⟨ends_cons.2 rfl, fun _ _ => finds_array.2 ⟨[], .empty (skipSpace_ends (ends_cons.2 rfl)), rfl⟩⟩

/-! ## What is written -/

theorem isSafe_unitEscape {n : Nat} (h : n < 0x10000) : ∀ c ∈ unitEscape n, isSafe c = true := by
  have digit : ∀ d < 16, isSafe (Nat.digitChar d).toUpper = true := by decide
  rw [unitEscape, CSharp.hexDigits_four h]
  intro c hc
  simp only [List.map_cons, List.map_nil, List.mem_cons, List.not_mem_nil, or_false] at hc
  rcases hc with rfl | rfl | rfl | rfl | rfl | rfl
  · rfl
  · rfl
  all_goals exact digit _ (by omega)

theorem isSafe_escapedPoint (point : CodePoint) : ∀ c ∈ escapedPoint point, isSafe c = true := by
  unfold escapedPoint
  split
  · rename_i letter hl
    have hs := (shortEscape?_of_shortLetter? hl).2.2
    exact List.forall_mem_cons.2 ⟨rfl, List.forall_mem_singleton.2 hs⟩
  · rename_i hl
    split
    · rename_i hp
      exact List.forall_mem_singleton.2 (ofNat_of_isPlain hp hl).2.1
    · intro c hc
      obtain ⟨unit, hu, hc⟩ := List.mem_flatMap.1 hc
      exact isSafe_unitEscape (units_lt point unit hu) c hc

theorem isSafe_escaped (points : List CodePoint) : ∀ c ∈ (escaped points).toList, isSafe c = true := by
  rw [escaped, String.toList_ofList]
  intro c hc
  obtain ⟨point, -, hp⟩ := List.mem_flatMap.1 hc
  exact isSafe_escapedPoint point c hp

theorem escaped_injective {text other : String}
    (h : escaped (Text.codePoints text) = escaped (Text.codePoints other)) : text = other := by
  -- Between quotes both are read from the same text.
  have hq : inQuotes text = inQuotes other := by rw [inQuotes, h, inQuotes]
  have hr := (writes_inQuotes text).read
  rw [hq, (writes_inQuotes other).read] at hr
  have hp := Json.string.inj (Except.ok.inj hr)
  have ht := CSharp.ofCodePoints?_codePoints text
  rw [← hp, CSharp.ofCodePoints?_codePoints] at ht
  exact (Option.some.inj ht).symm

/-- A part of a list without blanks around it. -/
def Piece.bare {α : Type} {reader : Reader α} {w : List Char} {value : α}
    (h : Writes reader w value) : Piece reader :=
  ⟨[], w, [], value, blanks_nil, blanks_nil, h⟩

theorem Piece.padded_bare {α : Type} {reader : Reader α} {w : List Char} {value : α}
    (h : Writes reader w value) : (Piece.bare h).padded = w := by
  simp [Piece.padded, Piece.bare]

end PageScript.Json

namespace PageScript.Cosmos

open Json (inQuotes readValue readMember Writes Piece listed)

/-- A member of an object as it is written. -/
def field (name : String) (value : List Char) : List Char := inQuotes name ++ ':' :: value

theorem writes_field (name : String) {w : List Char} {value : Json} (h : Writes readValue w value) :
    Writes (readMember readValue) (field name w) (Text.codePoints name, value) :=
  Json.writes_member Json.blanks_nil Json.blanks_nil (Json.writes_inQuotes name) h

theorem toList_queryPayload (text : String) :
    (queryPayload (Text.codePoints text)).toList =
      '\x7b' :: (field "query" (inQuotes text) ++ ',' :: field "parameters" ['[', ']'] ++
        ['\x7d']) := by
  have hquery : inQuotes "query" = "\"query\"".toList := by decide +kernel
  have hparameters : inQuotes "parameters" = "\"parameters\"".toList := by decide +kernel
  rw [queryPayload, String.toList_append, String.toList_append, field, field, hquery, hparameters,
    inQuotes]
  simp

theorem toList_partitionKeyHeader (text : String) :
    (partitionKeyHeader (Text.codePoints text)).toList = '[' :: (inQuotes text ++ [']']) := by
  rw [partitionKeyHeader, String.toList_append, String.toList_append, inQuotes]
  simp

theorem read_queryPayload (text : String) :
    Json.read (queryPayload (Text.codePoints text)).toList =
      .ok (.object [(Text.codePoints "query", .string (Text.codePoints text)),
        (Text.codePoints "parameters", .array [])]) := by
  have h := Json.writes_list Json.finds_object rfl rfl
    (.bare (writes_field "query" (Json.writes_inQuotes text)))
    [.bare (writes_field "parameters" Json.writes_emptyArray)] (Json.ends_cons.2 rfl)
    (Json.ends_cons.2 rfl)
  simp only [listed, Piece.padded_bare] at h
  rw [toList_queryPayload]
  exact h.read

theorem read_partitionKeyHeader (text : String) :
    Json.read (partitionKeyHeader (Text.codePoints text)).toList =
      .ok (.array [.string (Text.codePoints text)]) := by
  have h := Json.writes_list Json.finds_array rfl rfl (.bare (Json.writes_inQuotes text)) []
    (Json.ends_cons.2 rfl) (Json.ends_cons.2 rfl)
  simp only [listed, Piece.padded_bare] at h
  rw [toList_partitionKeyHeader]
  exact h.read

/-- The text is printable ASCII. -/
def Printable (text : String) : Prop := ∀ c ∈ text.toList, 0x20 ≤ c.toNat ∧ c.toNat ≤ 0x7E

instance (text : String) : Decidable (Printable text) :=
  decidable_of_iff (text.toList.all fun c => decide (0x20 ≤ c.toNat ∧ c.toNat ≤ 0x7E))
    (by simp [Printable])

theorem Printable.append {first second : String} (hf : Printable first) (hs : Printable second) :
    Printable (first ++ second) := by
  intro c hc
  rw [String.toList_append, List.mem_append] at hc
  exact hc.elim (hf c) (hs c)

theorem printable_escaped (points : List Text.CodePoint) : Printable (Json.escaped points) := by
  intro c hc
  have h := Json.isSafe_escaped points c hc
  simp only [Json.isSafe, Bool.and_eq_true, decide_eq_true_eq] at h
  exact h.1

/-- A query and a partition key arrive as they are, whatever characters they have, and what is sent for
them is printable ASCII without a quote of its own. Two texts are never sent as the same. -/
theorem request_texts_read_back (text : String) :
    Json.read (queryPayload (Text.codePoints text)).toList =
        .ok (.object [(Text.codePoints "query", .string (Text.codePoints text)),
          (Text.codePoints "parameters", .array [])]) ∧
      Json.read (partitionKeyHeader (Text.codePoints text)).toList =
        .ok (.array [.string (Text.codePoints text)]) ∧
      Printable (queryPayload (Text.codePoints text)) ∧
      Printable (partitionKeyHeader (Text.codePoints text)) ∧
      Printable (Json.escaped (Text.codePoints text)) ∧
      '"' ∉ (Json.escaped (Text.codePoints text)).toList ∧
      ∀ other, Json.escaped (Text.codePoints other) = Json.escaped (Text.codePoints text) →
        other = text := by
  have hsent := printable_escaped (Text.codePoints text)
  refine ⟨read_queryPayload text, read_partitionKeyHeader text, ?_, ?_, hsent, ?_,
    fun other => Json.escaped_injective⟩
  · exact .append (.append (by decide +kernel) hsent) (by decide +kernel)
  · exact .append (.append (by decide +kernel) hsent) (by decide +kernel)
  · intro hq
    cases Json.isSafe_escaped _ _ hq

end PageScript.Cosmos
