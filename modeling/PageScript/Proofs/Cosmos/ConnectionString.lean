import PageScript.Cosmos.ConnectionString
import PageScript.Proofs.Text.Blank
import PageScript.Proofs.Text.Cut

/-!
# Connection strings that are read back

The address and the key that a connection string was made from come back when it is read, unless it
cannot carry them: a value that is read is never empty, has no blanks around it and holds no
semicolon (`Connection.carried`). Equals signs do no harm, since a pair is divided at its first one
only. A semicolon does: what follows it is a pair of its own, which may even be taken for the other
value.
-/

namespace PageScript.Cosmos

/-! ## What can be read -/

/-- A value that a connection string can carry. -/
structure Carried (value : String) : Prop where
  nonempty : value ≠ ""
  trimmed : Text.trim value = value
  undivided : ';' ∉ value.toList

/-- The value of a pair is trimmed and lies between two semicolons. -/
theorem carried_of_mem_pairsOf {text name value : String} (h : (name, value) ∈ pairsOf text)
    (hne : value ≠ "") : Carried value := by
  obtain ⟨part, hp, hv⟩ := List.mem_filterMap.1 h
  have undivided := Text.mark_not_mem_piece hp
  split at hv
  · rename_i before after hc
    obtain ⟨-, rfl⟩ := Prod.mk.inj (Option.some.inj hv)
    have inside : after ⊆ part := by
      unfold Text.cutFirst at hc
      split at hc
      · cases hc
      · rename_i d rest hd
        cases hc
        have hs : d :: after <:+ part := hd ▸ List.dropWhile_suffix _
        exact ((List.suffix_cons d after).trans hs).subset
    refine ⟨hne, Text.trim_trim _, fun hm => undivided (inside ?_)⟩
    rw [Text.trim, String.toList_ofList, String.toList_ofList] at hm
    exact (Text.sublist_trimOf _ _).subset hm
  · cases hv

theorem mem_of_lastValue? {name value : String} {pairs : List (String × String)}
    (h : lastValue? name pairs = some value) : ∃ folded, (folded, value) ∈ pairs := by
  obtain ⟨pair, hf, rfl⟩ := Option.map_eq_some_iff.1 h
  exact ⟨pair.1, List.mem_reverse.1 (List.mem_of_find?_eq_some hf)⟩

/-- Whatever the text is: an address and a key that are read from it could have been written. -/
theorem Connection.carried {text : String} {connection : Connection}
    (h : Connection.ofText? text = some connection) :
    Carried connection.endpoint ∧ Carried connection.key := by
  obtain ⟨endpoint, he, h⟩ := Option.bind_eq_some_iff.1 h
  obtain ⟨key, hk, h⟩ := Option.bind_eq_some_iff.1 h
  split at h
  · cases h
  · rename_i hne
    cases h
    simp only [Bool.or_eq_true, String.isEmpty_iff, not_or] at hne
    obtain ⟨_, he⟩ := mem_of_lastValue? he
    obtain ⟨_, hk⟩ := mem_of_lastValue? hk
    exact ⟨carried_of_mem_pairsOf he hne.1, carried_of_mem_pairsOf hk hne.2⟩

/-! ## What was written -/

/-- A name in front of an equals sign and a value without a semicolon are one pair. -/
theorem pairsOf_pair {name : List Char} {value rest : List Char} (hn : ';' ∉ name) (hd : '=' ∉ name)
    (hv : ';' ∉ value) :
    pairsOf (String.ofList (name ++ '=' :: value ++ ';' :: rest)) =
      (Text.fold (Text.trim (String.ofList name)), Text.trim (String.ofList value)) ::
        pairsOf (String.ofList rest) := by
  have hp : ';' ∉ name ++ '=' :: value := by simp [hn, hv]
  simp only [pairsOf, String.toList_ofList, Text.splitAtEach_piece hp, List.filterMap_cons,
    Text.cutFirst_mark hd]

theorem pairsOf_connectionString {endpoint key : String} (he : ';' ∉ endpoint.toList)
    (hk : ';' ∉ key.toList) :
    pairsOf (connectionString endpoint key) =
      [(Text.fold (Text.trim Wire.endpointKey), Text.trim endpoint),
        (Text.fold (Text.trim Wire.accountKey), Text.trim key)] := by
  have written : connectionString endpoint key =
      String.ofList (Wire.endpointKey.toList ++ '=' :: endpoint.toList ++
        ';' :: (Wire.accountKey.toList ++ '=' :: key.toList ++ ';' :: [])) := by
    apply String.toList_inj.1
    simp [connectionString]
  rw [written, pairsOf_pair (by decide +kernel) (by decide +kernel) he,
    pairsOf_pair (by decide +kernel) (by decide +kernel) hk]
  simp only [String.ofList_toList]
  rfl

/-- Values without semicolons are read back without the blanks around them. -/
theorem ofText?_of_undivided {endpoint key : String} (he : ';' ∉ endpoint.toList)
    (hk : ';' ∉ key.toList) :
    Connection.ofText? (connectionString endpoint key) =
      if Text.trim endpoint = "" ∨ Text.trim key = "" then none
      else some ⟨Text.trim endpoint, Text.trim key⟩ := by
  have first (value other : String) : lastValue? Wire.endpointKey
      [(Text.fold (Text.trim Wire.endpointKey), value),
        (Text.fold (Text.trim Wire.accountKey), other)] = some value := by
    have hn : (Text.fold (Text.trim Wire.accountKey) == Text.fold Wire.endpointKey) = false := by
      decide +kernel
    have hs : (Text.fold (Text.trim Wire.endpointKey) == Text.fold Wire.endpointKey) = true := by
      decide +kernel
    simp [lastValue?, hn, hs]
  have second (value other : String) : lastValue? Wire.accountKey
      [(Text.fold (Text.trim Wire.endpointKey), value),
        (Text.fold (Text.trim Wire.accountKey), other)] = some other := by
    have hs : (Text.fold (Text.trim Wire.accountKey) == Text.fold Wire.accountKey) = true := by
      decide +kernel
    simp [lastValue?, hs]
  rw [Connection.ofText?, pairsOf_connectionString he hk]
  simp only [first, second, Option.bind_eq_bind, Option.bind_some, Bool.or_eq_true,
    String.isEmpty_iff]

/-- An address and a key are read back from their connection string exactly if it can carry both.
If neither holds a semicolon, they are read back without the blanks around them, or not at all if
nothing but blanks is there. -/
theorem connectionString_readBack (endpoint key : String) :
    (Connection.ofText? (connectionString endpoint key) = some ⟨endpoint, key⟩ ↔
      (endpoint ≠ "" ∧ key ≠ "") ∧ (Text.trim endpoint = endpoint ∧ Text.trim key = key) ∧
        ';' ∉ endpoint.toList ∧ ';' ∉ key.toList) ∧
    (';' ∉ endpoint.toList → ';' ∉ key.toList →
      Connection.ofText? (connectionString endpoint key) =
        if Text.trim endpoint = "" ∨ Text.trim key = "" then none
        else some ⟨Text.trim endpoint, Text.trim key⟩) := by
  refine ⟨⟨fun h => ?_, ?_⟩, ofText?_of_undivided⟩
  · obtain ⟨he, hk⟩ := Connection.carried h
    exact ⟨⟨he.nonempty, hk.nonempty⟩, ⟨he.trimmed, hk.trimmed⟩, he.undivided, hk.undivided⟩
  · rintro ⟨⟨hne, hnk⟩, ⟨hte, htk⟩, he, hk⟩
    rw [ofText?_of_undivided he hk, hte, htk, if_neg (by simp [hne, hnk])]

/-- Equals signs on both sides, and blanks around the address. -/
theorem connectionString_readBack_equalsSigns :
    Connection.ofText? (connectionString " https://a/?x==y\t" "=k==") =
      some ⟨"https://a/?x==y", "=k=="⟩ :=
  ((connectionString_readBack " https://a/?x==y\t" "=k==").2 (by decide +kernel)
    (by decide +kernel)).trans (by decide +kernel)

/-- A key with a semicolon in it can take the place of the address. -/
example : Connection.ofText? (connectionString "a" "k;accountENDPOINT=b") = some ⟨"b", "k"⟩ := by
  decide +kernel

end PageScript.Cosmos
