/-!
# What reading has found

A reader of nested forms gives a value together with the text left behind it, and the facts that the
rest is a tail of the text it was given and shorter than it. The facts make every loop over such
forms end.
-/

namespace PageScript

/-- A value read from the start of `text`. -/
structure Found (α : Type) (text : List Char) where
  value : α
  /-- The text behind what was read. -/
  rest : List Char
  suffix : rest <:+ text
  shorter : rest.length < text.length

variable {α β ε : Type} {text inner : List Char}

/-- The same find, seen from an earlier place of the text. -/
def Found.within (found : Found α inner) (h : inner <:+ text) : Found α text where
  value := found.value
  rest := found.rest
  suffix := found.suffix.trans h
  shorter := Nat.lt_of_lt_of_le found.shorter h.length_le

/-- A value that ends at `rest`, somewhere behind the first character. -/
def Found.behind {c : Char} (value : α) (rest : List Char) (h : rest <:+ text) :
    Found α (c :: text) where
  value := value
  rest := rest
  suffix := h.trans (List.suffix_cons c text)
  shorter := by
    have := h.length_le
    simp only [List.length_cons]
    omega

/-- Another value that ends at `rest`, at or behind the end of a find. -/
def Found.upTo (found : Found α text) (value : β) (rest : List Char) (h : rest <:+ found.rest) :
    Found β text where
  value := value
  rest := rest
  suffix := h.trans found.suffix
  shorter := Nat.lt_of_le_of_lt h.length_le found.shorter

/-- A find with another value. -/
def Found.map (f : α → β) (found : Found α text) : Found β text where
  value := f found.value
  rest := found.rest
  suffix := found.suffix
  shorter := found.shorter

/-- An outcome together with the fact that it is the outcome. -/
def checked (x : Except ε α) : Except ε { a // x = .ok a } :=
  match x with
  | .ok a => .ok ⟨a, rfl⟩
  | .error e => .error e

theorem checked_ok {x : Except ε α} {a : α} (h : x = .ok a) : checked x = .ok ⟨a, h⟩ := by
  subst h
  rfl

theorem checked_error {x : Except ε α} {e : ε} (h : x = .error e) : checked x = .error e := by
  subst h
  rfl

theorem ok_of_map {x : Except ε α} {f : α → β} {b : β} (h : x.map f = .ok b) :
    ∃ a, x = .ok a ∧ f a = b := by
  cases x with
  | error => simp [Except.map] at h
  | ok a => exact ⟨a, rfl, by simpa [Except.map] using h⟩

theorem ok_of_mapError {ε' : Type} {x : Except ε α} {f : ε → ε'} {a : α} (h : x.mapError f = .ok a) :
    x = .ok a := by
  cases x with
  | error e => cases h
  | ok b => cases h; rfl

theorem ok_of_bind {x : Except ε α} {f : α → Except ε β} {b : β} (h : x >>= f = .ok b) :
    ∃ a, x = .ok a ∧ f a = .ok b := by
  cases x with
  | error e => cases h
  | ok a => exact ⟨a, rfl, h⟩

theorem ok_of_toOption {x : Except ε α} {f : α → β} {b : β} (h : x.toOption.map f = some b) :
    ∃ a, x = .ok a ∧ f a = b := by
  cases x with
  | error e => cases h
  | ok a => exact ⟨a, rfl, Option.some.inj h⟩

theorem ok_of_toOption_bind {x : Except ε α} {f : α → Option β} {b : β}
    (h : x.toOption.bind f = some b) : ∃ a, x = .ok a ∧ f a = some b := by
  cases x with
  | error e => cases h
  | ok a => exact ⟨a, rfl, h⟩

/-- What a run of steps that all succeed gives comes from one of them. -/
theorem mem_of_mapM_ok {f : α → Except ε β} {items : List α} {out : List β}
    (h : items.mapM f = .ok out) {b : β} (hb : b ∈ out) : ∃ a ∈ items, f a = .ok b := by
  induction items generalizing out with
  | nil =>
    cases h
    cases hb
  | cons item rest ih =>
    rw [List.mapM_cons] at h
    obtain ⟨first, hf, h⟩ := ok_of_bind h
    obtain ⟨others, hr, h⟩ := ok_of_bind h
    cases h
    rcases List.mem_cons.1 hb with rfl | hb
    · exact ⟨item, List.mem_cons_self, hf⟩
    · obtain ⟨found, hm, hp⟩ := ih hr hb
      exact ⟨found, List.mem_cons_of_mem item hm, hp⟩

theorem ok_of_mapM_append_cons {f : α → Except ε β} {before after : List α} {item : α} {out : List β}
    (h : (before ++ item :: after).mapM f = .ok out) :
    ∃ first b last, f item = .ok b ∧ after.mapM f = .ok last ∧ out = first ++ b :: last := by
  rw [List.mapM_append] at h
  obtain ⟨first, -, h⟩ := ok_of_bind h
  obtain ⟨more, hm, h⟩ := ok_of_bind h
  rw [List.mapM_cons] at hm
  obtain ⟨b, hb, hm⟩ := ok_of_bind hm
  obtain ⟨last, hl, hm⟩ := ok_of_bind hm
  cases h
  cases hm
  exact ⟨first, b, last, hb, hl, rfl⟩

end PageScript
