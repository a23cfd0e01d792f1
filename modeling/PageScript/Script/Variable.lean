import PageScript.Script.Word

/-!
# Variables and their members

A variable is written `$name`, `$drive:name`, in braces with any characters in between, or as one of
the special names. A dollar sign that starts none of these stands for itself. Member accesses and
indices behind a variable make the whole an expression that is kept as text.
-/

namespace PageScript.Script

/-- The name and the drive inside the braces of a variable. -/
def bracedName (inner : List Char) : String × Option String :=
  match Text.cutFirst ':' inner with
  | (drive, some name) =>
    if !drive.isEmpty && drive.all isNameChar then (String.ofList name, some (String.ofList drive))
    else (String.ofList inner, none)
  | (_, none) => (String.ofList inner, none)

/-- A variable behind its dollar sign, where `rest` is what follows the sign: its name, its drive
and the text behind it. A sign that starts no variable gives nothing. -/
def variableName? (rest : List Char) : Except Fault (Option (String × Option String × List Char)) :=
  match rest with
  | '\x7b' :: inner =>
    match Text.cut? ['\x7d'] inner with
    | some (name, after) =>
      let (name, drive) := bracedName name
      .ok (some (name, drive, after))
    | none => .error (.problem .openVariable ('$' :: rest) rest)
  | c :: after =>
    if c = '$' || c = '^' || (c = '?' && !startsName after) then
      .ok (some (String.ofList [c], none, after))
    else if isNameChar c then
      match dropName rest with
      | ':' :: behind =>
        if startsName behind then
          .ok (some (takeName behind, some (takeName rest), dropName behind))
        else .ok (some (takeName rest, none, ':' :: behind))
      | behind => .ok (some (takeName rest, none, behind))
    else .ok none
  | [] => .ok none

theorem variableName?_suffix {rest after : List Char} {name : String} {drive : Option String}
    (h : variableName? rest = .ok (some (name, drive, after))) : after <:+ rest := by
  unfold variableName? at h
  split at h
  · rename_i inner
    split at h
    · rename_i name' after' hc
      simp only [Except.ok.injEq, Option.some.injEq, Prod.mk.injEq] at h
      obtain ⟨-, -, rfl⟩ := h
      exact ⟨'\x7b' :: (name' ++ ['\x7d']), by rw [Text.eq_of_cut? hc]; simp⟩
    · cases h
  · rename_i c t _
    have hn := dropName_suffix (c :: t)
    split at h
    · simp only [Except.ok.injEq, Option.some.injEq, Prod.mk.injEq] at h
      obtain ⟨-, -, rfl⟩ := h
      exact List.suffix_cons c _
    · split at h
      · split at h
        · rename_i behind hb
          rw [hb] at hn
          split at h <;> simp only [Except.ok.injEq, Option.some.injEq, Prod.mk.injEq] at h <;>
            obtain ⟨-, -, rfl⟩ := h
          · exact (dropName_suffix behind).trans ((List.suffix_cons ':' behind).trans hn)
          · exact hn
        · simp only [Except.ok.injEq, Option.some.injEq, Prod.mk.injEq] at h
          obtain ⟨-, -, rfl⟩ := h
          exact hn
      · cases h
  · cases h

theorem variableName?_named {c : Char} (hc : c ≠ '\x7b') (after : List Char) :
    variableName? (c :: after) =
      if c = '$' || c = '^' || (c = '?' && !startsName after) then
        .ok (some (String.ofList [c], none, after))
      else if isNameChar c then
        match dropName (c :: after) with
        | ':' :: behind =>
          if startsName behind then
            .ok (some (takeName behind, some (takeName (c :: after)), dropName behind))
          else .ok (some (takeName (c :: after), none, ':' :: behind))
        | behind => .ok (some (takeName (c :: after), none, behind))
      else .ok none := by
  rw [variableName?]
  exact hc

theorem variableName?_drive {c : Char} {after behind : List Char} (hc : c ≠ '\x7b')
    (hs : ¬ (c = '$' || c = '^' || (c = '?' && !startsName after)) = true)
    (hn : isNameChar c = true) (hd : dropName (c :: after) = ':' :: behind) :
    variableName? (c :: after) =
      if startsName behind then
        .ok (some (takeName behind, some (takeName (c :: after)), dropName behind))
      else .ok (some (takeName (c :: after), none, ':' :: behind)) := by
  rw [variableName?_named hc, if_neg hs, if_pos hn, hd]
  rfl

theorem variableName?_plain {c : Char} {after : List Char} (hc : c ≠ '\x7b')
    (hs : ¬ (c = '$' || c = '^' || (c = '?' && !startsName after)) = true)
    (hn : isNameChar c = true) (hd : ∀ behind, dropName (c :: after) ≠ ':' :: behind) :
    variableName? (c :: after) =
      .ok (some (takeName (c :: after), none, dropName (c :: after))) := by
  rw [variableName?_named hc, if_neg hs, if_pos hn]
  split
  · rename_i behind h
    exact absurd h (hd behind)
  · rfl

/-- Reads a variable at the dollar sign in front of `rest`. -/
def variableAt (rest : List Char) : Except Fault (Found Expr ('$' :: rest)) := do
  let start := '$' :: rest
  match ← checked (variableName? rest) with
  | ⟨some (name, drive, after), h⟩ =>
    return .behind (.reference (.between start after) name drive false) after
      (variableName?_suffix h)
  | ⟨none, _⟩ =>
    return .behind (.string (.between start rest) "$" .bare) rest List.suffix_rfl

/-- Passes over one member access, call or index; nothing if there is none. -/
def memberItem? : List Char → Except Fault (Option (List Char))
  | '.' :: c :: t =>
    if isNameStart c then
      match dropName (c :: t) with
      | '(' :: arguments => (groupRest ')' ('(' :: arguments)).map some
      | rest => .ok (some rest)
    else .ok none
  | '[' :: t => (groupRest ']' ('[' :: t)).map some
  | _ => .ok none

theorem memberItem?_call {c : Char} {t arguments : List Char} (hc : isNameStart c = true)
    (ha : dropName (c :: t) = '(' :: arguments) :
    memberItem? ('.' :: c :: t) = (groupRest ')' ('(' :: arguments)).map some := by
  rw [memberItem?, if_pos hc, ha]
  rfl

theorem memberItem?_name {c : Char} {t : List Char} (hc : isNameStart c = true)
    (ha : ∀ arguments, dropName (c :: t) ≠ '(' :: arguments) :
    memberItem? ('.' :: c :: t) = .ok (some (dropName (c :: t))) := by
  rw [memberItem?, if_pos hc]
  split
  · rename_i arguments h
    exact absurd h (ha arguments)
  · rfl

theorem memberItem?_none {text : List Char}
    (hd : ∀ c t, text = '.' :: c :: t → isNameStart c = false) (hi : ∀ t, text ≠ '[' :: t) :
    memberItem? text = .ok none := by
  unfold memberItem?
  split
  · rw [hd _ _ rfl, if_neg Bool.false_ne_true]
  · exact absurd rfl (hi _)
  · rfl

theorem memberItem?_suffix {text rest : List Char} (h : memberItem? text = .ok (some rest)) :
    rest <:+ text ∧ rest.length < text.length := by
  have behind {c : Char} {t : List Char} (hs : rest <:+ t) :
      rest <:+ c :: t ∧ rest.length < (c :: t).length :=
    ⟨hs.trans (List.suffix_cons c t), by have := hs.length_le; simp only [List.length_cons]; omega⟩
  have group {closer c : Char} {t : List Char}
      (hg : (groupRest closer (c :: t)).map some = .ok (some rest)) : rest <:+ t := by
    cases hr : groupRest closer (c :: t) with
    | error => simp [hr, Except.map] at hg
    | ok r =>
      simp only [hr, Except.map, Except.ok.injEq, Option.some.injEq] at hg
      exact hg ▸ groupRest_suffix hr
  unfold memberItem? at h
  split at h
  · rename_i c t
    split at h
    · have hn := dropName_suffix (c :: t)
      split at h
      · rename_i arguments ha
        rw [ha] at hn
        exact behind ((group h).trans ((List.suffix_cons _ _).trans hn))
      · simp only [Except.ok.injEq, Option.some.injEq] at h
        exact behind (h ▸ hn)
    · cases h
  · exact behind (group h)
  · cases h

/-- The text behind all member accesses at its start. -/
def membersRest (text : List Char) : Except Fault (List Char) :=
  match _h : memberItem? text with
  | .ok (some rest) => membersRest rest
  | .ok none => .ok text
  | .error fault => .error fault
termination_by text.length
decreasing_by exact (memberItem?_suffix _h).2

theorem membersRest_suffix {text rest : List Char} (h : membersRest text = .ok rest) :
    rest <:+ text := by
  fun_induction membersRest text with
  | case1 text r hr ih => exact (ih h).trans (memberItem?_suffix hr).1
  | case2 => cases h; exact List.suffix_rfl
  | case3 => cases h

theorem membersRest_step {text rest : List Char} (h : memberItem? text = .ok (some rest)) :
    membersRest text = membersRest rest := by
  conv => lhs; unfold membersRest
  split
  · rename_i h'
    cases h.symm.trans h'
    rfl
  · rename_i h'
    cases h.symm.trans h'
  · rename_i h'
    cases h.symm.trans h'

theorem membersRest_done {text : List Char} (h : memberItem? text = .ok none) :
    membersRest text = .ok text := by
  rw [membersRest]
  split
  · rename_i h'
    cases h.symm.trans h'
  · rfl
  · rename_i h'
    cases h.symm.trans h'

/-- Takes the member accesses behind an expression into it. -/
def withMembers {text : List Char} (found : Found Expr text) : Except Fault (Found Expr text) := do
  let ⟨rest, h⟩ ← checked (membersRest found.rest)
  if rest.length < found.rest.length then
    return found.upTo (.raw (.between text rest) .member) rest (membersRest_suffix h)
  else return found

end PageScript.Script
