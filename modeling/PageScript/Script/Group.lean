import PageScript.Script.Strings

/-!
# Bracketed groups and double-quoted strings

A group runs from an opening bracket to its closer. Inside, strings, comments and escaped
characters are passed over, so that a bracket in them does not count. A double-quoted string runs to
the first quote that is neither doubled nor escaped, and a `$(` in it opens a group. Since either may
hold the other to any depth, one loop reads both, on a stack of what is open.
-/

namespace PageScript.Script

/-- The closing bracket that belongs to an opening one. -/
def closerOf? : Char → Option Char
  | '(' => some ')'
  | '\x7b' => some '\x7d'
  | '[' => some ']'
  | _ => none

/-- A closing bracket. -/
def isCloser (c : Char) : Bool := c == ')' || c == '\x7d' || c == ']'

/-- Passes over one item that opens nothing: a single-quoted string, a here-string, a comment, a
backtick with the character behind it, or a plain character. -/
def flatItem (c : Char) (rest : List Char) : Except Fault (List Char) :=
  if c = '\'' then (singleQuotedBody (c :: rest) rest).map (·.2)
  else
    match hereStringHead? (c :: rest) with
    | some (quote, body) => (hereStringBody (c :: rest) quote body).map (·.2)
    | none =>
      if c = '#' then .ok (skipLineComment rest)
      else if c = '<' ∧ rest.head? = some '#' then skipBlockComment (c :: rest)
      else if c = '`' then .ok (rest.drop 1)
      else .ok rest

theorem flatItem_suffix {c : Char} {rest after : List Char} (h : flatItem c rest = .ok after) :
    after <:+ rest := by
  unfold flatItem at h
  split at h
  · cases hs : singleQuotedBody (c :: rest) rest with
    | error => simp [hs, Except.map] at h
    | ok p =>
      simp only [hs, Except.map, Except.ok.injEq] at h
      exact h ▸ (singleQuotedBody_suffix hs).1
  · split at h
    · rename_i quote body hh
      cases hb : hereStringBody (c :: rest) quote body with
      | error => simp [hb, Except.map] at h
      | ok p =>
        simp only [hb, Except.map, Except.ok.injEq] at h
        obtain ⟨hs, hl⟩ := hereStringHead?_suffix hh
        have hb' : after <:+ body := h ▸ hereStringBody_suffix hb
        rcases List.suffix_cons_iff.1 (hb'.trans hs) with he | he
        · have := hb'.length_le
          simp only [he, List.length_cons] at this hl
          omega
        · exact he
    · split at h
      · cases h; exact skipLineComment_suffix rest
      · split at h
        · have := skipBlockComment_suffix h
          cases rest with
          | nil => simpa using this
          | cons d t => exact this.trans (List.suffix_cons d t)
        · split at h <;> cases h
          · exact List.drop_suffix 1 rest
          · exact List.suffix_rfl

/-- Something opened and not closed yet, with the text from its opening on. -/
inductive Frame where
  | group (closer : Char) (opened : List Char)
  | string (opened : List Char)

/-- The fault when the script ends before the frame is closed. -/
def Frame.unclosed : Frame → Fault
  | .group closer opened => .problem (.openGroup closer) opened []
  | .string opened => .problem (.openString "\"") opened []

/-- One step inside a double-quoted string: the frames that replace it and the text left. -/
def stringStep (opened : List Char) (c : Char) (rest : List Char) : List Frame × List Char :=
  if c = '`' then ([.string opened], rest.drop 1)
  else if c = '$' then
    match rest with
    | '(' :: inner => ([.group ')' ('(' :: inner), .string opened], inner)
    | _ => ([.string opened], rest)
  else if c = '"' then
    match rest with
    | '"' :: after => ([.string opened], after)
    | _ => ([], rest)
  else ([.string opened], rest)

/-- One step inside a group. -/
def groupStep (closer : Char) (opened : List Char) (c : Char) (rest : List Char) :
    Except Fault (List Frame × List Char) :=
  match closerOf? c with
  | some inner => .ok ([.group inner (c :: rest), .group closer opened], rest)
  | none =>
    if isCloser c then
      if c = closer then .ok ([], rest)
      else .error (.problem (.strayCloser c) (c :: rest) (c :: rest))
    else if c = '"' then .ok ([.string (c :: rest), .group closer opened], rest)
    else (flatItem c rest).map fun after => ([.group closer opened], after)

/-- One step inside the innermost frame. -/
def Frame.step (c : Char) (rest : List Char) : Frame → Except Fault (List Frame × List Char)
  | .string opened => .ok (stringStep opened c rest)
  | .group closer opened => groupStep closer opened c rest

theorem stringStep_suffix (opened : List Char) (c : Char) (rest : List Char) :
    (stringStep opened c rest).2 <:+ rest := by
  unfold stringStep
  split
  · exact List.drop_suffix 1 rest
  · split
    · split
      · exact List.suffix_cons _ _
      · exact List.suffix_rfl
    · split
      · split
        · exact List.suffix_cons _ _
        · exact List.suffix_rfl
      · exact List.suffix_rfl

/-- In a string a character stands for itself unless it is a quote, a backtick or the dollar sign in
front of a group. -/
theorem stringStep_other {c : Char} {rest : List Char} (hb : c ≠ '`') (hq : c ≠ '"')
    (hd : c = '$' → rest.head? ≠ some '(') (opened : List Char) :
    stringStep opened c rest = ([.string opened], rest) := by
  unfold stringStep
  rw [if_neg hb]
  split
  · rename_i hc
    split
    · exact absurd rfl (hd hc)
    · rfl
  · rfl

theorem groupStep_suffix {closer c : Char} {opened rest after : List Char} {frames : List Frame}
    (h : groupStep closer opened c rest = .ok (frames, after)) : after <:+ rest := by
  unfold groupStep at h
  split at h
  · cases h; exact List.suffix_rfl
  · split at h
    · split at h <;> cases h
      exact List.suffix_rfl
    · split at h
      · cases h; exact List.suffix_rfl
      · cases hf : flatItem c rest with
        | error => simp [hf, Except.map] at h
        | ok r =>
          simp only [hf, Except.map, Except.ok.injEq, Prod.mk.injEq] at h
          exact h.2 ▸ flatItem_suffix hf

theorem Frame.step_suffix {c : Char} {rest after : List Char} {frame : Frame} {frames : List Frame}
    (h : frame.step c rest = .ok (frames, after)) : after <:+ rest := by
  cases frame with
  | group closer opened => exact groupStep_suffix h
  | string opened =>
    simp only [Frame.step, Except.ok.injEq] at h
    have := stringStep_suffix opened c rest
    rwa [h] at this

/-- Reads until everything on the stack is closed. -/
def closeAll : List Frame → List Char → Except Fault (List Char)
  | [], text => .ok text
  | frame :: _, [] => .error frame.unclosed
  | frame :: frames, c :: rest =>
    match _h : frame.step c rest with
    | .ok (top, after) => closeAll (top ++ frames) after
    | .error fault => .error fault
termination_by _ text => text.length
decreasing_by
  have := (Frame.step_suffix _h).length_le
  simp only [List.length_cons]
  omega

theorem closeAll_step {frame : Frame} {frames top : List Frame} {c : Char} {rest after : List Char}
    (h : frame.step c rest = .ok (top, after)) :
    closeAll (frame :: frames) (c :: rest) = closeAll (top ++ frames) after := by
  rw [closeAll]
  split
  · rename_i h'
    cases h.symm.trans h'
    rfl
  · rename_i h'
    cases h.symm.trans h'

theorem closeAll_fails {frame : Frame} {frames : List Frame} {c : Char} {rest : List Char}
    {fault : Fault} (h : frame.step c rest = .error fault) :
    closeAll (frame :: frames) (c :: rest) = .error fault := by
  rw [closeAll]
  split
  · rename_i h'
    cases h.symm.trans h'
  · rename_i h'
    cases h.symm.trans h'
    rfl

theorem closeAll_suffix {frames : List Frame} {text rest : List Char}
    (h : closeAll frames text = .ok rest) : rest <:+ text := by
  fun_induction closeAll frames text with
  | case1 => cases h; exact List.suffix_rfl
  | case2 => cases h
  | case3 frame frames c t top after hs ih =>
    exact ((ih h).trans (Frame.step_suffix hs)).trans (List.suffix_cons c t)
  | case4 => cases h

/-- The text behind a group whose opening bracket, closed by `closer`, starts `text`. -/
def groupRest (closer : Char) (text : List Char) : Except Fault (List Char) :=
  closeAll [.group closer text] text.tail

/-- The text behind a double-quoted string whose opening quote starts `text`. -/
def doubleQuotedRest (text : List Char) : Except Fault (List Char) :=
  closeAll [.string text] text.tail

theorem groupRest_suffix {closer c : Char} {t rest : List Char}
    (h : groupRest closer (c :: t) = .ok rest) : rest <:+ t :=
  closeAll_suffix h

theorem doubleQuotedRest_suffix {c : Char} {t rest : List Char}
    (h : doubleQuotedRest (c :: t) = .ok rest) : rest <:+ t :=
  closeAll_suffix h

/-- The unexpanded body and the rest of a double-quoted string. -/
def doubleQuoted (text : List Char) : Except Fault (List Char × List Char) :=
  (doubleQuotedRest text).map fun rest =>
    (text.tail.take (text.tail.length - rest.length - 1), rest)

end PageScript.Script
