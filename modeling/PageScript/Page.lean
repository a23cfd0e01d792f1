import PageScript.Text.Blank
import PageScript.Text.LooseMatch

/-!
# Script elements of a page

A script element is an opening tag with the wanted type as its first attribute, a body, and the first
closing tag behind it, all in any letter case. The bodies are trimmed, and those that are not empty
are the blocks of the page, numbered in order. An element without a closing tag is no element.
-/

namespace PageScript.Page

/-- A block of a page: its trimmed text and its number. -/
structure Block where
  text : String
  index : Nat
deriving DecidableEq, Repr

/-- The text behind the blanks at its start; there must be one. -/
def blanksRest? : List Char → Option (List Char)
  | c :: rest => if Text.isBlank c then some (rest.dropWhile Text.isBlank) else none
  | [] => none

/-- The text behind the next closing angle bracket. -/
def tagRest? (text : List Char) : Option (List Char) := (text.dropWhile (· != '>')).tail?

/-- The attribute that gives a script element its type. -/
def typeAttribute (scriptType : String) : List Char :=
  "type=\"".toList ++ scriptType.toList ++ ['"']

/-- The text behind an opening tag of the wanted type, if one starts here. -/
def openingRest? (scriptType : String) (text : List Char) : Option (List Char) := do
  let blanks ← Text.dropLoosely? "<script".toList text
  let attr ← blanksRest? blanks
  let rest ← Text.dropLoosely? (typeAttribute scriptType) attr
  tagRest? rest

/-- A body and what follows its closing tag, the first one in the text. -/
def bodyAndRest? : List Char → Option (List Char × List Char)
  | [] => none
  | c :: rest =>
    match Text.dropLoosely? "</script>".toList (c :: rest) with
    | some after => some ([], after)
    | none => (bodyAndRest? rest).map fun (body, after) => (c :: body, after)

theorem blanksRest?_suffix {text rest : List Char} (h : blanksRest? text = some rest) :
    rest <:+ text := by
  unfold blanksRest? at h
  split at h
  · split at h
    · cases h
      exact (List.dropWhile_suffix _).trans (List.suffix_cons _ _)
    · cases h
  · cases h

theorem tagRest?_suffix {text rest : List Char} (h : tagRest? text = some rest) : rest <:+ text := by
  unfold tagRest? at h
  have hs := List.dropWhile_suffix (l := text) (· != '>')
  cases hd : text.dropWhile (· != '>') with
  | nil => simp [hd] at h
  | cons c t =>
    simp only [hd, List.tail?_cons, Option.some.injEq] at h
    rw [hd] at hs
    exact h ▸ (List.suffix_cons c t).trans hs

theorem openingRest?_shorter {scriptType : String} {text rest : List Char}
    (h : openingRest? scriptType text = some rest) : rest.length < text.length := by
  simp only [openingRest?, bind, Option.bind_eq_some_iff] at h
  obtain ⟨blanks, h1, attr, h2, tag, h3, h4⟩ := h
  have l1 := (Text.dropLoosely?_suffix h1).2
  have l2 := (blanksRest?_suffix h2).length_le
  have l3 := (Text.dropLoosely?_suffix h3).1.length_le
  have l4 := (tagRest?_suffix h4).length_le
  simp only [show "<script".toList.length = 7 from rfl] at l1
  omega

theorem bodyAndRest?_suffix {text body rest : List Char}
    (h : bodyAndRest? text = some (body, rest)) : rest <:+ text := by
  induction text generalizing body with
  | nil => cases h
  | cons c t ih =>
    simp only [bodyAndRest?] at h
    split at h
    · rename_i hd
      cases h
      exact (Text.dropLoosely?_suffix hd).1
    · obtain ⟨p, hp, he⟩ := Option.map_eq_some_iff.1 h
      cases he
      exact (ih hp).trans (List.suffix_cons c t)

/-- The body of the script element that starts here, and what follows the element. -/
def element? (scriptType : String) (text : List Char) : Option (List Char × List Char) :=
  (openingRest? scriptType text).bind bodyAndRest?

theorem element?_shorter {scriptType : String} {text body rest : List Char}
    (h : element? scriptType text = some (body, rest)) : rest.length < text.length := by
  obtain ⟨inner, h1, h2⟩ := Option.bind_eq_some_iff.1 h
  exact Nat.lt_of_le_of_lt (bodyAndRest?_suffix h2).length_le (openingRest?_shorter h1)

/-- The bodies of all script elements, from left to right. -/
def bodies (scriptType : String) (text : List Char) : List (List Char) :=
  match text with
  | [] => []
  | c :: t =>
    match _h : element? scriptType (c :: t) with
    | some (body, rest) => body :: bodies scriptType rest
    | none => bodies scriptType t
termination_by text.length
decreasing_by
  · exact element?_shorter _h
  · simp

/-- The blocks of a page. -/
def blocks (scriptType page : String) : List Block :=
  let kept := (bodies scriptType page.toList).filterMap fun body =>
    let text := Text.trim (String.ofList body)
    if text.isEmpty then none else some text
  kept.mapIdx fun index text => { text, index }

end PageScript.Page
