import PageScript.Cosmos.Wire
import PageScript.Json.Reader

/-!
# The first document of an answer

An answer is a JSON object whose documents are the items of one member. The first of them is cut out
of the answer as it is written, so that spacing, order and the form of numbers are kept.
-/

namespace PageScript.Cosmos

/-- Why an answer gives no document. -/
inductive AnswerFault where
  | malformed (fault : Json.Fault)
  | notObject
  | notArray

/-- The wording of the fault in the answer `content`. -/
def AnswerFault.message (content : List Char) : AnswerFault → String
  | .malformed fault => fault.message content
  | .notObject => "Query response is not a JSON object"
  | .notArray => "'" ++ Wire.documentsProperty ++ "' is not an array"

/-- The text from a value on, behind the name of its member. An answer is read as a whole before it is
looked through, so the character between the two is a colon and is not looked at. -/
def pastColon (text : List Char) : List Char := Json.skipSpace ((Json.skipSpace text).drop 1)

/-- The text from the next member on, or from the closing brace on, behind the value of a member. -/
def pastComma (text : List Char) : List Char :=
  match Json.skipSpace text with
  | ',' :: rest => Json.skipSpace rest
  | rest => rest

theorem pastColon_suffix (text : List Char) : pastColon text <:+ text :=
  (Json.skipSpace_suffix _).trans ((List.drop_suffix 1 _).trans (Json.skipSpace_suffix text))

theorem pastComma_suffix (text : List Char) : pastComma text <:+ text := by
  have hs := Json.skipSpace_suffix text
  unfold pastComma
  split
  · rename_i rest h
    rw [h] at hs
    exact (Json.skipSpace_suffix rest).trans ((List.suffix_cons ',' rest).trans hs)
  · exact hs

/-- Steps over the members of an object up to its closing brace. `site` is the text from the value of
the last member with this name on, as far as one has been met. -/
def memberSite? (name : String) (site : Option (List Char)) (text : List Char) :
    Except Json.Fault (Option (List Char)) :=
  match text with
  | '\x7d' :: _ => .ok site
  | text => do
    let key ← Json.readValue text
    let value ← Json.readValue (pastColon key.rest)
    let site := if key.value.isText name then some (pastColon key.rest) else site
    memberSite? name site (pastComma value.rest)
termination_by text.length
decreasing_by
  have h1 := key.shorter
  have h2 := (pastColon_suffix key.rest).length_le
  have h3 := value.shorter
  have h4 := (pastComma_suffix value.rest).length_le
  omega

/-- The first item of the array behind `t`, as it is written. -/
def firstItem? (t : List Char) : Except Json.Fault (Option (List Char)) :=
  match Json.skipSpace t with
  | ']' :: _ => .ok none
  | here => (Json.readValue here).map fun found =>
      some (here.take (here.length - found.rest.length))

/-- The text of the first document; nothing if there is none. -/
def firstDocument? (content : List Char) : Except AnswerFault (Option (List Char)) :=
  match Json.read content with
  | .error fault => .error (.malformed fault)
  | .ok _ =>
    match Json.skipSpace content with
    | '\x7b' :: t =>
      match memberSite? Wire.documentsProperty none (Json.skipSpace t) with
      | .error fault => .error (.malformed fault)
      | .ok none => .ok none
      | .ok (some ('[' :: items)) =>
        match firstItem? items with
        | .error fault => .error (.malformed fault)
        | .ok item => .ok item
      | .ok (some _) => .error .notArray
    | _ => .error .notObject

end PageScript.Cosmos
