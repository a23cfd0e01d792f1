import PageScript.Calendar
import PageScript.Charset.ContentType
import PageScript.Cosmos.Document
import PageScript.Cosmos.Request
import PageScript.Cosmos.Status
import PageScript.Journal

/-!
# Asking queries

A session asks queries one after the other and gets an answer to each request it sends. Whatever
happens, a query ends in one line of text: the first document as it is written, or a message.
-/

namespace PageScript.Cosmos

/-- What the network gives back for a request. -/
inductive Answer where
  /-- The request did not get through. -/
  | failure (reason : String)
  | response (status : Int) (contentType : String) (content : List UInt8)

/-- The answers to come; the last one is given again and again. -/
structure Answers where
  next : Answer
  later : List Answer := []

/-- The answers that are left behind the next one. -/
def Answers.rest (answers : Answers) : Answers :=
  match answers.later with
  | [] => answers
  | next :: later => { next, later }

/-- Why a query has no outcome. -/
inductive QueryFault where
  | moment (fault : Calendar.Fault)
  | request (fault : RequestFault)
  | transport (reason : String)
  /-- The content type of the answer is not ASCII. -/
  | contentType (text : String)
  /-- The address that was asked has no type. -/
  | untyped (address : String)
  | unreadable (fault : Charset.ContentFault)
  | answer (content : List Char) (fault : AnswerFault)

def QueryFault.message : QueryFault → String
  | .moment fault => fault.message
  | .request fault => fault.message
  | .transport reason => reason
  | .contentType text => notAsciiMessage text.toList
  | .untyped address => "unknown url type: " ++ Text.quoted address
  | .unreadable fault => fault.message
  | .answer content fault => fault.message content

/-- The line for a query without an outcome. -/
def QueryFault.line (fault : QueryFault) : String := Wire.failurePrefix ++ ": " ++ fault.message

/-- The line that a content ends in. -/
def contentLine (status : Int) (content : List Char) : Except QueryFault String :=
  if isSuccess status then
    match firstDocument? content with
    | .ok (some document) => .ok (String.ofList document)
    | .ok none => .ok Wire.noItemsFound
    | .error fault => .error (.answer content fault)
  else
    .ok (Wire.restErrorPrefix ++ s!" {status}: " ++ reasonPhrase status ++ " " ++
      String.ofList content)

/-- The line that an answer from an address ends in. -/
def Answer.line (address : String) : Answer → Except QueryFault String
  | .failure reason => .error (.transport reason)
  | .response status contentType content => do
    if contentType.toList.any (0x80 ≤ ·.toNat) then throw (.contentType contentType)
    if !isTyped address.toList then throw (.untyped address)
    contentLine status (← (Charset.textOf contentType.toList content).mapError QueryFault.unreadable)

/-- The answers to come, the requests sent so far and what was noted on the way. -/
structure Session where
  answers : Answers
  sent : List Request := []
  notes : List Note := []

namespace Session

def note (session : Session) (note : Note) : Session :=
  { session with notes := session.notes ++ [note] }

/-- Sends a request. -/
def send (session : Session) (request : Request) : Answer × Session :=
  (session.answers.next,
    { session with
      answers := session.answers.rest
      sent := session.sent ++ [request.withCredentials] })

/-- The request for a query at a moment. -/
def requestFor (moment : Calendar.Moment) (connection : Connection) (query : Query) :
    Except QueryFault Request := do
  let date ← (Calendar.httpDate moment).mapError QueryFault.moment
  (Request.ofQuery connection query date).mapError QueryFault.request

/-- Ends a query. -/
def conclude (session : Session) : Except QueryFault String → String × Session
  | .ok line => (line, session)
  | .error fault => (fault.line, session.note (.queryFailed fault.message))

/-- Asks a query: sends at most one request and gives one line. -/
def readFirstItem (moment : Calendar.Moment) (connection : String) (query : Query)
    (session : Session) : String × Session :=
  match Connection.ofText? connection with
  | none => (Wire.invalidConnectionString, session)
  | some connection =>
    match requestFor moment connection query with
    | .error fault => session.conclude (.error fault)
    | .ok request =>
      let (answer, session) := (session.note (.requestSent request.address)).send request
      session.conclude (answer.line request.address)

end Session

end PageScript.Cosmos
