import ReplyStage.Stage.Process
/-!
# Scripts for transports

A rehearsal runs a stage without a network, on a clock that starts at zero and only moves when
nothing else can be done. In place of a server there is a script that says what comes back for a
request, and when.
-/

namespace ReplyStage

/-- The transport of a rehearsal. -/
structure Transport where
  name : String := ""
  headersSupported : Bool := true
  deriving DecidableEq, Repr

/-- What a script answers with. -/
inductive ScriptedAnswer
  /-- the request itself -/
  | echo
  /-- the request's payload with ASCII letters in upper case, without headers -/
  | upper
  /-- a reply about the request's subject unless it has one of its own -/
  | reply (subject : Option String) (replyTo : Option String) (payload : Bytes)
      (headers : Option HeaderMap)
  /-- an error about the request's subject -/
  | error (make : String → StageError)
  /-- nothing -/
  | pending

/-- An answer and the milliseconds until it comes. -/
structure Script where
  delay : Nat := 0
  answer : ScriptedAnswer := .echo

namespace Script

/-- A byte, in upper case if it is an ASCII letter in lower case. -/
def upperByte (b : UInt8) : UInt8 := if 0x61 ≤ b ∧ b ≤ 0x7A then b - 0x20 else b

/-- What a script makes of a request. -/
def respond (s : Script) (request : Request) : Response :=
  match s.answer with
  | .echo =>
    .after s.delay (.ok { subject := request.subject, payload := request.payload,
                          headers := request.headers })
  | .upper =>
    .after s.delay (.ok { subject := request.subject, payload := request.payload.map upperByte })
  | .reply subject replyTo payload headers =>
    .after s.delay (.ok ⟨subject.getD request.subject, replyTo, payload, headers⟩)
  | .error make => .after s.delay (.error (make request.subject))
  | .pending => .never

end Script

/-- A script for each payload, and one for the others. -/
structure ScriptBook where
  rules : List (Bytes × Script) := []
  default : Script := {}

/-- The script for a payload: the first rule that names it. -/
def ScriptBook.find (b : ScriptBook) (payload : Bytes) : Script :=
  match b.rules.find? fun rule => rule.1 = payload with
  | some rule => rule.2
  | none => b.default

/-- What the scripts make of a request. -/
def ScriptBook.respond (b : ScriptBook) (request : Request) : Response :=
  (b.find request.payload).respond request

end ReplyStage
