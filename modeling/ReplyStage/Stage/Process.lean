import ReplyStage.Connection.Basic
import ReplyStage.Stage.Basic
import ReplyStage.Stage.Metrics
/-!
# Processing a record

What the stage does with one record. First it makes a request, which fails when there is no
connection, no subject, no headers or no time left, in this order. Then it sends the request, waits
for the answer as long as it may, and makes a record of the reply. Time passes in whole
milliseconds: a wait ends with the millisecond in which its end lies, and an answer in the last
millisecond still counts.
-/

namespace ReplyStage

/-- What a transport makes of a request: nothing ever, or an answer after some milliseconds. -/
inductive Response
  | never
  | after (millis : Nat) (answer : Except StageError Reply)

/-- A request that is sent, with the transport it goes to and the time to wait. -/
structure Sending (τ : Type) where
  transport : τ
  request : Request
  timeout : Duration
  deriving DecidableEq, Repr

/-- What came of a record: the request that was sent, if one was, the result, and the milliseconds
it took. -/
structure Processed (τ : Type) where
  sent : Option (Sending τ)
  result : Except StageError Record
  millis : Nat

namespace Stage

variable {τ : Type}

/-- The request that is sent for a record. -/
def start (s : Stage) (headersSupported : τ → Bool) (connection : Connection τ) (record : Record)
    (deadline : Option Duration) (now : Duration) : Except StageError (Sending τ) :=
  match connection.acquire with
  | .error e => .error e
  | .ok transport =>
    -- the templates are evaluated under the lock, so a closed stage reports nothing about them
    match s.request (headersSupported transport) record with
    | .error e => .error e
    | .ok request =>
      match s.timeLimit now deadline with
      | none => .error (.timeout request.subject .zero)
      | some timeout => .ok ⟨transport, request, timeout⟩

/-- The record of an answer. -/
def accept (s : Stage) (answer : Except StageError Reply) : Except StageError Record :=
  match answer with
  | .error e => .error e
  | .ok reply => reply.toRecord s.maxReplyBytes

/-- The end of a request: the milliseconds until then and the result. -/
def conclude (s : Stage) (sending : Sending τ) : Response → Nat × Except StageError Record
  | .after millis answer =>
    if millis ≤ sending.timeout.ceilMillis then (millis, s.accept answer) else late
  | .never => late
where
  /-- No answer came in time. -/
  late : Nat × Except StageError Record :=
    (sending.timeout.ceilMillis, .error (.timeout sending.request.subject sending.timeout))

/-- What comes of a record, when the transport responds as given. -/
def process (s : Stage) (headersSupported : τ → Bool) (respond : Sending τ → Response)
    (connection : Connection τ) (record : Record) (deadline : Option Duration) (now : Duration) :
    Processed τ :=
  match s.start headersSupported connection record deadline now with
  | .error e => ⟨none, .error e, 0⟩
  | .ok sending =>
    let (millis, result) := s.conclude sending (respond sending)
    ⟨some sending, result, millis⟩

end Stage

/-- What is counted when a record is done. -/
def MetricEvent.ofResult (millis : Nat) : Except StageError Record → MetricEvent
  | .ok _ => .replied (.ofMillis millis)
  | .error e => .failed e.kind

/-- What is counted for a record. -/
def Processed.events {τ : Type} (p : Processed τ) : List MetricEvent :=
  (p.sent.map fun _ => .sent).toList ++ [.ofResult p.millis p.result]

end ReplyStage
