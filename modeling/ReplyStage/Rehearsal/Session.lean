import ReplyStage.Rehearsal.Script
/-!
# Rehearsing a session

One caller uses a stage, one step after another.
-/

namespace ReplyStage

/-- A record to process: what comes back for it, the caller's deadline, and when the caller gives
up. Times are milliseconds on the clock. -/
structure Errand where
  record : Record
  script : Script
  deadline : Option Nat := none
  cancel : Option Nat := none

/-- What the caller does. -/
inductive SessionStep
  | process (errand : Errand)
  | close
  | sleep (millis : Nat)

/-- A request that was sent, and when. -/
structure SentAt where
  millis : Nat
  request : Request
  timeout : Duration
  deriving DecidableEq, Repr

/-- What a step came to. -/
inductive StepResult
  | record (r : Record)
  | failed (e : StageError)
  | cancelled
  | closed
  | slept
  deriving DecidableEq, Repr

/-- A stage in use: its connection, the clock, the number of transports closed and the counts. -/
structure Session where
  stage : Stage
  connection : Connection Transport
  now : Nat := 0
  closes : Nat := 0
  metrics : Metrics

namespace Session

/-- The beginning of a session. -/
def begin (stage : Stage) (transport : Transport) : Session :=
  { stage, connection := .connected transport, metrics := .ofStage stage.label }

/-- Processes a record, unless the caller gives up before there is a result. -/
def process (s : Session) (e : Errand) : Session × StepResult × Option SentAt :=
  let p := s.stage.process Transport.headersSupported (fun sending => e.script.respond sending.request)
    s.connection e.record (e.deadline.map Duration.ofMillis) (.ofMillis s.now)
  let sent := p.sent.map fun sending => ⟨s.now, sending.request, sending.timeout⟩
  let givesUp := e.cancel.map fun cancel => max cancel s.now
  let ends := s.now + p.millis
  if givesUp.all (ends ≤ ·) then
    let result :=
      match p.result with
      | .ok record => .record record
      | .error e => .failed e
    ({ s with now := ends, metrics := s.metrics.recordAll p.events }, result, sent)
  else
    ({ s with now := givesUp.getD s.now,
              metrics := s.metrics.recordAll (p.sent.map fun _ => .sent).toList }, .cancelled, sent)

/-- Closes the stage. -/
def close (s : Session) : Session :=
  { s with connection := .closed, closes := s.closes + s.connection.held?.toList.length }

/-- Takes a step. -/
def step (s : Session) : SessionStep → Session × StepResult × Option SentAt
  | .process errand => s.process errand
  | .close => (s.close, .closed, none)
  | .sleep millis => ({ s with now := s.now + millis }, .slept, none)

/-- Takes steps in order. Gives the session at the end, and for each step what it came to and the
session after it. -/
def run (s : Session) : List SessionStep → Session × List (StepResult × Option SentAt × Session)
  | [] => (s, [])
  | step :: rest =>
    let (next, result, sent) := s.step step
    let (last, results) := next.run rest
    (last, (result, sent, next) :: results)

end Session
end ReplyStage
