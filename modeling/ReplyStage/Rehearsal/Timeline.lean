import ReplyStage.Rehearsal.Session
import ReplyStage.Stage.Shared
/-!
# Rehearsing many callers

Several callers use a stage at a time, each at its own moment. A caller goes on when a timer of its
own fires or when it comes to hold the lock; callers that can go on at the same millisecond do so
in the order in which their timers were set. The clock moves to the next timer when nobody can go
on.
-/

namespace ReplyStage

/-- What a caller does. -/
inductive CallerTask
  | process (errand : Errand)
  | close

/-- A caller and the millisecond at which it comes. -/
structure Caller where
  start : Nat
  task : CallerTask

namespace Caller

/-- What the caller asks of the stage. -/
def call (c : Caller) : Call Transport :=
  match c.task with
  | .process errand => .process errand.record (errand.deadline.map Duration.ofMillis)
  | .close => .close

/-- When the caller gives up. -/
def cancel (c : Caller) : Option Nat :=
  match c.task with
  | .process errand => errand.cancel
  | .close => none

/-- What comes back for the caller's request. -/
def respond (c : Caller) (request : Request) : Response :=
  match c.task with
  | .process errand => errand.script.respond request
  | .close => .never

end Caller

/-- How the request of a caller ends. -/
structure Ending where
  millis : Nat
  result : Except StageError Record

/-- A stage and its callers at some millisecond: the timers in the order in which they were set,
the callers that can go on, and what is known of each caller. -/
structure Timeline where
  callers : List Caller
  shared : Shared Transport
  now : Nat := 0
  timers : List (Nat × Nat) := []
  ready : List Nat := []
  ending : Nat → Option Ending := fun _ => none
  finished : Nat → Nat := fun _ => 0

namespace Timeline

/-- The clock as the stage sees it. -/
def time (t : Timeline) : Duration := .ofMillis t.now

/-- Sets a timer of a caller. -/
def setTimer (t : Timeline) (millis id : Nat) : Timeline :=
  { t with timers := t.timers ++ [(millis, id)] }

/-- Takes over a step of the stage; those whom it admits can go on. -/
def take (t : Timeline) (id : Nat) (s : Shared Transport × List Nat) : Timeline :=
  { t with shared := s.1, ready := t.ready ++ s.2.filter (· ≠ id) }

/-- Whether a caller is done. -/
def isFinished (t : Timeline) (id : Nat) : Bool :=
  match t.shared.phase id with
  | .finished _ => true
  | _ => false

/-- A caller with the lock runs. If it sends a request, the end of the request gets a timer. A
transport is closed at once. -/
def runCaller (t : Timeline) (id : Nat) (c : Caller) : Timeline :=
  match t.shared.phase id with
  | .admitted _ =>
    let t := t.take id (t.shared.run id t.time)
    match t.shared.phase id with
    | .underway sending _ =>
      let (millis, result) := t.shared.stage.conclude sending (c.respond sending.request)
      let ends := t.now + millis
      { t with ending := fun i => if i = id then some ⟨ends, result⟩ else t.ending i }.setTimer
        ends id
    | .closing _ => t.take id (t.shared.endClose id)
    | _ => t
  | _ => t

/-- A caller whose request has ended takes the result. -/
def settleCaller (t : Timeline) (id : Nat) : Timeline :=
  match t.ending id with
  | some ending =>
    if ending.millis ≤ t.now then t.take id (t.shared.settle id t.time ending.result) else t
  | none => t

/-- A caller that is not done gives up, if it is time for it. -/
def cancelCaller (t : Timeline) (id : Nat) (c : Caller) : Timeline :=
  match c.cancel with
  | some cancel =>
    if cancel ≤ t.now ∧ ¬ t.isFinished id then t.take id (t.shared.cancel id) else t
  | none => t

/-- A caller that is done notes the time. -/
def noteFinished (before after : Timeline) (id : Nat) : Timeline :=
  if ¬ before.isFinished id ∧ after.isFinished id then
    { after with finished := fun i => if i = id then after.now else after.finished i }
  else after

/-- A caller that has come goes on. -/
def goOn (t : Timeline) (id : Nat) (c : Caller) : Timeline :=
  -- a result that is there in the millisecond of giving up still counts
  t.noteFinished ((((t.runCaller id c).settleCaller id).cancelCaller id c)) id

/-- A caller comes: it asks for the lock, goes on and sets a timer for giving up. -/
def come (t : Timeline) (id : Nat) (c : Caller) : Timeline :=
  let t := (t.take id (t.shared.arrive id c.call)).goOn id c
  match c.cancel with
  | some cancel => if t.isFinished id then t else t.setTimer cancel id
  | none => t

/-- A caller goes on, or waits until it comes. -/
def poll (t : Timeline) (id : Nat) : Timeline :=
  match t.callers[id]? with
  | none => t
  | some c =>
    match t.shared.phase id with
    | .idle => if c.start ≤ t.now then t.come id c else t.setTimer c.start id
    | _ => t.goOn id c

/-- The millisecond of the next timer. -/
def nextTimer? (timers : List (Nat × Nat)) : Option Nat := (timers.map Prod.fst).min?

/-- The next caller goes on, or else the clock moves. None when all is over. -/
def step (t : Timeline) : Option Timeline :=
  match t.ready with
  | id :: ready => some ({ t with ready }.poll id)
  | [] =>
    match nextTimer? t.timers with
    | none => none
    | some now =>
      -- timers of one millisecond go off in the order in which they were set
      let (due, timers) := t.timers.partition fun timer => timer.1 = now
      some { t with now := max now t.now, timers, ready := due.map Prod.snd }

/-- Steps until all is over, but not more than `fuel`. -/
def steps : Nat → Timeline → Timeline
  | 0, t => t
  | fuel + 1, t =>
    match t.step with
    | some t => steps fuel t
    | none => t

/-- The beginning: all callers can go on. -/
def begin (stage : Stage) (transport : Transport) (callers : List Caller) : Timeline :=
  { callers
    shared := { stage, headersSupported := Transport.headersSupported,
                connection := .connected transport }
    ready := List.range callers.length }

/-- The end. A caller comes to go on five times at most and sets three timers. -/
def run (stage : Stage) (transport : Transport) (callers : List Caller) : Timeline :=
  steps (8 * callers.length + 1) (begin stage transport callers)

/-- The request that a caller sent. -/
def sentBy (t : Timeline) (id : Nat) : Option SentAt :=
  t.shared.history.findSome? fun (time, h) =>
    match h with
    | .sent sender sending =>
      if sender = id then some ⟨time.ceilMillis, sending.request, sending.timeout⟩ else none
    | _ => none

/-- What came of a caller's task. -/
def resultOf (t : Timeline) (id : Nat) : StepResult :=
  match t.shared.phase id with
  | .finished (.record r) => .record r
  | .finished (.failed e) => .failed e
  | .finished .done => .closed
  | _ => .cancelled

/-- The transports that were closed, and when. -/
def closes (t : Timeline) : List (Nat × Transport) :=
  t.shared.history.filterMap fun (time, h) =>
    match h with
    | .released _ transport => some (time.ceilMillis, transport)
    | _ => none

end Timeline
end ReplyStage
