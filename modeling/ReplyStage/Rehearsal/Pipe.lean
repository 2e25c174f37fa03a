import ReplyStage.Pipe.Pump
import ReplyStage.Rehearsal.Session
/-!
# Rehearsing the pipe

The pump runs over an input with scripts in place of a server. Reading takes no time; the clock
moves to the end of the next request, or to the shutdown, when the pump has to wait.
-/

namespace ReplyStage

/-- The end of a request under way: when, with which result and after how many milliseconds. -/
structure Flight where
  ends : Nat
  millis : Nat
  result : Except StageError Record

/-- How the pipe ended. -/
inductive PipeEnd
  | finished (dropped : Nat)
  | unreadable (fault : Text.Utf8.Malformed)
  | unwritable (message : String)
  | unfinished
  deriving DecidableEq, Repr

/-- What the pipe runs with: the stage and its connection, what comes back for a request when some
requests were sent before it, how many requests may be under way, when the pipe is told to stop,
and what goes wrong with a write when some replies were written before it. -/
structure PipeSetting where
  stage : Stage
  connection : Connection Transport
  respond : Nat → Request → Response
  concurrency : Nat
  shutdown : Option Nat := none
  writeFault? : Nat → Option String := fun _ => none

/-- The pump with its clock: for each request under way its end until the result is there, the
requests that were sent, the errors in the order of their lines, and the counts. -/
structure PipeRun where
  setting : PipeSetting
  pump : Pump
  now : Nat := 0
  flights : List (Option Flight) := []
  seen : List SentAt := []
  failures : List StageError := []
  metrics : Metrics

namespace PipeRun

/-- Starts the request of a line. -/
def launch (r : PipeRun) (line : Bytes) (pump : Pump) : PipeRun :=
  let p := r.setting.stage.process Transport.headersSupported
    (fun sending => r.setting.respond r.seen.length sending.request)
    r.setting.connection (.ofPayload line) none (.ofMillis r.now)
  let sent := p.sent.map fun sending => ⟨r.now, sending.request, sending.timeout⟩
  { r with
    pump
    flights := r.flights ++ [some ⟨r.now + p.millis, p.millis, p.result⟩]
    seen := r.seen ++ sent.toList
    metrics := r.metrics.recordAll (sent.map fun _ => .sent).toList }

/-- Hands over the results of the requests that have ended, from the place `place` of the queue
on. -/
def landFrom (r : PipeRun) (place : Nat) : List (Option Flight) → PipeRun
  | [] => r
  | none :: rest => landFrom r (place + 1) rest
  | some f :: rest =>
    if f.ends ≤ r.now then
      landFrom
        { r with
          pump := r.pump.complete place f.result
          flights := r.flights.set place none
          metrics := r.metrics.record (.ofResult f.millis f.result) }
        (place + 1) rest
    else landFrom r (place + 1) rest

/-- Hands over the results of the requests that have ended. -/
def land (r : PipeRun) : PipeRun := r.landFrom 0 r.flights

/-- Whether the shutdown has come. -/
def isShutDown (r : PipeRun) : Bool := r.setting.shutdown.any (· ≤ r.now)

/-- The next moment at which something comes. -/
def nextMoment? (r : PipeRun) : Option Nat :=
  ((r.flights.filterMap fun f => f.map Flight.ends) ++ r.setting.shutdown.toList).min?

/-- One turn of the pump, or a move of the clock. Gives the end when it has come. -/
def step (r : PipeRun) : PipeRun × Option PipeEnd :=
  -- the pump looks for the shutdown first, so a result that comes with it is not taken
  let r := if r.isShutDown then r else r.land
  let fault := r.setting.writeFault? r.pump.replied
  match r.pump.turn r.setting.concurrency r.isShutDown, fault with
  | .stop _, some message => (r, some (.unwritable message))
  | .stop dropped, none => (r, some (.finished dropped))
  | .unreadable fault, _ => (r, some (.unreadable fault))
  | .settled (.ok _) _, some message => (r, some (.unwritable message))
  | .settled (.ok _) pump, none => ({ r with pump, flights := r.flights.drop 1 }, none)
  | .settled (.error e) pump, _ =>
    ({ r with pump, flights := r.flights.drop 1, failures := r.failures ++ [e] }, none)
  | .launched line pump, _ => (r.launch line pump, none)
  | .passed pump, _ => ({ r with pump }, none)
  | .wait, _ =>
    match r.nextMoment? with
    | some now => ({ r with now }, none)
    | none => (r, some .unfinished)

/-- Runs until the pipe ends, but not longer than `fuel` steps. -/
def steps : Nat → PipeRun → PipeRun × PipeEnd
  | 0, r => (r, .unfinished)
  | fuel + 1, r =>
    match r.step with
    | (r, none) => steps fuel r
    | (r, some ending) => (r, ending)

/-- The pipe at the beginning of its input. -/
def begin (setting : PipeSetting) (input : Bytes) : PipeRun :=
  { setting, pump := .ofInput input, metrics := .ofStage setting.stage.label }

/-- The end of the pipe. Each line is read once, settled once and waited for once. -/
def run (r : PipeRun) : PipeRun × PipeEnd := steps (4 * r.pump.unread.length + 8) r

end PipeRun
end ReplyStage
