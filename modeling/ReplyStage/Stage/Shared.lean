import ReplyStage.Connection.Lock
import ReplyStage.Stage.Process
/-!
# A stage with many callers

Several calls on one stage at a time. Every call first takes the lock on the connection: records
are processed with the lock shared, storing a transport and closing take it alone. A call runs
through phases, each step of which is one function here; the steps of several calls may come in any
order. A request takes its time, and so does closing a transport: the call goes on holding the lock
until the end. What happened outside of the calls is kept in order: requests sent, results and
transports that were to be closed.
-/

namespace ReplyStage

/-- What is asked of a stage. What opening a transport comes to is known when it is asked for. -/
inductive Call (τ : Type)
  | process (record : Record) (deadline : Option Duration)
  | connect (opened : Except StageError τ)
  | close

/-- How a call holds the lock. -/
def Call.access {τ : Type} : Call τ → Access
  | .process _ _ => .shared
  | .connect _ | .close => .exclusive

/-- What came of a call. -/
inductive Outcome
  | record (r : Record)
  | done
  | failed (e : StageError)
  | cancelled
  deriving DecidableEq, Repr

/-- How far a call is. -/
inductive Phase (τ : Type)
  | idle
  /-- in the queue of the lock -/
  | waiting (call : Call τ)
  /-- with the lock, about to run -/
  | admitted (call : Call τ)
  /-- with the lock and a request that waits for its answer since some time -/
  | underway (sending : Sending τ) (since : Duration)
  /-- with the lock, until the transport is closed -/
  | closing (transport : τ)
  | finished (outcome : Outcome)

/-- Something that happened at a stage, with the call it belongs to. -/
inductive Happening (τ : Type)
  | sent (id : Nat) (sending : Sending τ)
  | replied (id : Nat) (elapsed : Duration)
  | failed (id : Nat) (e : StageError)
  | released (id : Nat) (transport : τ)
  deriving DecidableEq, Repr

/-- What is counted of it. -/
def Happening.metric? {τ : Type} : Happening τ → Option MetricEvent
  | .sent _ _ => some .sent
  | .replied _ elapsed => some (.replied elapsed)
  | .failed _ e => some (.failed e.kind)
  | .released _ _ => none

/-- A stage and the calls on it. Whether headers are supported is fixed for each transport: a server
that answers anew whenever it is asked, and changes its answer while one transport lives, is not
among these. -/
structure Shared (τ : Type) where
  stage : Stage
  headersSupported : τ → Bool
  connection : Connection τ
  lock : Lock := {}
  phase : Nat → Phase τ := fun _ => .idle
  history : List (Duration × Happening τ) := []

namespace Shared

variable {τ : Type}

/-- Puts a call into a phase. -/
def setPhase (s : Shared τ) (id : Nat) (p : Phase τ) : Shared τ :=
  { s with phase := fun i => if i = id then p else s.phase i }

/-- Notes that something happened at the time `now`. -/
def note (s : Shared τ) (now : Duration) (h : Happening τ) : Shared τ :=
  { s with history := s.history ++ [(now, h)] }

/-- A call that waits comes to hold the lock. -/
def letIn (s : Shared τ) (id : Nat) : Shared τ :=
  match s.phase id with
  | .waiting call => s.setPhase id (.admitted call)
  | _ => s

/-- Takes over a lock and those whom it admits. -/
def withLock (s : Shared τ) (l : Lock × List Nat) : Shared τ × List Nat :=
  (l.2.foldl letIn { s with lock := l.1 }, l.2)

/-- A call comes and asks for the lock. Gives the calls that come to hold it. -/
def arrive (s : Shared τ) (id : Nat) (call : Call τ) : Shared τ × List Nat :=
  (s.setPhase id (.waiting call)).withLock (s.lock.ask id call.access)

/-- A call ends and gives the lock back. Gives the calls that come to hold it. -/
def finish (s : Shared τ) (id : Nat) (outcome : Outcome) : Shared τ × List Nat :=
  (s.setPhase id (.finished outcome)).withLock (s.lock.leave id)

/-- A call to process a record ends with a result at the time `now`. -/
def finishResult (s : Shared τ) (id : Nat) (now elapsed : Duration) :
    Except StageError Record → Shared τ × List Nat
  | .ok record => (s.note now (.replied id elapsed)).finish id (.record record)
  | .error e => (s.note now (.failed id e)).finish id (.failed e)

/-- A call stores the transport it opened. -/
def connect (s : Shared τ) (id : Nat) (opened : Except StageError τ) : Shared τ × List Nat :=
  match s.connection.connect opened with
  | .ok connection => { s with connection }.finish id .done
  | .error e => s.finish id (.failed e)

/-- A call closes the connection, and begins to close the transport it holds. -/
def close (s : Shared τ) (id : Nat) (now : Duration) : Shared τ × List Nat :=
  let closed := { s with connection := Connection.closed }
  match s.connection.held? with
  | some transport => ((closed.setPhase id (.closing transport)).note now (.released id transport), [])
  | none => closed.finish id .done

/-- A call with the lock runs at the time `now`. -/
def run (s : Shared τ) (id : Nat) (now : Duration) : Shared τ × List Nat :=
  match s.phase id with
  | .admitted (.process record deadline) =>
    match s.stage.start s.headersSupported s.connection record deadline now with
    | .error e => s.finishResult id now .zero (.error e)
    | .ok sending => ((s.setPhase id (.underway sending now)).note now (.sent id sending), [])
  | .admitted (.connect opened) => s.connect id opened
  | .admitted .close => s.close id now
  | _ => (s, [])

/-- The request of a call ends at the time `now`. -/
def settle (s : Shared τ) (id : Nat) (now : Duration) (result : Except StageError Record) :
    Shared τ × List Nat :=
  match s.phase id with
  | .underway _ since => s.finishResult id now ⟨now.nanos - since.nanos⟩ result
  | _ => (s, [])

/-- The transport that a call closes is closed. -/
def endClose (s : Shared τ) (id : Nat) : Shared τ × List Nat :=
  match s.phase id with
  | .closing _ => s.finish id .done
  | _ => (s, [])

/-- A call that has not ended is dropped. -/
def cancel (s : Shared τ) (id : Nat) : Shared τ × List Nat :=
  match s.phase id with
  | .waiting _ | .admitted _ | .underway _ _ | .closing _ => s.finish id .cancelled
  | .idle | .finished _ => (s, [])

/-- The counts of the stage. -/
def metrics (s : Shared τ) : Metrics :=
  (Metrics.ofStage s.stage.label).recordAll (s.history.filterMap fun h => h.2.metric?)

end Shared
end ReplyStage
