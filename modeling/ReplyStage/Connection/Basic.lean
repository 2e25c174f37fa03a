import ReplyStage.Log.Basic
import ReplyStage.Stage.Error
/-!
# The connection of a stage

A stage has one connection, which is opened once and closed once: from unconnected to connected to
closed, or straight to closed, and never back. Closing hands out the transport that was held, for
its owner to release.
-/

namespace ReplyStage

/-- The connection of a stage, over some kind of transport. -/
inductive Connection (τ : Type)
  | unconnected
  | connected (transport : τ)
  | closed
  deriving DecidableEq, Repr

namespace Connection

variable {τ : Type}

/-- Stores what opening a transport gave, unless the connection is closed. -/
def connect (c : Connection τ) (opened : Except StageError τ) : Except StageError (Connection τ) :=
  match c with
  | .closed => .error .closed
  | .unconnected | .connected _ => opened.map .connected

/-- Stores a transport that is open already. -/
def install (c : Connection τ) (transport : τ) : Except StageError (Connection τ) :=
  c.connect (.ok transport)

/-- The transport to send with. -/
def acquire : Connection τ → Except StageError τ
  | .connected transport => .ok transport
  | .unconnected | .closed => .error .closed

def isConnected : Connection τ → Bool
  | .connected _ => true
  | .unconnected | .closed => false

def isClosed : Connection τ → Bool
  | .closed => true
  | .unconnected | .connected _ => false

/-- The transport that is held. -/
def held? : Connection τ → Option τ
  | .connected transport => some transport
  | .unconnected | .closed => none

end Connection

/-! ## A history of operations -/

/-- What can be asked of a connection. What opening a transport comes to, and whether closing it
fails, is known when it is asked for. -/
inductive ConnectionOp (τ : Type)
  | connect (opened : Except StageError τ)
  | install (transport : τ)
  | acquire
  | isConnected
  | close (failure : Option StageError := none)

/-- A connection with what was done for it, all in order: the openings of transports with what they
came to, the transports that were closed, and the log. -/
structure ManagedConnection (τ : Type) where
  connection : Connection τ := .unconnected
  opened : List (Except StageError τ) := []
  released : List τ := []
  log : List LogEvent := []

namespace ManagedConnection

variable {τ : Type}

/-- The event of a transport that cannot be closed properly. -/
def closeFailedEvent (e : StageError) : LogEvent :=
  ⟨.warn, "nats_request_reply::connection", "Error while closing NATS connection",
    [("error", .string e.message)]⟩

/-- The event of a transport that is closed. -/
def closedEvent : LogEvent :=
  ⟨.debug, "nats_request_reply::connection", "NATS connection closed", []⟩

/-- Takes over a connection if there is one. -/
def adopt (m : ManagedConnection τ) (next : Except StageError (Connection τ)) :
    ManagedConnection τ × Except StageError (Option τ) :=
  match next with
  | .ok connection => ({ m with connection }, .ok none)
  | .error e => (m, .error e)

/-- Opens a transport and stores it. A closed connection refuses before anything is opened. -/
def connect (m : ManagedConnection τ) (opened : Except StageError τ) :
    ManagedConnection τ × Except StageError (Option τ) :=
  let asked := if m.connection.isClosed then m else { m with opened := m.opened ++ [opened] }
  asked.adopt (m.connection.connect opened)

/-- Closes the connection and the transport it holds. That closing fails is only logged. -/
def close (m : ManagedConnection τ) (failure : Option StageError) : ManagedConnection τ :=
  match m.connection.held? with
  | none => { m with connection := .closed }
  | some transport =>
    { m with
      connection := .closed
      released := m.released ++ [transport]
      log := m.log ++ (failure.map closeFailedEvent).toList ++ [closedEvent] }

/-- The effect of an operation, and its answer: the transport for those who acquire it or look
whether there is one. -/
def apply (m : ManagedConnection τ) :
    ConnectionOp τ → ManagedConnection τ × Except StageError (Option τ)
  | .connect opened => m.connect opened
  | .install transport => m.adopt (m.connection.install transport)
  | .acquire => (m, m.connection.acquire.map some)
  | .isConnected => (m, .ok m.connection.held?)
  | .close failure => (m.close failure, .ok none)

/-- The state after operations in order. -/
def run (m : ManagedConnection τ) (ops : List (ConnectionOp τ)) : ManagedConnection τ :=
  ops.foldl (fun m op => (m.apply op).1) m

end ManagedConnection
end ReplyStage
