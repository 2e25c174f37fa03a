import ReplyStage.Connection.Basic
import ReplyStage.Connection.Dial
import ReplyStage.Stage.Basic
/-!
# Connecting a stage

A stage is set up before its connection is opened, so settings that cannot work are reported
without any use of the network. A stage can also be set up over a transport that is open already.
-/

namespace ReplyStage.Stage

/-- The event of a stage that is connected. -/
def readyEvent (s : Stage) : LogEvent :=
  ⟨.info, "nats_request_reply::processor", "Request/reply processor ready",
    [("stage", .string s.label), ("subject", .string s.subject.template.source),
      ("timeout", .string s.timeout.display)]⟩

/-- The event of a stage that is closed. -/
def closedEvent (s : Stage) : LogEvent :=
  ⟨.info, "nats_request_reply::processor", "Request/reply processor closed",
    [("stage", .string s.label)]⟩

/-- Sets up a stage over a transport that is open already. -/
def withTransport {τ : Type} (c : StageSettings) (transport : τ) :
    Except StageError (Stage × Connection τ) := do
  let stage ← ofSettings c
  let connection ← Connection.unconnected.install transport
  return (stage, connection)

/-- Sets up a stage and opens its connection. Gives what was logged, and the stage with its
transport. -/
def connect {τ : Type} (s : Surroundings τ) (headersSupported : τ → Bool) (c : StageSettings) :
    List LogEvent × Except StageError (Stage × τ) :=
  match ofSettings c with
  | .error e => ([], .error e)
  | .ok stage =>
    match dial s headersSupported c.connection with
    | (log, .error e) => (log, .error e)
    | (log, .ok transport) => (log ++ [stage.readyEvent], .ok (stage, transport))

end ReplyStage.Stage
