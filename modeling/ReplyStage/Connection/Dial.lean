import ReplyStage.Connection.Basic
import ReplyStage.Log.Basic
import ReplyStage.Settings.Connection
/-!
# Opening a connection

What happens before and while a connection is opened: the server addresses are read, then the
credentials file, and only then the network is used. That the network is about to be used is
logged, and so is a connection that opened.
-/

namespace ReplyStage

/-- What lies outside: what is wrong with the credentials at a path, and what the network gives
for servers. -/
structure Surroundings (τ : Type) where
  credentialsFault? : String → Option CredentialsError
  reach : List ServerAddress → ConnectionSettings → Except String τ

/-- Reads the credentials file, if there is one. -/
def checkCredentials {τ : Type} (s : Surroundings τ) (c : ConnectionSettings) :
    Except SettingsFault Unit :=
  match c.auth.credentialsFile with
  | none => .ok ()
  | some path =>
    match s.credentialsFault? path with
    | none => .ok ()
    | some e => .error (.credentials path e)

/-- The event before the network is used. -/
def connectingEvent (c : ConnectionSettings) : LogEvent :=
  ⟨.info, "nats_request_reply::connection", "Connecting to NATS",
    [("servers", .string c.serverText), ("name", .string c.name), ("tls", .bool c.tls.enabled)]⟩

/-- The event after a connection opened. -/
def connectedEvent (c : ConnectionSettings) (headersSupported : Bool) : LogEvent :=
  ⟨.info, "nats_request_reply::connection", "Connected to NATS",
    [("name", .string c.name), ("headers", .bool headersSupported)]⟩

/-- Opens a connection. Gives what was logged and the transport. -/
def dial {τ : Type} (s : Surroundings τ) (headersSupported : τ → Bool) (c : ConnectionSettings) :
    List LogEvent × Except StageError τ :=
  match c.addresses with
  | .error fault => ([], .error (.config fault))
  | .ok addresses =>
    match checkCredentials s c with
    | .error fault => ([], .error (.config fault))
    | .ok () =>
      match s.reach addresses c with
      | .error message => ([connectingEvent c], .error (.connection message))
      | .ok transport =>
        ([connectingEvent c, connectedEvent c (headersSupported transport)], .ok transport)

end ReplyStage
