import ReplyStage.Stage.Error
import ReplyStage.Text.Fields
import ReplyStage.Text.Quoted
/-!
# Connection settings

Where the message servers are and how the stage introduces itself to them. A server address may
hold several addresses with commas between them; `serverUrls` is the list that counts, and all
that use the addresses see that list.
-/

namespace ReplyStage

/-- Settings of encrypted connections; certificates are paths. -/
structure TlsSettings where
  enabled : Bool := false
  rootCertificates : List String := []
  clientCertificate : Option String := none
  clientKey : Option String := none
  deriving DecidableEq, Repr, Inhabited

/-- What the stage introduces itself with. -/
structure AuthSettings where
  user : Option String := none
  password : Option String := none
  token : Option String := none
  nkey : Option String := none
  credentialsFile : Option String := none
  deriving DecidableEq, Repr, Inhabited

/-- A secret as logs show it: whether it is set. -/
def AuthSettings.hidden (secret : Option String) : Option String := secret.map fun _ => "***"

/-- The form in which logs show what the stage introduces itself with. -/
def AuthSettings.display (a : AuthSettings) : String :=
  let fields := [
    s!"user: {Text.quoted? a.user}",
    s!"password: {Text.quoted? (AuthSettings.hidden a.password)}",
    s!"token: {Text.quoted? (AuthSettings.hidden a.token)}",
    s!"nkey: {Text.quoted? (AuthSettings.hidden a.nkey)}",
    s!"credentials_file: {Text.quoted? a.credentialsFile}"]
  "AuthConfig \x7b " ++ ", ".intercalate fields ++ " \x7d"

/-- The server used where none is named. -/
def defaultUrl : String := "nats://127.0.0.1:4222"

/-- The name under which the stage connects where none is given. -/
def defaultName : String := "nats_request_reply"

/-- All settings of a connection. -/
structure ConnectionSettings where
  urls : List String := [defaultUrl]
  name : String := defaultName
  inboxPrefix : Option String := none
  tls : TlsSettings := {}
  auth : AuthSettings := {}
  deriving DecidableEq, Repr, Inhabited

namespace ConnectionSettings

/-- The server addresses, one by one. -/
def serverUrls (c : ConnectionSettings) : List String := c.urls.flatMap (Text.items ',')

/-- The server addresses as one text. -/
def serverText (c : ConnectionSettings) : String := Text.join ',' c.serverUrls

/-- Whether a text is given but blank. -/
def isGivenBlank : Option String → Bool
  | some s => Text.isBlankText s
  | none => false

/-- Checks what can be told without the network. -/
def validate (c : ConnectionSettings) : Except SettingError Unit :=
  if c.serverUrls = [] then .error (.invalid "urls" "at least one URL is required")
  else if isGivenBlank c.inboxPrefix then .error (.invalid "inbox_prefix" "must not be blank")
  else if c.tls.clientCertificate.isSome ≠ c.tls.clientKey.isSome then
    .error (.invalid "tls" "client_certificate and client_key must be set together")
  else if c.auth.password.isSome ∧ c.auth.user.isNone then
    .error (.invalid "auth" "password requires a user")
  else .ok ()

/-- Reads server addresses in order; the first that is none is the error. -/
def readUrls : List String → Except SettingsFault (List ServerAddress)
  | [] => .ok []
  | url :: rest =>
    match ServerAddress.ofText url with
    | .error e => .error (.badUrl url e)
    | .ok address => (readUrls rest).map (address :: ·)

/-- The addresses of the servers. -/
def addresses (c : ConnectionSettings) : Except SettingsFault (List ServerAddress) :=
  readUrls c.serverUrls

end ConnectionSettings
end ReplyStage
