import ReplyStage.Settings.Stage
/-!
# Settings in environment variables

Reading settings from the environment of a process. A variable that holds no text counts as unset,
and so does a blank one wherever a value is optional.
-/

namespace ReplyStage

/-- The variables of a process that hold text. -/
structure Environment where
  bindings : Dict String
  deriving DecidableEq, Repr, Inhabited

namespace Environment

/-- The environment of variables with the bytes they hold. -/
def ofBytes (held : List (String × Bytes)) : Environment :=
  ⟨.ofList <| held.filterMap fun (key, bytes) =>
    (Text.Utf8.decode bytes).toOption.map fun text => (key, text)⟩

/-- The text of a variable. -/
def text? (env : Environment) (key : String) : Option String := env.bindings.get? key

/-- The text of a variable, or a default. -/
def orDefault (env : Environment) (key default : String) : String := (env.text? key).getD default

/-- The text of a variable that has to be set. -/
def required (env : Environment) (key : String) : Except SettingError String :=
  match env.text? key with
  | some value => .ok value
  | none => .error (.missing key)

/-- The text of a variable that may be missing or blank. -/
def optional (env : Environment) (key : String) : Option String :=
  (env.text? key).filter fun value => !Text.isBlankText value

/-- The items of a variable. -/
def items (env : Environment) (key : String) (separator : Char) : List String :=
  match env.optional key with
  | some value => Text.items separator value
  | none => []

/-- The truth value that a word stands for, in lower case. -/
def truth? (word : String) : Option Bool :=
  if word ∈ ["true", "1", "yes", "on"] then some true
  else if word ∈ ["false", "0", "no", "off"] then some false
  else none

/-- The truth value of a variable, or a default. -/
def flag (env : Environment) (key : String) (default : Bool) : Except SettingError Bool :=
  match env.optional key with
  | none => .ok default
  | some value =>
    let word := (Text.trim value).map Char.toLower
    match truth? word with
    | some b => .ok b
    | none => .error (.unreadable key s!"'{word}' is not a boolean")

/-- A number of a variable, as it is written there. -/
def number (key : String) (bound : Nat) (text : String) : Except SettingError Nat :=
  (Text.readNat bound text).mapError fun e => .unreadable key e.message

end Environment

/-- Where a process runs. -/
inductive Deployment
  | development
  | production
  deriving DecidableEq, Repr

namespace Deployment

/-- The deployment that the environment names. -/
def ofEnvironment (env : Environment) : Deployment :=
  if (env.orDefault "APP_ENV" "development").map Char.toLower = "production" then .production
  else .development

/-- Whether it is the production deployment. -/
def isProduction (d : Deployment) : Bool := d = .production

/-- Whether it is the development deployment. -/
def isDevelopment (d : Deployment) : Bool := d = .development

/-- The name of a deployment in the log. -/
def name : Deployment → String
  | .development => "Development"
  | .production => "Production"

end Deployment

namespace ConnectionSettings

/-- The server addresses in the environment. -/
def urlsOf (env : Environment) : List String :=
  match env.items "NATS_URLS" ',' with
  | [] => [env.orDefault "NATS_URL" defaultUrl]
  | urls => urls

/-- The connection settings in the environment, not yet checked. -/
def read (env : Environment) : Except SettingError ConnectionSettings := do
  let enabled ← env.flag "NATS_TLS_ENABLED" false
  return {
    urls := urlsOf env
    name := env.orDefault "NATS_CONNECTION_NAME" defaultName
    inboxPrefix := env.optional "NATS_INBOX_PREFIX"
    tls := {
      enabled
      rootCertificates := env.items "NATS_TLS_ROOT_CAS" ','
      clientCertificate := env.optional "NATS_TLS_CLIENT_CERT"
      clientKey := env.optional "NATS_TLS_CLIENT_KEY" }
    auth := {
      user := env.optional "NATS_USER"
      password := env.optional "NATS_PASSWORD"
      token := env.optional "NATS_TOKEN"
      nkey := env.optional "NATS_NKEY"
      credentialsFile := env.optional "NATS_CREDENTIALS_FILE" } }

/-- The connection settings in the environment. -/
def ofEnvironment (env : Environment) : Except SettingError ConnectionSettings := do
  let config ← read env
  config.validate
  return config

end ConnectionSettings

namespace StageSettings

/-- Reads one header, a name and a template with an equals sign between them. -/
def readHeader (pair : String) : Except SettingError (String × String) :=
  match Text.splitFirst? '=' pair with
  | some (name, template) => .ok (Text.trim name, Text.trim template)
  | none =>
    .error (.unreadable "REQUEST_REPLY_HEADERS" s!"expected Name=template, got '{pair}'")

/-- Reads headers in order; the first that is none is the error. -/
def readHeaders : List String → Except SettingError (List (String × String))
  | [] => .ok []
  | pair :: rest =>
    match readHeader pair with
    | .error e => .error e
    | .ok header => (readHeaders rest).map (header :: ·)

/-- The size limit of replies in the environment. -/
def maxReplyBytesOf (env : Environment) : Except SettingError (Option Nat) :=
  match env.optional "REQUEST_REPLY_MAX_REPLY_BYTES" with
  | none => .ok none
  | some text =>
    (Environment.number "REQUEST_REPLY_MAX_REPLY_BYTES" Text.maxWord (Text.trim text)).map some

/-- The stage settings in the environment. -/
def ofEnvironment (env : Environment) : Except SettingError StageSettings := do
  let connection ← ConnectionSettings.ofEnvironment env
  let subject ← env.required "REQUEST_REPLY_SUBJECT"
  let headers ← readHeaders (env.items "REQUEST_REPLY_HEADERS" ';')
  let maxReplyBytes ← maxReplyBytesOf env
  return {
    connection
    subject
    headers := .ofList headers
    forwarded := {
      includePrefixes := env.items "REQUEST_REPLY_METADATA_PREFIXES" ','
      includePatterns := env.items "REQUEST_REPLY_METADATA_PATTERNS" ',' }
    timeout := env.orDefault "REQUEST_REPLY_TIMEOUT" defaultTimeout
    maxReplyBytes }

end StageSettings

/-- The settings of the pipe: how many requests may be under way at a time, and the port on which
metrics are served, if they are. -/
structure PipeSettings where
  concurrency : Nat := 16
  metricsPort : Option Nat := none
  deriving DecidableEq, Repr

namespace PipeSettings

/-- The number of requests that may be under way, which is not zero. -/
def concurrencyOf (env : Environment) : Except SettingError Nat := do
  let value ← Environment.number "REQUEST_REPLY_CONCURRENCY" Text.maxWord
    (env.orDefault "REQUEST_REPLY_CONCURRENCY" "16")
  if value = 0 then throw (.invalid "REQUEST_REPLY_CONCURRENCY" "must be at least 1")
  return value

/-- The port on which metrics are served. -/
def metricsPortOf (env : Environment) : Except SettingError (Option Nat) :=
  match env.optional "METRICS_PORT" with
  | none => .ok none
  | some text => (Environment.number "METRICS_PORT" Text.maxPort text).map some

/-- The pipe settings in the environment. -/
def ofEnvironment (env : Environment) : Except SettingError PipeSettings := do
  let concurrency ← concurrencyOf env
  let metricsPort ← metricsPortOf env
  return { concurrency, metricsPort }

end PipeSettings
end ReplyStage
