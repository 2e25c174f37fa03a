import ReplyStage.Settings.Environment
/-!
# Writing settings to environment variables

The variables that settings are written to, and the environment that holds them. Lists are joined by
commas and headers by semicolons, a name and its template with an equals sign between them. Any of
the variables may be left out where its setting is the one that stands for an unset variable.
-/

namespace ReplyStage

/-- A variable for a setting: the text that is written, and whether an unset variable stands for the
same setting. -/
structure Variable where
  key : String
  text : String
  isDefault : Bool
  deriving DecidableEq, Repr

namespace Variable

/-- The variable of a text that is never missing. -/
def ofText (key default text : String) : Variable := ⟨key, text, text = default⟩

/-- The variable of a text that may be missing. -/
def ofOption (key : String) (value : Option String) : Variable :=
  ⟨key, value.getD "", value.isNone⟩

/-- The variable of a truth value. -/
def ofFlag (key : String) (value : Bool) : Variable :=
  ⟨key, if value then "true" else "false", !value⟩

/-- The variable of a list. -/
def ofItems (key : String) (separator : Char) (items default : List String) : Variable :=
  ⟨key, Text.join separator items, items = default⟩

end Variable

/-- The variables of connection settings. -/
def ConnectionSettings.toVariables (c : ConnectionSettings) : List Variable := [
  .ofItems "NATS_URLS" ',' c.urls [defaultUrl],
  .ofText "NATS_CONNECTION_NAME" defaultName c.name,
  .ofOption "NATS_INBOX_PREFIX" c.inboxPrefix,
  .ofFlag "NATS_TLS_ENABLED" c.tls.enabled,
  .ofItems "NATS_TLS_ROOT_CAS" ',' c.tls.rootCertificates [],
  .ofOption "NATS_TLS_CLIENT_CERT" c.tls.clientCertificate,
  .ofOption "NATS_TLS_CLIENT_KEY" c.tls.clientKey,
  .ofOption "NATS_USER" c.auth.user,
  .ofOption "NATS_PASSWORD" c.auth.password,
  .ofOption "NATS_TOKEN" c.auth.token,
  .ofOption "NATS_NKEY" c.auth.nkey,
  .ofOption "NATS_CREDENTIALS_FILE" c.auth.credentialsFile]

namespace StageSettings

/-- A header as it is written, a name and a template. -/
def writeHeader (header : String × String) : String := header.1 ++ "=" ++ header.2

/-- The variables of stage settings. -/
def toVariables (c : StageSettings) : List Variable := c.connection.toVariables ++ [
  ⟨"REQUEST_REPLY_SUBJECT", c.subject, false⟩,
  .ofItems "REQUEST_REPLY_HEADERS" ';' (c.headers.entries.map writeHeader) [],
  .ofItems "REQUEST_REPLY_METADATA_PREFIXES" ',' c.forwarded.includePrefixes [],
  .ofItems "REQUEST_REPLY_METADATA_PATTERNS" ',' c.forwarded.includePatterns [],
  .ofText "REQUEST_REPLY_TIMEOUT" defaultTimeout c.timeout,
  .ofOption "REQUEST_REPLY_MAX_REPLY_BYTES" (c.maxReplyBytes.map toString)]

/-- The environment that settings are written to. Of the variables that may be left out it does
without the omitted ones. -/
def toEnvironment (c : StageSettings) (omitted : String → Bool) : Environment :=
  ⟨.ofList ((c.toVariables.filter fun v => !(v.isDefault && omitted v.key)).map fun v =>
    (v.key, v.text))⟩

end StageSettings
end ReplyStage
