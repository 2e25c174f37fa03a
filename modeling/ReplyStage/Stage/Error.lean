import ReplyStage.Duration.Reader
import ReplyStage.ServerAddress
import ReplyStage.Template.Basic
/-!
# Errors of the stage

What can go wrong while the stage is set up or processes a record. An error is transient when the
same record may succeed later, and permanent otherwise; the stage itself never tries again.
-/

namespace ReplyStage

/-- Why the environment does not give a setting. -/
inductive SettingError
  | missing (key : String)
  | unreadable (key details : String)
  | invalid (key details : String)
  deriving DecidableEq, Repr

/-- The sentence that reports the error. -/
def SettingError.message : SettingError → String
  | .missing key => s!"Environment variable '{key}' is required but not set"
  | .unreadable key details => s!"Failed to parse environment variable '{key}': {details}"
  | .invalid key details => s!"Invalid configuration for '{key}': {details}"

/-- Why a credentials file gives no credentials. -/
inductive CredentialsError
  | notFound
  | isDirectory
  | noCredentials
  deriving DecidableEq, Repr

/-- The sentence that reports the error for the file at a path. -/
def CredentialsError.message (path : String) : CredentialsError → String
  | .notFound => s!"loading creds file '{path}': No such file or directory (os error 2)"
  | .isDirectory => s!"loading creds file '{path}': Is a directory (os error 21)"
  | .noCredentials => "cannot parse user JWT from the credentials file"

/-- What is wrong with a configuration. -/
inductive SettingsFault
  | setting (e : SettingError)
  | badUrl (url : String) (e : AddressError)
  | subjectMissing
  | badSubject (e : TemplateError)
  | headerNameBlank
  | badHeader (name : String) (e : TemplateError)
  | badPattern (pattern : String)
  | badTimeout (timeout : String) (e : DurationError)
  | zeroTimeout
  | credentials (path : String) (e : CredentialsError)
  | other (message : String)
  deriving DecidableEq, Repr

/-- The sentence that reports the fault. For a pattern it ends with the pattern: what is wrong with
it, which would follow after a colon, is left out. -/
def SettingsFault.message : SettingsFault → String
  | .setting e => e.message
  | .badUrl url e => s!"invalid NATS url '{url}': {e.message}"
  | .subjectMissing => "subject is required"
  | .badSubject e => s!"subject: {e.message}"
  | .headerNameBlank => "header names must not be empty"
  | .badHeader name e => s!"header {name}: {e.message}"
  | .badPattern pattern => s!"invalid metadata include pattern '{pattern}'"
  | .badTimeout timeout e => s!"invalid timeout '{timeout}': {e.message}"
  | .zeroTimeout => "timeout must be greater than zero"
  | .credentials path e => s!"failed to load credentials file '{path}': {e.message path}"
  | .other message => message

/-- Why a reply makes no record. -/
inductive ConversionFault
  | tooLarge (size limit : Nat)
  | other (message : String)
  deriving DecidableEq, Repr

/-- The sentence that reports the fault. -/
def ConversionFault.message : ConversionFault → String
  | .tooLarge size limit => s!"reply payload of {size} bytes exceeds the {limit} byte limit"
  | .other message => message

/-- Why the stage cannot be set up, or gives no reply for a record. -/
inductive StageError
  /-- a configuration that cannot work -/
  | config (fault : SettingsFault)
  /-- no connection, or a connection that could not carry a request -/
  | connection (message : String)
  /-- no subject for the record -/
  | template (e : TemplateError)
  /-- no value of a header for the record -/
  | headerTemplate (name : String) (e : TemplateError)
  /-- no reply in time -/
  | timeout (subject : String) (after : Duration)
  /-- nobody listens on the subject -/
  | noResponders (subject : String)
  /-- a reply that makes no record -/
  | conversion (fault : ConversionFault)
  /-- no connection is open any more, or yet -/
  | closed
  deriving DecidableEq, Repr

/-- Whether the same record may succeed later. -/
inductive Category
  | transient
  | permanent
  deriving DecidableEq, Repr

/-- The name of a category. -/
def Category.name : Category → String
  | .transient => "transient"
  | .permanent => "permanent"

namespace StageError

/-- The category of an error. -/
def category : StageError → Category
  | .timeout _ _ | .noResponders _ | .connection _ => .transient
  | .config _ | .template _ | .headerTemplate _ _ | .conversion _ | .closed => .permanent

def isTransient (e : StageError) : Bool := e.category = .transient

/-- The label of an error in logs and metrics. -/
def kind : StageError → String
  | .config _ => "config"
  | .connection _ => "connection"
  | .template _ | .headerTemplate _ _ => "template"
  | .timeout _ _ => "timeout"
  | .noResponders _ => "no_responders"
  | .conversion _ => "conversion"
  | .closed => "closed"

/-- The sentence that reports the error. -/
def message : StageError → String
  | .config fault => s!"Configuration error: {fault.message}"
  | .connection message => s!"NATS connection error: {message}"
  | .template e => s!"Subject interpolation error: {e.message}"
  | .headerTemplate name e => s!"header {name} interpolation error: {e.message}"
  | .timeout subject after => s!"Request to '{subject}' timed out after {after.display}"
  | .noResponders subject => s!"No responders available for subject '{subject}'"
  | .conversion fault => s!"Reply conversion error: {fault.message}"
  | .closed => "Request/reply processor is closed"

/-- The template's error behind an error, if there is one. -/
def source? : StageError → Option TemplateError
  | .template e | .headerTemplate _ e => some e
  | _ => none

end StageError
end ReplyStage
