import ReplyStage.Filter
import ReplyStage.Settings.Connection
import ReplyStage.Template.Parser
/-!
# Stage settings

What one stage does: the connection it uses, the templates of its subject and headers, the
metadata it forwards, how long it waits for a reply and how large a reply may be. `validate`
checks all that can be told before a record arrives and gives the time to wait.
-/

namespace ReplyStage

/-- The time to wait for a reply where none is given. -/
def defaultTimeout : String := "3s"

/-- The settings of a stage. -/
structure StageSettings where
  connection : ConnectionSettings := {}
  subject : String := ""
  headers : Dict String := .empty
  forwarded : FilterSettings := {}
  timeout : String := defaultTimeout
  maxReplyBytes : Option Nat := none
  deriving DecidableEq, Repr, Inhabited

namespace StageSettings

/-- The time to wait for a reply, which is not zero. -/
def waitTime (c : StageSettings) : Except SettingsFault Duration :=
  match Duration.ofText (Text.trim c.timeout) with
  | .error e => .error (.badTimeout c.timeout e)
  | .ok d => if d.isZero then .error .zeroTimeout else .ok d

/-- Checks the connection settings, addresses included. -/
def checkConnection (c : StageSettings) : Except SettingsFault Unit :=
  match c.connection.validate with
  | .error e => .error (.setting e)
  | .ok () => c.connection.addresses.map fun _ => ()

/-- Checks the subject's template. -/
def checkSubject (c : StageSettings) : Except SettingsFault Unit :=
  if Text.isBlankText c.subject then .error .subjectMissing
  else
    match Template.compile c.subject with
    | .error e => .error (.badSubject e)
    | .ok _ => .ok ()

/-- Checks the names and templates of headers, one after another. -/
def checkHeaders : List (String × String) → Except SettingsFault Unit
  | [] => .ok ()
  | (name, text) :: rest =>
    if Text.isBlankText name then .error .headerNameBlank
    else
      match Template.compile text with
      | .error e => .error (.badHeader name e)
      | .ok _ => checkHeaders rest

/-- Checks everything, and gives the time to wait for a reply. -/
def validate (c : StageSettings) : Except SettingsFault Duration := do
  c.checkConnection
  c.checkSubject
  checkHeaders c.headers.entries
  c.waitTime

end StageSettings
end ReplyStage
