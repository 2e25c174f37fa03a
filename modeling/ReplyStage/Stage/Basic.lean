import ReplyStage.Reply.Basic
import ReplyStage.Request.Basic
import ReplyStage.Request.Headers
import ReplyStage.Request.Subject
import ReplyStage.Settings.Stage
/-!
# The stage

A stage that is set up: its templates are compiled, its filter is read and the time it waits is
known. `ofSettings` sets up a stage and reports the first thing that is wrong with its settings.
-/

namespace ReplyStage

/-- A stage that is set up. -/
structure Stage where
  label : String
  subject : SubjectRule
  headers : HeaderRules
  timeout : Duration
  maxReplyBytes : Option Nat
  deriving DecidableEq, Repr

namespace Stage

/-- The stage with the given settings. -/
def ofSettings (c : StageSettings) : Except StageError Stage := do
  let timeout ← c.validate.mapError .config
  let filter ← Filter.ofSettings c.forwarded
  let subject ← SubjectRule.ofText c.subject
  let headers ← HeaderRules.ofTemplates c.headers filter
  return { label := c.connection.name, subject, headers, timeout, maxReplyBytes := c.maxReplyBytes }

/-- The request for a record. Headers are left alone where the connection carries none. -/
def request (s : Stage) (headersSupported : Bool) (record : Record) : Except StageError Request :=
  match s.subject.resolve record with
  | .error e => .error e
  | .ok subject =>
    if headersSupported then
      (s.headers.resolve record).map fun headers => ⟨subject, record.payload, some headers⟩
    else .ok ⟨subject, record.payload, none⟩

/-- The time to wait for a reply at the time `now`: up to the deadline, but not beyond the stage's
own limit. There is none once the deadline is there. Times are spans since one moment. -/
def timeLimit (s : Stage) (now : Duration) : Option Duration → Option Duration
  | none => some s.timeout
  | some deadline =>
    if deadline.nanos ≤ now.nanos then none
    else some (Duration.min ⟨deadline.nanos - now.nanos⟩ s.timeout)

end Stage
end ReplyStage
