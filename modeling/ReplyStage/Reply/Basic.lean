import ReplyStage.HeaderMap
import ReplyStage.Record
import ReplyStage.Reply.Delivery
import ReplyStage.Stage.Error
/-!
# Replies

The message that comes back for a request, and the record that is made of it: the reply's payload,
with metadata about where the reply belongs. Metadata is written in a fixed order: the subject,
what an acknowledgement subject tells, then the headers.
-/

namespace ReplyStage

/-- A message that came back: the subject it is about, the subject it can itself be answered on,
and its content. -/
structure Reply where
  subject : String
  replyTo : Option String := none
  payload : Bytes := []
  headers : Option HeaderMap := none
  deriving DecidableEq, Repr

namespace Delivery

/-- The metadata that tells about a delivery. -/
def entries (info : Delivery) : List (String × String) := [
  ("nats_sequence_stream", toString info.streamSequence),
  ("nats_sequence_consumer", toString info.consumerSequence),
  ("nats_num_delivered", toString info.delivered),
  ("nats_num_pending", toString info.pending),
  ("nats_domain", info.domain),
  ("nats_timestamp_unix_nano", toString info.timestampNanos)]

end Delivery

namespace HeaderMap

/-- The first value of each name, in the order of the names, where it is not empty. -/
def firstValues (h : HeaderMap) : List (String × String) :=
  h.values.entries.filterMap fun (name, values) =>
    match values with
    | value :: _ => if value = "" then none else some (name, value)
    | [] => none

end HeaderMap

namespace Record

/-- A record of a reply's payload, if it is within the limit. -/
def ofReplyPayload (payload : Bytes) (limit : Option Nat) : Except StageError Record :=
  match limit with
  | some limit =>
    if limit < payload.length then .error (.conversion (.tooLarge payload.length limit))
    else .ok (ofPayload payload)
  | none => .ok (ofPayload payload)

end Record

namespace Reply

/-- The delivery that a reply tells about, if it does. -/
def delivery? (r : Reply) : Option Delivery := r.replyTo.bind Delivery.ofSubject?

/-- The metadata that the stage itself writes about a reply. -/
def ownEntries (r : Reply) : List (String × String) :=
  ("nats_subject", r.subject) ::
    match r.delivery? with
    | some info => info.entries
    | none => []

/-- The metadata that a reply brings along in its headers. -/
def headerEntries (r : Reply) : List (String × String) :=
  match r.headers with
  | some headers => headers.firstValues
  | none => []

/-- The record of a reply. -/
def toRecord (r : Reply) (limit : Option Nat) : Except StageError Record :=
  (Record.ofReplyPayload r.payload limit).map fun record =>
    record.setAll (r.ownEntries ++ r.headerEntries)

end Reply
end ReplyStage
