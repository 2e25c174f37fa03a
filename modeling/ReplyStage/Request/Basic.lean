import ReplyStage.HeaderMap
import ReplyStage.Text.Utf8
/-!
# Requests

The message that the stage sends for a record.
-/

namespace ReplyStage

/-- A message to send. There are no headers at all where the connection does not carry any. -/
structure Request where
  subject : String
  payload : Bytes
  headers : Option HeaderMap
  deriving DecidableEq, Repr

end ReplyStage
