import ReplyStage.Reply.Basic
import ReplyStage.Request.Basic
/-!
# Requests over the network

What the network gives back for a request, and what the stage makes of that. A message arrives on
an inbox of its own and is taken to be about the subject that was asked on. A failure that is
neither a missing answer nor a missing responder means that the connection could not carry the
request.
-/

namespace ReplyStage

/-- Why the network gives no message back. -/
inductive ExchangeFailure
  | timedOut
  | noResponders
  | notCarried (details : String)
  deriving DecidableEq, Repr

/-- The stage's error for a request that failed. -/
def ExchangeFailure.error (request : Request) (timeout : Duration) : ExchangeFailure → StageError
  | .timedOut => .timeout request.subject timeout
  | .noResponders => .noResponders request.subject
  | .notCarried details => .connection s!"request to '{request.subject}' failed: {details}"

/-- The answer to a request that was sent with a time to wait. -/
def Request.answer (request : Request) (timeout : Duration) :
    Except ExchangeFailure Reply → Except StageError Reply
  | .ok message => .ok { message with subject := request.subject }
  | .error failure => .error (failure.error request timeout)

end ReplyStage
