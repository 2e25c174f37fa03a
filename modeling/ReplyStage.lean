import ReplyStage.Connection.Exchange
import ReplyStage.Duration.Seconds
import ReplyStage.Main
import ReplyStage.Proofs.Connection.Lifecycle
import ReplyStage.Proofs.Connection.Secrets
import ReplyStage.Proofs.Json.Compact
import ReplyStage.Proofs.Json.Grammar
import ReplyStage.Proofs.Json.Numbers
import ReplyStage.Proofs.Json.Path
import ReplyStage.Proofs.Json.Reading
import ReplyStage.Proofs.Json.Strings
import ReplyStage.Proofs.Launch.Closing
import ReplyStage.Proofs.Pipe.Completion
import ReplyStage.Proofs.Pipe.Interruption
import ReplyStage.Proofs.Pipe.Iterations
import ReplyStage.Proofs.Pipe.OutputLines
import ReplyStage.Proofs.Pipe.Rehearsal
import ReplyStage.Proofs.Reply.Conversion
import ReplyStage.Proofs.Reply.Delivery
import ReplyStage.Proofs.Reply.Metadata
import ReplyStage.Proofs.Request.Framing
import ReplyStage.Proofs.Request.Resolution
import ReplyStage.Proofs.Settings.Document
import ReplyStage.Proofs.Settings.Environment
import ReplyStage.Proofs.Stage.Callers
import ReplyStage.Proofs.Stage.Construction
import ReplyStage.Proofs.Stage.Echo
import ReplyStage.Proofs.Stage.Process
import ReplyStage.Proofs.Stage.Seats
import ReplyStage.Proofs.Stage.Shared
import ReplyStage.Proofs.Stage.Timeline
import ReplyStage.Proofs.Stage.Validation
import ReplyStage.Proofs.Template.Evaluation
import ReplyStage.Proofs.Template.Extraction
import ReplyStage.Proofs.Template.Joining
import ReplyStage.Proofs.Template.Offsets
import ReplyStage.Proofs.Template.RoundTrip
import ReplyStage.Proofs.Text.Utf8
import ReplyStage.Rehearsal.Timeline
import ReplyStage.Settings.Document
import ReplyStage.Proofs.Connection.Release
import ReplyStage.Proofs.Stage.Deadline
import ReplyStage.Proofs.Stage.Headerless
