import ReplyStage.Json.Fault
/-!
# Templates

A template is text with expressions in it. An expression takes a value from a record: a metadata
entry, a part of the payload's JSON, or the payload's text. It may have a default for records
that lack the value.
-/

namespace ReplyStage

/-- Where an expression takes its value from. -/
inductive Selector
  /-- the metadata entry under a key -/
  | metadata (key : String)
  /-- the part of the JSON payload under a path -/
  | json (path : Option String)
  /-- the payload as text -/
  | content
  deriving DecidableEq, Repr

/-- An expression: a selector and the text that stands in for a value that is not there. -/
structure Expression where
  selector : Selector
  default : Option String
  deriving DecidableEq, Repr

/-- A part of a template. -/
inductive Segment
  | literal (text : String)
  | expression (e : Expression)
  deriving DecidableEq, Repr

/-- A template as written and its parts. -/
structure Template where
  source : String
  segments : List Segment
  deriving DecidableEq, Repr

/-- Why a template cannot be compiled, or has no value for a record. -/
inductive TemplateError
  | malformed (template : String) (details : String)
  | missingMetadata (key : String)
  | missingField (path : String)
  | invalidJson (error : Json.SyntaxError)
  deriving DecidableEq, Repr

/-- The sentence that reports the error. -/
def TemplateError.message : TemplateError → String
  | .malformed template details => s!"invalid template '{template}': {details}"
  | .missingMetadata key => s!"metadata key '{key}' is not set"
  | .missingField path => s!"field '{path}' not found in JSON payload"
  | .invalidJson error => s!"payload is not valid JSON: {error.message}"

end ReplyStage
