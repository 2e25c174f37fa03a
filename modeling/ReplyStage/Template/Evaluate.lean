import ReplyStage.Json.Path
import ReplyStage.Record
import ReplyStage.Template.Basic
/-!
# Evaluating templates

The value of a template for a record is the values of its parts in order. The payload is read as
JSON when the first expression needs it and then shared with those after it; a payload that is no
JSON is read again by each. An expression without a value takes its default, and without a default
its error ends the evaluation.
-/

namespace ReplyStage

/-- The value of a selector, given the document of the payload for those who need one. -/
def Selector.pick (s : Selector) (record : Record) (document : Except Json.SyntaxError Json) :
    Except TemplateError String :=
  match s with
  | .metadata key =>
    match record.get? key with
    | some value => .ok value
    | none => .error (.missingMetadata key)
  | .content => .ok record.text
  | .json path =>
    match document with
    | .error e => .error (.invalidJson e)
    | .ok j =>
      match j.lookup (path.getD "") with
      | some part => .ok part.plainText
      | none => .error (.missingField (path.getD ""))

/-- A value, or else the default if there is one. -/
def Expression.orDefault (e : Expression) (value : Except TemplateError String) :
    Except TemplateError String :=
  match value, e.default with
  | .ok v, _ => .ok v
  | .error _, some default => .ok default
  | .error err, none => .error err

namespace Template

/-- The document that an expression uses: the shared one, or else the payload read anew. -/
def document (record : Record) : Option Json → Except Json.SyntaxError Json
  | some j => .ok j
  | none => record.json

/-- The document shared with the expressions after this one. -/
def share (e : Expression) (record : Record) (shared : Option Json) : Option Json :=
  match e.selector with
  | .json _ => (document record shared).toOption
  | .metadata _ | .content => shared

/-- The value of an expression with a document that is already shared, if there is one. -/
def valueOf (e : Expression) (record : Record) (shared : Option Json) :
    Except TemplateError String :=
  e.orDefault (e.selector.pick record (document record shared))

/-- The values of segments in order, as one text. -/
def evaluateFrom (record : Record) (shared : Option Json) :
    List Segment → Except TemplateError (List Char)
  | [] => .ok []
  | .literal text :: rest => (evaluateFrom record shared rest).map (text.toList ++ ·)
  | .expression e :: rest =>
    match valueOf e record shared with
    | .error err => .error err
    | .ok value => (evaluateFrom record (share e record shared) rest).map (value.toList ++ ·)

/-- The value of a template for a record. -/
def evaluate (t : Template) (record : Record) : Except TemplateError String :=
  (evaluateFrom record none t.segments).map String.ofList

end Template
end ReplyStage
