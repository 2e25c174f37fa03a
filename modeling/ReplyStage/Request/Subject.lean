import ReplyStage.Stage.Error
import ReplyStage.Template.Evaluate
import ReplyStage.Template.Parser
/-!
# Subjects

The subject of a request is the value of a template for the record. A subject with nothing but
white space is none.
-/

namespace ReplyStage

/-- Gives each record its subject. -/
structure SubjectRule where
  template : Template
  deriving DecidableEq, Repr

namespace SubjectRule

/-- The resolver of a template. -/
def ofText (template : String) : Except StageError SubjectRule :=
  match Template.compile template with
  | .ok template => .ok ⟨template⟩
  | .error e => .error (.config (.badSubject e))

/-- The error for a record whose subject is blank. -/
def blankError (r : SubjectRule) : TemplateError :=
  .malformed r.template.source "resolved to an empty subject"

/-- The subject of a record. -/
def resolve (r : SubjectRule) (record : Record) : Except StageError String :=
  match r.template.evaluate record with
  | .error e => .error (.template e)
  | .ok subject =>
    if Text.isBlankText subject then .error (.template r.blankError) else .ok subject

end SubjectRule
end ReplyStage
