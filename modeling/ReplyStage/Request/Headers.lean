import ReplyStage.Filter
import ReplyStage.HeaderMap
import ReplyStage.Template.Evaluate
import ReplyStage.Template.Parser
/-!
# Headers of a request

The headers of a request are the values of templates, in the order of their names, and after them
the selected metadata of the record, in key order. A name that occurs in both has both values, the
template's first.
-/

namespace ReplyStage

/-- Gives each record its headers. -/
structure HeaderRules where
  templates : List (String × Template)
  filter : Filter
  deriving DecidableEq, Repr

namespace HeaderRules

/-- Compiles named templates; the first that does not compile is the error. -/
def compileAll : List (String × String) → Except StageError (List (String × Template))
  | [] => .ok []
  | (name, text) :: rest =>
    match Template.compile text with
    | .error e => .error (.config (.badHeader name e))
    | .ok template => (compileAll rest).map ((name, template) :: ·)

/-- The resolver of named templates and a filter. -/
def ofTemplates (templates : Dict String) (filter : Filter) : Except StageError HeaderRules :=
  (compileAll templates.entries).map fun templates => ⟨templates, filter⟩

/-- The values of named templates; the first without a value is the error. -/
def evaluateAll (record : Record) :
    List (String × Template) → Except StageError (List (String × String))
  | [] => .ok []
  | (name, template) :: rest =>
    match template.evaluate record with
    | .error e => .error (.headerTemplate name e)
    | .ok value => (evaluateAll record rest).map ((name, value) :: ·)

/-- The headers of a record. -/
def resolve (r : HeaderRules) (record : Record) : Except StageError HeaderMap :=
  (evaluateAll record r.templates).map fun values =>
    HeaderMap.ofList (values ++ r.filter.select record)

end HeaderRules
end ReplyStage
