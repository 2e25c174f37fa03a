import ReplyStage.Dict
import ReplyStage.Json.Writer
import ReplyStage.Text.Fields
import ReplyStage.Text.Integer
/-!
# Paths into a document

A path names a part of a document: steps with dots between them, each the name of a member or the
position of an item. A null at the end counts as nothing.
-/

namespace ReplyStage.Json

/-- The part that one step leads to. -/
def child? (step : String) : Json → Option Json
  | .object members => lookupEntry step members
  | .array items =>
    match Text.readNat Text.maxWord step with
    | .ok position => items[position]?
    | .error _ => none
  | _ => none

/-- The part that several steps lead to, one after another. -/
def follow : List String → Json → Option Json
  | [], j => some j
  | step :: steps, j => (j.child? step).bind (follow steps)

/-- The steps of a path; the empty path has none. -/
def steps (path : String) : List String :=
  if path = "" then [] else Text.split '.' path

/-- The part under a path, unless it is null. -/
def lookup (path : String) (j : Json) : Option Json :=
  (follow (steps path) j).filter (· ≠ .null)

/-- The text of a part: a string is its own text, all else its compact form. -/
def plainText : Json → String
  | .string s => s
  | j => j.render

end ReplyStage.Json
