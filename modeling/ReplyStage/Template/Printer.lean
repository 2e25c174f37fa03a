import ReplyStage.Template.Parser
/-!
# Writing templates

The text of segments. A literal is written as it is. An expression is written with one blank after
its opener and one before the brace that closes it; in its strings a backslash stands before each
quote and each backslash, and everything else is written as it is.
-/

namespace ReplyStage.Template

/-- A character between the quotes of a string. -/
def escapeChar (c : Char) : List Char := if c = '"' ∨ c = '\\' then ['\\', c] else [c]

/-- A text as a string, with its quotes. -/
def printString (s : String) : List Char := '"' :: (s.toList.flatMap escapeChar ++ ['"'])

/-- The argument of a call, which may be absent. -/
def printArgument : Option String → List Char
  | some value => printString value
  | none => []

/-- The call that takes a value from a record. -/
def printCall : Selector → List Char
  | .metadata key => "meta(".toList ++ printArgument (some key) ++ [')']
  | .json path => "json(".toList ++ printArgument path ++ [')']
  | .content => "content(".toList ++ printArgument none ++ [')']

/-- What stands after a call. -/
def printDefault : Option String → List Char
  | some value => ".or(".toList ++ printArgument (some value) ++ [')']
  | none => []

/-- The text of a segment. -/
def printSegment : Segment → List Char
  | .literal text => text.toList
  | .expression e =>
    opener ++ ([' '] ++ (printCall e.selector ++ printDefault e.default) ++ [' ']) ++ ['\x7d']

/-- The text of segments. -/
def render (segments : List Segment) : String := String.ofList (segments.flatMap printSegment)

example : render [.literal "a$", .expression ⟨.metadata "\"k\\", some "\x7d"⟩] =
    "a$$\x7b! meta(\"\\\"k\\\\\").or(\"\x7d\") \x7d" := by decide

end ReplyStage.Template
