import ReplyStage.Dict
import ReplyStage.Json.Writer
/-!
# Log events

What the program tells about its work: a level, the part of the program that speaks, a sentence
and named values.
-/

namespace ReplyStage

/-- How much an event matters. -/
inductive LogLevel
  | error
  | warn
  | info
  | debug
  | trace
  deriving DecidableEq, Repr

namespace LogLevel

/-- The place of a level in the order from errors to traces. -/
def rank : LogLevel → Nat
  | .error => 1
  | .warn => 2
  | .info => 3
  | .debug => 4
  | .trace => 5

/-- The name of a level. -/
def name : LogLevel → String
  | .error => "ERROR"
  | .warn => "WARN"
  | .info => "INFO"
  | .debug => "DEBUG"
  | .trace => "TRACE"

end LogLevel

/-- An event in the log. -/
structure LogEvent where
  level : LogLevel
  target : String
  message : String
  fields : List (String × Json) := []
  deriving DecidableEq, Repr

/-- The event as a JSON object, with the level, the sentence and the values side by side. -/
def LogEvent.json (e : LogEvent) : Json :=
  .object <| e.fields.foldl (fun members (name, value) => insertEntry name value members)
    [("level", .string e.level.name), ("message", .string e.message)]

end ReplyStage
