import ReplyStage.Pattern.Parser
import ReplyStage.Record
import ReplyStage.Stage.Error
/-!
# Selecting metadata

Which entries of a record's metadata go along with a request: those whose key starts with one of
some texts or matches one of some patterns. The filter without either selects nothing.
-/

namespace ReplyStage

/-- A filter as configured. -/
structure FilterSettings where
  includePrefixes : List String := []
  includePatterns : List String := []
  deriving DecidableEq, Repr, Inhabited

/-- A filter with its patterns read. -/
structure Filter where
  includePrefixes : List String := []
  includePatterns : List Pattern := []
  deriving DecidableEq, Repr

namespace Filter

/-- Reads patterns; the first text that is no pattern is the error. -/
def readPatterns : List String → Except StageError (List Pattern)
  | [] => .ok []
  | text :: rest =>
    match Pattern.ofText? text with
    | none => .error (.config (.badPattern text))
    | some p => (readPatterns rest).map (p :: ·)

/-- The filter of a configuration. -/
def ofSettings (c : FilterSettings) : Except StageError Filter :=
  (readPatterns c.includePatterns).map fun patterns => ⟨c.includePrefixes, patterns⟩

/-- Whether the filter can select nothing. -/
def isEmpty (f : Filter) : Bool := f.includePrefixes.isEmpty && f.includePatterns.isEmpty

/-- Whether a text starts with another one. -/
def startsWith (start s : String) : Bool := start.toList.isPrefixOf s.toList

/-- Whether the filter selects a key. -/
def selects (f : Filter) (key : String) : Bool :=
  f.includePrefixes.any (startsWith · key) || f.includePatterns.any (·.found key)

/-- The selected metadata entries of a record, in key order. -/
def select (f : Filter) (r : Record) : List (String × String) :=
  if f.isEmpty then [] else r.metadata.entries.filter fun e => f.selects e.1

end Filter
end ReplyStage
