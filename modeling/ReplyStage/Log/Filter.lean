import ReplyStage.Log.Basic
import ReplyStage.Text.Blank
import ReplyStage.Text.Fields
import ReplyStage.Text.Integer
/-!
# Which events are logged

A filter is a list of rules with commas between them: a level for all events, or a part of the
program with the level for its events. Of the rules that fit an event the one with the longest
part decides; events without a rule are not logged.
-/

namespace ReplyStage

/-- Up to which level events are logged; none for no events at all. -/
abbrev LogBound := Option LogLevel

/-- A rule: the part of the program it is about, if not all of it, and the level. -/
structure LogRule where
  target : Option String
  bound : LogBound
  deriving DecidableEq, Repr

namespace LogRule

/-- The length of the part that a rule names. -/
def reach (r : LogRule) : Nat :=
  match r.target with
  | none => 0
  | some target => target.length + 1

/-- Whether a rule is about events of a part of the program. -/
def fits (r : LogRule) (target : String) : Bool :=
  match r.target with
  | none => true
  | some start => start.toList.isPrefixOf target.toList

end LogRule

/-- The rules of a filter. -/
structure LogFilter where
  rules : List LogRule
  deriving DecidableEq, Repr

namespace LogFilter

/-- The level of a name or number. -/
def bound? (s : String) : Option LogBound :=
  match s.map Char.toLower with
  | "off" | "0" => some none
  | "error" | "1" => some (some .error)
  | "warn" | "2" => some (some .warn)
  | "info" | "3" => some (some .info)
  | "debug" | "4" => some (some .debug)
  | "trace" | "5" => some (some .trace)
  | _ => none

/-- Whether a character may stand in the name of a part of the program. -/
def isTargetChar (c : Char) : Bool :=
  c.isAlphanum || c = '_' || c = ':' || c = '-' || 127 < c.toNat

/-- Whether a text names a part of the program. -/
def isTarget (s : String) : Bool := s ≠ "" && s.toList.all isTargetChar

/-- Reads a rule. A part without a level has all its events logged. -/
def readRule (s : String) : Option LogRule :=
  match Text.splitFirst? '=' s with
  | some (target, level) =>
    if isTarget target then
      if level = "" then some ⟨some target, some .trace⟩
      else (bound? level).map fun bound => ⟨some target, bound⟩
    else none
  | none =>
    match bound? s with
    | some bound => some ⟨none, bound⟩
    | none => if isTarget s then some ⟨some s, some .trace⟩ else none

/-- Reads rules; all of them have to be right. -/
def readRules : List String → Option (List LogRule)
  | [] => some []
  | s :: rest => do
    let rule ← readRule s
    let rules ← readRules rest
    return rule :: rules

/-- The filter of a text. Without any rule errors are logged. -/
def ofText? (s : String) : Option LogFilter :=
  (readRules (((Text.split ',' s).filter (· ≠ "")).map Text.trim)).map fun rules =>
    ⟨if rules = [] then [⟨none, some .error⟩] else rules⟩

/-- The filter that logs up to a level. -/
def upTo (level : LogLevel) : LogFilter := ⟨[⟨none, some level⟩]⟩

/-- The rule that decides about events of a part: the one that says most about it, of equal ones
the last. -/
def ruleFor (f : LogFilter) (target : String) : Option LogRule :=
  f.rules.foldl (fun best r =>
    if r.fits target then
      match best with
      | some b => if b.reach ≤ r.reach then some r else best
      | none => some r
    else best) none

/-- Whether an event is logged. -/
def logs (f : LogFilter) (e : LogEvent) : Bool :=
  match (f.ruleFor e.target).bind LogRule.bound with
  | some bound => e.level.rank ≤ bound.rank
  | none => false

end LogFilter
end ReplyStage
