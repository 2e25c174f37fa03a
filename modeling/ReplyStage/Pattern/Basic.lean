import ReplyStage.Pattern.CharClass
/-!
# Patterns

Regular expressions over characters, with conditions on the places between characters. A pattern
matches a text if some part of the text fits it.

Matching follows sets of places. A set of places in a text of `n` characters is a natural number
whose bits `0` to `n` stand for the places before, between and after the characters.
-/

namespace ReplyStage

/-- How a place lies to the words of a text. -/
inductive WordEdge
  | boundary
  | notBoundary
  | start
  | ending
  | startHalf
  | endHalf
  deriving DecidableEq, Repr

/-- A condition on a place in a text. The words are those of Unicode or of ASCII. -/
inductive Look
  | textStart
  | textEnd
  | lineStart (crlf : Bool)
  | lineEnd (crlf : Bool)
  | word (unicode : Bool) (edge : WordEdge)
  deriving DecidableEq, Repr

/-- A regular expression. -/
inductive Pattern
  | empty
  | one (c : CharClass)
  | look (l : Look)
  | seq (a b : Pattern)
  | alt (a b : Pattern)
  | repeated (p : Pattern) (min : Nat) (max : Option Nat)
  deriving DecidableEq, Repr

/-- Whether a place has an edge, with a character of a word before it or not, and one after it or
not. -/
def WordEdge.holds (edge : WordEdge) (before after : Bool) : Bool :=
  match edge with
  | .boundary => before != after
  | .notBoundary => before == after
  | .start => !before && after
  | .ending => before && !after
  | .startHalf => !before
  | .endHalf => !after

/-- Whether a condition holds between two characters, either of which may be missing. -/
def Look.holds (l : Look) (before after : Option Char) : Bool :=
  match l with
  | .textStart => before.isNone
  | .textEnd => after.isNone
  | .lineStart false => before.all (· = '\n')
  | .lineEnd false => after.all (· = '\n')
  | .lineStart true => before.all fun c => c = '\n' || (c = '\r' && after ≠ some '\n')
  | .lineEnd true => after.all fun c => c = '\r' || (c = '\n' && before ≠ some '\r')
  | .word unicode edge =>
    let word := CharClass.wordOf unicode
    edge.holds (before.any word.contains) (after.any word.contains)

namespace Pattern

/-- A set of places. -/
abbrev Places := Nat

/-- The places whose next character is in a class. -/
def placesBefore (c : CharClass) : List Char → Places
  | [] => 0
  | x :: rest => 2 * placesBefore c rest + if c.contains x then 1 else 0

/-- The places where a condition holds. -/
def placesOf (l : Look) (before : Option Char) : List Char → Places
  | [] => if l.holds before none then 1 else 0
  | x :: rest => 2 * placesOf l (some x) rest + if l.holds before (some x) then 1 else 0

/-- The places reached from `seen` by up to `count` further steps; the last step led to `fresh`. -/
def closure (step : Places → Places) : Nat → Places → Places → Places
  | 0, seen, _ => seen
  | count + 1, seen, fresh =>
    if fresh = 0 then seen
    else
      let next := step fresh
      closure step count (seen ||| next) (next ^^^ (next &&& seen))

/-- The places reached by exactly `count` steps. -/
def iterate (step : Places → Places) : Nat → Places → Places
  | 0, places => places
  | count + 1, places => if places = 0 then 0 else iterate step count (step places)

/-- The places where a match can end that begins at one of the given places. -/
def ends (text : List Char) : Pattern → Places → Places
  | .empty, places => places
  | .one c, places => 2 * (places &&& placesBefore c text)
  | .look l, places => places &&& placesOf l none text
  | .seq a b, places => b.ends text (a.ends text places)
  | .alt a b, places => a.ends text places ||| b.ends text places
  | .repeated p min max, places =>
    let start := iterate (p.ends text) min places
    let count :=
      match max with
      | none => text.length + 1
      | some max => max - min
    closure (p.ends text) count start start

/-- Whether some part of a text fits a pattern. -/
def found (p : Pattern) (s : String) : Bool :=
  p.ends s.toList (Nat.pow 2 (s.toList.length + 1) - 1) ≠ 0

/-! ## The size of a pattern -/

/-- Whether a pattern matches nothing but the empty text. -/
def isEmptyOnly : Pattern → Bool
  | .empty | .look _ => true
  | .one _ => false
  | .seq a b | .alt a b => a.isEmptyOnly && b.isEmptyOnly
  | .repeated p _ max => p.isEmptyOnly || max = some 0

/-- How much room a compiled pattern takes, in bytes: a repeated part counts as often as it has to
be written out. -/
def room : Pattern → Nat
  | .empty => 32
  | .one c => c.room
  | .look _ => 32
  | .seq a b => a.room + b.room
  | .alt a b => a.room + b.room + 64
  | .repeated p min max =>
    if p.isEmptyOnly then p.room + 64
    else
      match max with
      | none => (Nat.max min 1) * p.room + 64
      | some max => min * p.room + (max - min) * (p.room + 32)

/-- The most room that a compiled pattern may take. -/
def maxRoom : Nat := 10 * Nat.pow 2 20

end Pattern
end ReplyStage
