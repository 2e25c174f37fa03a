import ReplyStage.Duration.Basic
import ReplyStage.Text.Blank
import ReplyStage.Text.Integer
/-!
# Durations in text

Durations as people write them: a number and a unit, perhaps several in a row, such as `2h 45m` or
`1.5s`. White space may stand between and within numbers and after a unit. A fraction is allowed
where it is exact. All amounts are kept within 64 bits.
-/

namespace ReplyStage

/-- Why a text is no duration; offsets count bytes. -/
inductive DurationError
  | invalidCharacter (offset : Nat)
  | numberExpected (offset : Nat)
  | unitMissing (value : Nat)
  | unknownUnit (unit : String)
  | outOfRange
  | empty
  deriving DecidableEq, Repr

/-- The sentence that reports the error. A unit is ASCII letters and the micro sign, so it needs
no escapes. -/
def DurationError.message : DurationError → String
  | .invalidCharacter offset => s!"invalid character at {offset}"
  | .numberExpected offset => s!"expected number at {offset}"
  | .unitMissing value => s!"time unit needed, for example {value}sec or {value}ms"
  | .unknownUnit unit =>
    s!"unknown time unit \"{unit}\", supported units: ns, us/µs, ms, sec, min, hours, days, " ++
      "weeks, months, years (and few variations)"
  | .outOfRange =>
    "number is too large or cannot be represented without a lack of precision (values below " ++
      "1ns are not supported)"
  | .empty => "value was empty"

namespace Duration

/-- What one of a unit is worth. -/
inductive Worth
  | nanos (count : Nat)
  | seconds (count : Nat)
  deriving DecidableEq, Repr

/-- A unit: what a whole one is worth, and in what its fractions are counted. -/
structure TimeUnit where
  whole : Worth
  fraction : Option Worth
  deriving DecidableEq, Repr

/-- The unit with a name. -/
def timeUnit? (name : String) : Option TimeUnit :=
  if name ∈ ["nanos", "nsec", "ns"] then some ⟨.nanos 1, none⟩
  else if name ∈ ["usec", "us", "µs"] then some ⟨.nanos 1000, some (.nanos 1000)⟩
  else if name ∈ ["millis", "msec", "ms"] then some ⟨.nanos 1000000, some (.nanos 1000000)⟩
  else if name ∈ ["seconds", "second", "secs", "sec", "s"] then
    some ⟨.seconds 1, some (.nanos 1000000000)⟩
  else if name ∈ ["minutes", "minute", "min", "mins", "m"] then
    some ⟨.seconds 60, some (.nanos 60000000000)⟩
  else if name ∈ ["hours", "hour", "hr", "hrs", "h"] then some ⟨.seconds 3600, some (.seconds 3600)⟩
  else if name ∈ ["days", "day", "d"] then some ⟨.seconds 86400, some (.seconds 86400)⟩
  else if name ∈ ["weeks", "week", "wk", "wks", "w"] then
    some ⟨.seconds 604800, some (.seconds 604800)⟩
  else if name ∈ ["months", "month", "M"] then some ⟨.seconds 2630016, some (.seconds 2630016)⟩
  else if name ∈ ["years", "year", "yrs", "yr", "y"] then
    some ⟨.seconds 31557600, some (.seconds 31557600)⟩
  else none

/-- A fraction as written, with all its zeros. -/
structure Fraction where
  numerator : Nat
  denominator : Nat
  deriving DecidableEq, Repr

/-- A number that has to fit into 64 bits. -/
def word (n : Nat) : Except DurationError Nat :=
  if n ≤ Text.maxWord then .ok n else .error .outOfRange

/-- Adds an amount to a span; nanoseconds and seconds each have to fit into 64 bits. -/
def addAmount (total : Duration) : Worth → Except DurationError Duration
  | .nanos n => do
    let n ← word n
    let rest ← word (total.nanos % 1000000000 + n)
    let carried ← word (total.nanos / 1000000000 + rest / 1000000000)
    return ⟨carried * 1000000000 + rest % 1000000000⟩
  | .seconds n => do
    let n ← word n
    let seconds ← word (total.nanos / 1000000000 + n)
    return ⟨seconds * 1000000000 + total.nanos % 1000000000⟩

/-- A number of units. -/
def Worth.times (n : Nat) : Worth → Worth
  | .nanos count => .nanos (n * count)
  | .seconds count => .seconds (n * count)

/-- A fraction of a unit, if it is a whole number of what the unit's fractions are counted in. -/
def Worth.share (f : Fraction) : Worth → Except DurationError Worth
  | .nanos count => (exact count).map .nanos
  | .seconds count => (exact count).map .seconds
where
  /-- The share as a number. -/
  exact (count : Nat) : Except DurationError Nat := do
    let n ← word (f.numerator * count)
    if n % f.denominator = 0 then return n / f.denominator else throw .outOfRange

/-- Adds a number of units, perhaps with a fraction, to a span. -/
def addUnits (total : Duration) (n : Nat) (fraction : Option Fraction) (name : List Char) :
    Except DurationError Duration :=
  match timeUnit? (String.ofList name) with
  | none => .error (if name = [] then .unitMissing n else .unknownUnit (String.ofList name))
  | some unit => do
    let total ← addAmount total (unit.whole.times n)
    match fraction with
    | none => return total
    | some f =>
      match unit.fraction with
      | none => throw .outOfRange
      | some worth => addAmount total (← worth.share f)

/-- The characters a unit is made of. -/
def isUnitChar (c : Char) : Bool :=
  ('a' ≤ c && c ≤ 'z') || ('A' ≤ c && c ≤ 'Z') || c = 'µ'

/-- Where reading stands: looking for a number, within the digits of one, within the digits after
its point, or within the name of a unit. As long as nothing has followed a point, its place is
remembered, since that is the place of the error if nothing good follows. -/
inductive Reading
  | start
  | digits (n : Nat)
  | fraction (n : Nat) (point : Option Nat) (f : Fraction)
  | unit (n : Nat) (fraction : Option Fraction) (name : List Char)
  deriving DecidableEq, Repr

/-- Takes one more character, which begins at the byte `offset`. -/
def readChar (total : Duration) (reading : Reading) (offset : Nat) (c : Char) :
    Except DurationError (Duration × Reading) :=
  match reading, Text.digit? c with
  | .start, some d => .ok (total, .digits d)
  | .start, none => if Text.isBlank c then .ok (total, .start) else .error (.numberExpected offset)
  | .digits n, some d => (word (n * 10 + d)).map fun n => (total, .digits n)
  | .digits n, none =>
    if Text.isBlank c then .ok (total, .digits n)
    else if isUnitChar c then .ok (total, .unit n none [c])
    else if c = '.' then .ok (total, .fraction n (some offset) ⟨0, 1⟩)
    else .error (.invalidCharacter offset)
  | .fraction n _ f, some d => do
    let denominator ← word (f.denominator * 10)
    let numerator ← word (f.numerator * 10 + d)
    return (total, .fraction n none ⟨numerator, denominator⟩)
  | .fraction n point f, none =>
    if Text.isBlank c then .ok (total, .fraction n none f)
    else if isUnitChar c ∧ f.denominator ≠ 1 then .ok (total, .unit n (some f) [c])
    else .error (.invalidCharacter (point.getD offset))
  | .unit n fraction name, some d =>
    (addUnits total n fraction name).map fun total => (total, .digits d)
  | .unit n fraction name, none =>
    if Text.isBlank c then (addUnits total n fraction name).map fun total => (total, .start)
    else if isUnitChar c then .ok (total, .unit n fraction (name ++ [c]))
    else .error (.invalidCharacter offset)

/-- What is read when the text ends, after `offset` bytes. -/
def readEnd (total : Duration) (offset : Nat) : Reading → Except DurationError Duration
  | .start => .ok total
  | .digits n => addUnits total n none []
  | .fraction n point f =>
    if f.denominator = 1 then .error (.invalidCharacter (point.getD offset))
    else addUnits total n (some f) []
  | .unit n fraction name => addUnits total n fraction name

/-- Reads characters up to the end of the text. -/
def readChars (total : Duration) (reading : Reading) (offset : Nat) :
    List Char → Except DurationError Duration
  | [] => readEnd total offset reading
  | c :: rest =>
    match readChar total reading offset c with
    | .error e => .error e
    | .ok (total, reading) => readChars total reading (offset + c.utf8Size) rest

/-- Reads a text as a duration. A lone zero needs no unit. -/
def ofText (s : String) : Except DurationError Duration :=
  if s = "0" then .ok zero
  else if Text.isBlankText s then .error .empty
  else readChars zero .start 0 s.toList

end Duration
end ReplyStage
