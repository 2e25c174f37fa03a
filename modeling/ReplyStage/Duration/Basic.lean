/-!
# Durations

A span of time in whole nanoseconds, and the form in which messages show it: in the largest of
seconds, milliseconds, microseconds and nanoseconds that is not above it, with the rest as a
fraction.
-/

namespace ReplyStage

/-- A span of time. -/
structure Duration where
  nanos : Nat
  deriving DecidableEq, Repr, Inhabited

namespace Duration

def zero : Duration := ⟨0⟩

def ofMillis (millis : Nat) : Duration := ⟨millis * 1000000⟩

def isZero (d : Duration) : Bool := d.nanos == 0

/-- The shorter of two spans. -/
def min (a b : Duration) : Duration := ⟨Nat.min a.nanos b.nanos⟩

/-- The milliseconds of a span, rounded up. -/
def ceilMillis (d : Duration) : Nat := (d.nanos + 999999) / 1000000

/-- Rounding up adds less than a millisecond and takes nothing away. -/
theorem ceilMillis_bounds (d : Duration) :
    d.nanos ≤ d.ceilMillis * 1000000 ∧ d.ceilMillis * 1000000 < d.nanos + 1000000 := by
  unfold ceilMillis
  omega

/-- Zeros at the end dropped. -/
def dropZeros (digits : List Char) : List Char :=
  (digits.reverse.dropWhile (· = '0')).reverse

/-- The digits of `rest / 10 ^ places`, without zeros at the end. -/
def fractionDigits (places rest : Nat) : List Char :=
  let digits := (Nat.repr rest).toList
  dropZeros (List.replicate (places - digits.length) '0' ++ digits)

/-- An amount of a unit of `10 ^ places` nanoseconds. -/
def showIn (places nanos : Nat) (unit : String) : String :=
  let whole := nanos / Nat.pow 10 places
  let fraction := fractionDigits places (nanos % Nat.pow 10 places)
  let point := if fraction = [] then [] else '.' :: fraction
  String.ofList ((Nat.repr whole).toList ++ point ++ unit.toList)

/-- The form in which messages show a span. -/
def display (d : Duration) : String :=
  if 1000000000 ≤ d.nanos then showIn 9 d.nanos "s"
  else if 1000000 ≤ d.nanos then showIn 6 d.nanos "ms"
  else if 1000 ≤ d.nanos then showIn 3 d.nanos "µs"
  else showIn 0 d.nanos "ns"

end Duration
end ReplyStage
