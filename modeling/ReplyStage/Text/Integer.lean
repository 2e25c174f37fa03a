/-!
# Integers in text

Decimal integers as settings and subjects write them: ASCII digits after an optional sign, with
leading zeros allowed, within the range of the number that is read.
-/

namespace ReplyStage.Text

/-- Why a text is no integer of the wanted range. -/
inductive IntegerError
  | empty
  | invalidDigit
  | tooLarge
  | tooSmall
  deriving DecidableEq, Repr

/-- The sentence that reports the error. -/
def IntegerError.message : IntegerError → String
  | .empty => "cannot parse integer from empty string"
  | .invalidDigit => "invalid digit found in string"
  | .tooLarge => "number too large to fit in target type"
  | .tooSmall => "number too small to fit in target type"

/-- The value of an ASCII digit. -/
def digit? (c : Char) : Option Nat :=
  if '0' ≤ c ∧ c ≤ '9' then some (c.toNat - '0'.toNat) else none

/-- Reads digits after a part with the value `value`. The first digit that takes the value above
`bound` is the error `beyond`, also where a later character is no digit. -/
def readDigits (bound : Nat) (beyond : IntegerError) (value : Nat) :
    List Char → Except IntegerError Nat
  | [] => .ok value
  | c :: rest =>
    match digit? c with
    | none => .error .invalidDigit
    | some d =>
      if value * 10 + d ≤ bound then readDigits bound beyond (value * 10 + d) rest
      else .error beyond

/-- Reads digits, of which there has to be one. -/
def readMagnitude (bound : Nat) (beyond : IntegerError) : List Char → Except IntegerError Nat
  | [] => .error .invalidDigit
  | cs => readDigits bound beyond 0 cs

/-- Reads a number from zero to `bound`. -/
def readNat (bound : Nat) (s : String) : Except IntegerError Nat :=
  match s.toList with
  | [] => .error .empty
  | '+' :: digits => readMagnitude bound .tooLarge digits
  | cs => readMagnitude bound .tooLarge cs

/-- Reads a number from `-(bound + 1)` to `bound`. -/
def readInt (bound : Nat) (s : String) : Except IntegerError Int :=
  match s.toList with
  | [] => .error .empty
  | '+' :: digits => (readMagnitude bound .tooLarge digits).map Int.ofNat
  | '-' :: digits => (readMagnitude (bound + 1) .tooSmall digits).map fun n => -Int.ofNat n
  | cs => (readMagnitude bound .tooLarge cs).map Int.ofNat

/-- The largest number of 16 bits. -/
def maxPort : Nat := Nat.pow 2 16 - 1

/-- The largest number of 64 bits. -/
def maxWord : Nat := Nat.pow 2 64 - 1

/-- The largest signed number of 128 bits. -/
def maxWide : Nat := Nat.pow 2 127 - 1

end ReplyStage.Text
