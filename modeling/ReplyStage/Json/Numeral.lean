import ReplyStage.Json.Fault
import ReplyStage.Json.Value
/-!
# Numbers as written

A JSON number in its written parts, and the number it stands for. An integer of 64 bits is exact.
For the others up to 64 bits of leading digits are kept, and the result is scaled by a power of
ten with one rounding for the digits and one for the scaling.
-/

namespace ReplyStage.Json

/-- The exponent of a number: its sign, its digits and where they begin. -/
structure WrittenExponent where
  negative : Bool
  digits : List Nat
  start : Nat
  deriving DecidableEq, Repr

/-- A number in its written parts: sign, digits, digits after the point if there is one, exponent
if there is one, and where it ends. -/
structure Numeral where
  negative : Bool
  whole : List Nat
  fraction : Option (List Nat)
  exponent : Option WrittenExponent
  finish : Nat
  deriving DecidableEq, Repr

namespace Numeral

/-- The largest number of leading digits kept, as a value. -/
def maxSignificand : Nat := Nat.pow 2 64 - 1

/-- The largest exponent that is still counted. -/
def maxExponent : Nat := Nat.pow 2 31 - 1

/-- Adds digits to a value until one does not fit. Gives the value and the digits that were left. -/
def absorb (value : Nat) : List Nat → Nat × List Nat
  | [] => (value, [])
  | d :: rest =>
    if value * 10 + d ≤ maxSignificand then absorb (value * 10 + d) rest else (value, d :: rest)

/-- The exponent, or the number of its digits after which it is too large. -/
def exponentValue (value count : Nat) : List Nat → Nat ⊕ Nat
  | [] => .inl value
  | d :: rest =>
    if value * 10 + d ≤ maxExponent then exponentValue (value * 10 + d) (count + 1) rest
    else .inr (count + 1)

/-- The power of ten with the exponent, rounded. -/
def powerOfTen? (exponent : Nat) : Option Binary64 := Binary64.ofNat? (Nat.pow 10 exponent)

/-- The largest power of ten that is divided or multiplied by at once. -/
def maxStep : Nat := 308

/-- Divides by a power of ten, in steps of at most `10 ^ 308`. After two steps nothing is left of
a number of 64 bits. -/
def scaleDown (x : Binary64) (exponent : Nat) : Option Binary64 :=
  if exponent ≤ maxStep then (powerOfTen? exponent).bind x.div?
  else if exponent ≤ 2 * maxStep then
    ((powerOfTen? maxStep).bind x.div?).bind fun y => (powerOfTen? (exponent - maxStep)).bind y.div?
  else some (Binary64.zero x.negative)

/-- Multiplies by a power of ten; none for a result that is too large. -/
def scaleUp (x : Binary64) (exponent : Nat) : Option Binary64 :=
  if exponent ≤ maxStep then (powerOfTen? exponent).bind x.mul?
  else if x.isZero then some x
  else none

/-- `significand * 10 ^ exponent`, with both steps rounded. -/
def scale (significand : Nat) (exponent : Int) : Option Binary64 :=
  (Binary64.ofNat? significand).bind fun x =>
    match exponent with
    | .ofNat e => scaleUp x e
    | .negSucc e => scaleDown x (e + 1)

/-- A magnitude with the number's sign. -/
def signed (n : Numeral) (x : Binary64) : Binary64 :=
  if n.negative then x.neg else x

/-- A number with a binary point. -/
def real (n : Numeral) (significand : Nat) (exponent : Int) : Except Fault Number :=
  match scale significand exponent with
  | some x => .ok (.real (n.signed x))
  | none => .error ⟨n.finish, .numberOutOfRange⟩

/-- A number that is written as an integer and whose digits all fit. -/
def integer (n : Numeral) (value : Nat) : Except Fault Number :=
  if n.negative then
    if 0 < value ∧ value ≤ Nat.pow 2 63 then .ok (.integer (-(value : Int))) else n.real value 0
  else .ok (.integer value)

/-- The number that the written parts stand for. -/
def read (n : Numeral) : Except Fault Number :=
  let (whole, dropped) := absorb 0 n.whole
  match n.fraction, n.exponent with
  | none, none => if dropped = [] then n.integer whole else n.real whole dropped.length
  | fraction, exponent =>
    let digits := fraction.getD []
    let (significand, ignored) := absorb whole digits
    let shift : Int := (dropped.length : Int) - ((digits.length - ignored.length : Nat) : Int)
    match exponent with
    | none => n.real significand shift
    | some e =>
      match exponentValue 0 0 e.digits with
      | .inl value => n.real significand (if e.negative then shift - value else shift + value)
      | .inr count =>
        if significand ≠ 0 ∧ ¬ e.negative then .error ⟨e.start + count, .numberOutOfRange⟩
        else .ok (.real (n.signed (Binary64.zero false)))

end Numeral
end ReplyStage.Json
