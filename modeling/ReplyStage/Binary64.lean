/-!
# Numbers of 64 bits with a binary point

A finite number of the IEEE format `binary64` as data: a sign, a mantissa and a power of two. The
arithmetic is exact and then rounded to the nearest representable number, a half to the even one.
`shortest` finds the decimal with the fewest digits that reads back as the same number.
-/

namespace ReplyStage

/-- The number `mantissa * 2 ^ exponent` with a sign. The mantissa is below `2 ^ 53`; it is at
least `2 ^ 52` unless the exponent is the least one. -/
structure Binary64 where
  negative : Bool
  mantissa : Nat
  exponent : Int
  deriving DecidableEq, Repr

namespace Binary64

/-- The exponent of the smallest numbers. -/
def minExponent : Int := -1074

/-- The exponent of the largest numbers. -/
def maxExponent : Int := 971

/-- Zero with a sign. -/
def zero (negative : Bool) : Binary64 := ⟨negative, 0, minExponent⟩

def isZero (x : Binary64) : Bool := x.mantissa == 0

def neg (x : Binary64) : Binary64 := { x with negative := !x.negative }

/-- The quotient rounded to the nearest natural number, a half to the even one. -/
def divRound (num den : Nat) : Nat :=
  let q := num / den
  let r := num % den
  if 2 * r < den then q
  else if den < 2 * r then q + 1
  else if q % 2 = 0 then q else q + 1

/-- `num / den / 2 ^ exponent` as a quotient of natural numbers. -/
def scaled (num den : Nat) (exponent : Int) : Nat × Nat :=
  match exponent with
  | .ofNat e => (num, den * Nat.pow 2 e)
  | .negSucc e => (num * Nat.pow 2 (e + 1), den)

/-- The least exponent not below `guess` for which the quotient is below `2 ^ 53`. The guess is at
most one too small. -/
def settle (num den : Nat) (guess : Int) : Int :=
  let (n, d) := scaled num den guess
  if n < d * Nat.pow 2 53 then guess else guess + 1

/-- The number nearest to `num / den`; none where that is too large. -/
def ofRatio? (negative : Bool) (num den : Nat) : Option Binary64 :=
  if num = 0 then some (zero negative)
  else
    let guess : Int := (num.log2 : Int) - (den.log2 : Int) - 53
    let e := settle num den (max guess minExponent)
    let (n, d) := scaled num den e
    let m := divRound n d
    let (m, e) := if m = Nat.pow 2 53 then (Nat.pow 2 52, e + 1) else (m, e)
    if e ≤ maxExponent then some ⟨negative, m, e⟩ else none

/-- The magnitude as a quotient of natural numbers. -/
def ratio (x : Binary64) : Nat × Nat :=
  match x.exponent with
  | .ofNat e => (x.mantissa * Nat.pow 2 e, 1)
  | .negSucc e => (x.mantissa, Nat.pow 2 (e + 1))

def mul? (x y : Binary64) : Option Binary64 :=
  ofRatio? (x.negative != y.negative) (x.ratio.1 * y.ratio.1) (x.ratio.2 * y.ratio.2)

/-- Division; none for a quotient that is too large, and for a divisor of zero. -/
def div? (x y : Binary64) : Option Binary64 :=
  if y.isZero then none
  else ofRatio? (x.negative != y.negative) (x.ratio.1 * y.ratio.2) (x.ratio.2 * y.ratio.1)

def ofNat? (n : Nat) : Option Binary64 :=
  ofRatio? false n 1

/-- A decimal `digits * 10 ^ exponent`. -/
structure Decimal where
  digits : Nat
  exponent : Int
  deriving DecidableEq, Repr

/-- `10 ^ exponent` as a quotient of natural numbers. -/
def tenTo (exponent : Int) : Nat × Nat :=
  match exponent with
  | .ofNat e => (Nat.pow 10 e, 1)
  | .negSucc e => (1, Nat.pow 10 (e + 1))

/-- The interval of the reals that round to a positive number: its ends, as quotients with one
denominator, and whether the ends belong to it. -/
structure Rounding where
  low : Nat
  value : Nat
  high : Nat
  den : Nat
  closed : Bool

/-- The distance to the number below is halved where the mantissa is the least one. -/
def rounding (x : Binary64) : Rounding :=
  let below := if x.mantissa = Nat.pow 2 52 ∧ minExponent < x.exponent then 1 else 2
  let (scale, den) : Nat × Nat :=
    match x.exponent with
    | .ofNat e => (Nat.pow 2 e, 4)
    | .negSucc e => (1, 4 * Nat.pow 2 (e + 1))
  ⟨(4 * x.mantissa - below) * scale, 4 * x.mantissa * scale, (4 * x.mantissa + 2) * scale, den,
    x.mantissa % 2 == 0⟩

/-- Whether `digits * 10 ^ exponent` rounds to the number. -/
def Rounding.holds (i : Rounding) (digits : Nat) (exponent : Int) : Bool :=
  let (p, q) := tenTo exponent
  let value := digits * p * i.den
  if i.closed then i.low * q ≤ value && value ≤ i.high * q
  else i.low * q < value && value < i.high * q

/-- The multiple of `10 ^ exponent` that rounds to the number and lies nearest to it. -/
def Rounding.onGrid? (i : Rounding) (exponent : Int) : Option Nat :=
  let (p, q) := tenTo exponent
  let num := i.value * q
  let den := i.den * p
  let below := num / den
  match i.holds below exponent, i.holds (below + 1) exponent with
  | true, true => some (divRound num den)
  | true, false => some below
  | false, true => some (below + 1)
  | false, false => none

/-- Looks for the coarsest of `count` grids that has a decimal for the number. -/
def Rounding.coarsest (i : Rounding) (exponent : Int) : Nat → Decimal
  | 0 => ⟨0, exponent⟩
  | count + 1 =>
    match i.onGrid? exponent with
    | some digits => ⟨digits, exponent⟩
    | none => i.coarsest (exponent - 1) count

/-- The shortest decimal of a number's magnitude that reads back as the same number. -/
def shortest (x : Binary64) : Decimal :=
  let bits : Int := (x.mantissa.log2 : Int) + x.exponent
  -- 30103 / 100000 is a little more than the decimal logarithm of two
  x.rounding.coarsest (bits * 30103 / 100000 + 2) 24

end Binary64
end ReplyStage
