/-!
# Punycode

The form in which a text beyond ASCII is written in ASCII: its ASCII characters, a dash, and then
for every other character, in the order of code points, how far it lies from the one before. The
distances are numbers of variable length with 36 digits. How long a number gets is adapted to the
distances so far.
-/

namespace ReplyStage.Text.Punycode

/-- The value of a digit: the letters come before the digits of numbers. -/
def digitValue? (c : Char) : Option Nat :=
  if 'a' ≤ c ∧ c ≤ 'z' then some (c.toNat - 'a'.toNat)
  else if 'A' ≤ c ∧ c ≤ 'Z' then some (c.toNat - 'A'.toNat)
  else if '0' ≤ c ∧ c ≤ '9' then some (c.toNat - '0'.toNat + 26)
  else none

/-- A digit below this value is the last one of its number. -/
def threshold (position bias : Nat) : Nat := Nat.min 26 (Nat.max 1 (position - bias))

/-- A distance brought below 456, and how far the position of its digits moves for it. -/
def scaleDown (distance position : Nat) : Nat × Nat :=
  if 455 < distance then scaleDown (distance / 35) (position + 36) else (distance, position)
termination_by distance
decreasing_by exact Nat.div_lt_self (by omega) (by omega)

/-- The bias after a distance, in a text that has come to some length by it. -/
def adapt (distance length : Nat) (first : Bool) : Nat :=
  let damped := if first then distance / 700 else distance / 2
  let (distance, position) := scaleDown (damped + damped / length) 0
  position + 36 * distance / (distance + 38)

/-- How far decoding is: the text so far, the last code point and the place after it, and what has
been read of the present number. -/
structure Decoding where
  text : List Char
  code : Nat := 0x80
  place : Nat := 0
  bias : Nat := 72
  distance : Nat := 0
  weight : Nat := 1
  position : Nat := 36

/-- The end of a number: a character is put into the text. A distance counts places in the text, and
at the end of the text goes on with the next code point. -/
def Decoding.insert (d : Decoding) : Option Decoding :=
  let length := d.text.length + 1
  let reached := d.place + d.distance
  let code := d.code + reached / length
  if code.isValidChar then
    let place := reached % length
    some { text := d.text.insertIdx place (Char.ofNat code)
           code
           place := place + 1
           bias := adapt d.distance length (d.place = 0) }
  else none

/-- Decodes the digits of numbers. -/
def decodeDigits (d : Decoding) : List Char → Option (List Char)
  -- nothing may be left of a number
  | [] => if d.position = 36 then some d.text else none
  | c :: rest =>
    match digitValue? c with
    | none => none
    | some digit =>
      let limit := threshold d.position d.bias
      let more := { d with
        distance := d.distance + digit * d.weight
        weight := d.weight * (36 - limit)
        position := d.position + 36 }
      if digit < limit then
        match more.insert with
        | none => none
        | some next => decodeDigits next rest
      else decodeDigits more rest

/-- Decodes a text. What stands before its last dash is taken as it is. -/
def decode (cs : List Char) : Option (List Char) :=
  let digits := (cs.reverse.takeWhile (· ≠ '-')).reverse
  let plain := cs.take (cs.length - digits.length - 1)
  if plain.any (0x80 ≤ ·.toNat) then none
  -- a dash that comes first has nothing to end, and is no digit
  else if plain = [] then decodeDigits { text := [] } cs
  else decodeDigits { text := plain } digits

end ReplyStage.Text.Punycode
