import ReplyStage.Json.Value
/-!
# Writing JSON

The compact form of a document: no blanks, integers in decimal, other numbers in the shortest form
that reads back, and in strings only what has to be escaped.
-/

namespace ReplyStage

namespace Binary64

/-- Zeros in a row. -/
def zeros (count : Nat) : List Char := List.replicate count '0'

/-- The digits of a natural number. -/
def digitChars (n : Nat) : List Char := (Nat.repr n).toList

/-- The text of a magnitude: positional from `0.00001` up to below `10 ^ 16`, with a digit after
the point at least, and otherwise one digit before the point and an exponent with its sign. -/
def magnitudeChars (d : Decimal) : List Char :=
  let digits := digitChars d.digits
  let point : Int := digits.length + d.exponent
  match d.exponent with
  | .ofNat e =>
    if point ≤ 16 then digits ++ zeros e ++ ['.', '0']
    else scientific digits point
  | .negSucc _ =>
    if 0 < point ∧ point ≤ 16 then
      digits.take point.toNat ++ '.' :: digits.drop point.toNat
    else if -5 < point ∧ point ≤ 0 then '0' :: '.' :: zeros (-point).toNat ++ digits
    else scientific digits point
where
  /-- One digit, the others after a point, and the exponent. -/
  scientific (digits : List Char) (point : Int) : List Char :=
    let exponent := point - 1
    let sign := if exponent < 0 then '-' else '+'
    let mantissa :=
      match digits with
      | [] => []
      | [d] => [d]
      | d :: rest => d :: '.' :: rest
    mantissa ++ 'e' :: sign :: digitChars exponent.natAbs

/-- The text of a number. -/
def toChars (x : Binary64) : List Char :=
  let magnitude := if x.isZero then ['0', '.', '0'] else magnitudeChars x.shortest
  if x.negative then '-' :: magnitude else magnitude

end Binary64

namespace Json

/-- The text of a number. -/
def Number.toChars : Number → List Char
  | .integer i => (toString i).toList
  | .real x => x.toChars

/-- The digit of a number below 16, in lower case. -/
def hexDigit (n : Nat) : Char :=
  if n < 10 then Char.ofNat ('0'.toNat + n) else Char.ofNat ('a'.toNat + (n - 10))

/-- One character of a string. -/
def escapeChar (c : Char) : List Char :=
  if c = '"' then ['\\', '"']
  else if c = '\\' then ['\\', '\\']
  else if c = '\x08' then ['\\', 'b']
  else if c = '\x0c' then ['\\', 'f']
  else if c = '\n' then ['\\', 'n']
  else if c = '\r' then ['\\', 'r']
  else if c = '\t' then ['\\', 't']
  else if c < ' ' then ['\\', 'u', '0', '0', hexDigit (c.toNat / 16), hexDigit (c.toNat % 16)]
  else [c]

/-- A string in quotes. -/
def quoteChars (s : String) : List Char :=
  '"' :: s.toList.flatMap escapeChar ++ ['"']

mutual

/-- The compact form of a document. -/
def toChars : Json → List Char
  | .null => ['n', 'u', 'l', 'l']
  | .bool true => ['t', 'r', 'u', 'e']
  | .bool false => ['f', 'a', 'l', 's', 'e']
  | .number n => n.toChars
  | .string s => quoteChars s
  | .array items => '[' :: itemChars items ++ [']']
  | .object members => '\x7b' :: memberChars members ++ ['\x7d']

/-- Items with a comma between each two of them. -/
def itemChars : List Json → List Char
  | [] => []
  | [item] => toChars item
  | item :: next :: rest => toChars item ++ ',' :: itemChars (next :: rest)

/-- Members with a comma between each two of them. -/
def memberChars : List (String × Json) → List Char
  | [] => []
  | [(name, value)] => quoteChars name ++ ':' :: toChars value
  | (name, value) :: next :: rest =>
    quoteChars name ++ ':' :: toChars value ++ ',' :: memberChars (next :: rest)

end

/-- The compact form of a document. -/
def render (j : Json) : String := String.ofList (toChars j)

end Json
end ReplyStage
