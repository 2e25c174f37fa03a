import ReplyStage.Text.Fields
/-!
# Sets of characters

Sets of characters as ranges of code points. A range is written as two hexadecimal numbers with a
dash between them, a single character as one number, and a set as ranges with spaces or line
breaks between them.
-/

namespace ReplyStage.Unicode

/-- Whether a character is in ASCII. -/
def isAscii (c : Char) : Bool := c.toNat < 0x80

/-- The value of a hexadecimal digit in upper case. -/
def hexDigitValue (c : Char) : Nat :=
  if c ≤ '9' then c.toNat - '0'.toNat else c.toNat - 'A'.toNat + 10

/-- The value of a hexadecimal number in upper case. -/
def readHex (s : String) : Nat :=
  s.toList.foldl (fun n c => n * 16 + hexDigitValue c) 0

/-- The words of a text in lines. -/
def words (s : String) : List String :=
  ((Text.split '\n' s).flatMap (Text.split ' ')).filter (· ≠ "")

/-- Reads a range of characters, which may be a single one. -/
def readRange (s : String) : Nat × Nat :=
  match (Text.split '-' s).map readHex with
  | [low, high] => (low, high)
  | [only] => (only, only)
  | _ => (0, 0)

/-- Reads a table in which characters have sequences of characters: a code point, a colon, and code
points with dashes between them. -/
def readSequences (s : String) : List (Nat × List Nat) :=
  (words s).map fun entry =>
    match Text.split ':' entry with
    | [code, sequence] => (readHex code, (Text.split '-' sequence).map readHex)
    | _ => (0, [])

/-- A set of characters, as first and last code points of ranges. -/
structure Ranges where
  list : List (Nat × Nat)
  deriving DecidableEq, Repr, Inhabited

namespace Ranges

def empty : Ranges := ⟨[]⟩

/-- Reads a set as it is written in tables. -/
def ofText (s : String) : Ranges := ⟨(words s).map readRange⟩

def union (a b : Ranges) : Ranges := ⟨a.list ++ b.list⟩

/-- Whether a code point is in a set. -/
def containsCode (r : Ranges) (n : Nat) : Bool :=
  r.list.any fun range => range.1 ≤ n && n ≤ range.2

/-- Whether a character is in a set. -/
def contains (r : Ranges) (c : Char) : Bool := r.containsCode c.toNat

end Ranges
end ReplyStage.Unicode
