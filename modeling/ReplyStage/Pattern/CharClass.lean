import ReplyStage.Unicode.CaseFolding
import ReplyStage.Unicode.Category
import ReplyStage.Unicode.Property
import ReplyStage.Unicode.Script
/-!
# Classes of characters

What one place of a pattern matches: sets of characters, combined as sets are. Classes have names:
the general categories, scripts and properties of Unicode, and the classes of ASCII.
-/

namespace ReplyStage

/-- A class of characters. -/
inductive CharClass
  | set (r : Unicode.Ranges)
  | union (a b : CharClass)
  | inter (a b : CharClass)
  | diff (a b : CharClass)
  | symmDiff (a b : CharClass)
  | negate (a : CharClass)
  /-- the characters that count as one of the class where case does not count, in Unicode or in
  ASCII only -/
  | folded (unicode : Bool) (a : CharClass)
  deriving DecidableEq, Repr

namespace CharClass

/-- The characters that count as a character where case does not count. -/
def caseVariants (unicode : Bool) (c : Char) : List Char :=
  if unicode then Unicode.caseVariants c else [c.toLower, c.toUpper]

/-- Whether a character is in a class. -/
def contains : CharClass → Char → Bool
  | .set r, c => r.contains c
  | .union a b, c => a.contains c || b.contains c
  | .inter a b, c => a.contains c && b.contains c
  | .diff a b, c => a.contains c && !b.contains c
  | .symmDiff a b, c => a.contains c != b.contains c
  | .negate a, c => !a.contains c
  | .folded unicode a, c => a.contains c || (caseVariants unicode c).any a.contains

/-- The class without characters. -/
def empty : CharClass := .set .empty

/-- The characters from one to another. -/
def range (low high : Char) : CharClass := .set ⟨[(low.toNat, high.toNat)]⟩

/-- One character. -/
def single (c : Char) : CharClass := range c c

/-- The given characters. -/
def oneOf (cs : List Char) : CharClass := .set ⟨cs.map fun c => (c.toNat, c.toNat)⟩

/-- All characters. -/
def any : CharClass := .negate empty

/-- How much room a class takes in a compiled pattern, in bytes. -/
def room : CharClass → Nat
  | .set r =>
    match r.list with
    | [(low, high)] => if low = high then 32 * (Char.ofNat low).utf8Size else 64
    | ranges => 32 + 24 * ranges.length
  | .union a b | .inter a b | .diff a b | .symmDiff a b => a.room + b.room
  | .negate a => a.room + 96
  | .folded _ a => a.room * 2

/-! ## Classes with names -/

/-- The decimal digits of all scripts. -/
def digit : CharClass := .set (Unicode.category "nd")

/-- White space. -/
def space : CharClass := .set (Unicode.property "space")

/-- The characters of words: letters, marks, digits and connecting punctuation. -/
def word : CharClass :=
  .set ((Unicode.categoryUnion ["mn", "mc", "me", "nd", "pc"]).union
    ((Unicode.property "alpha").union (Unicode.property "joinc")))

/-- The characters of words in ASCII: letters, digits and the underscore. -/
def asciiWord : CharClass := .set ⟨[(0x30, 0x39), (0x41, 0x5A), (0x5F, 0x5F), (0x61, 0x7A)]⟩

/-- The characters of words, in Unicode or in ASCII. -/
def wordOf (unicode : Bool) : CharClass := if unicode then word else asciiWord

/-- The classes of ASCII with their names. -/
def asciiClass? (name : String) : Option CharClass :=
  match name with
  | "alnum" => some (.set ⟨[(0x30, 0x39), (0x41, 0x5A), (0x61, 0x7A)]⟩)
  | "alpha" => some (.set ⟨[(0x41, 0x5A), (0x61, 0x7A)]⟩)
  | "ascii" => some (.set ⟨[(0, 0x7F)]⟩)
  | "blank" => some (.set ⟨[(0x09, 0x09), (0x20, 0x20)]⟩)
  | "cntrl" => some (.set ⟨[(0, 0x1F), (0x7F, 0x7F)]⟩)
  | "digit" => some (.set ⟨[(0x30, 0x39)]⟩)
  | "graph" => some (.set ⟨[(0x21, 0x7E)]⟩)
  | "lower" => some (.set ⟨[(0x61, 0x7A)]⟩)
  | "print" => some (.set ⟨[(0x20, 0x7E)]⟩)
  | "punct" => some (.set ⟨[(0x21, 0x2F), (0x3A, 0x40), (0x5B, 0x60), (0x7B, 0x7E)]⟩)
  | "space" => some (.set ⟨[(0x09, 0x0D), (0x20, 0x20)]⟩)
  | "upper" => some (.set ⟨[(0x41, 0x5A)]⟩)
  | "word" => some asciiWord
  | "xdigit" => some (.set ⟨[(0x30, 0x39), (0x41, 0x46), (0x61, 0x66)]⟩)
  | _ => none

/-- The form in which names compare: lower case, without blanks, dashes and underscores, and
without a leading `is`. -/
def looseName (s : String) : String :=
  let cs := (s.toList.filter fun c => c ≠ '_' && c ≠ '-' && c ≠ ' ').map Char.toLower
  match cs with
  | 'i' :: 's' :: c :: rest =>
    if c = 'c' ∧ rest = [] then String.ofList cs else String.ofList (c :: rest)
  | cs => String.ofList cs

/-- The entry with one of two names in a table. -/
def named? (table : List (String × String × Unicode.Ranges)) (name : String) : Option CharClass :=
  (table.find? fun e => e.1 = name || e.2.1 = name).map fun e => .set e.2.2

/-- A general category or a group of them. -/
def category? (name : String) : Option CharClass :=
  match name with
  | "any" => some any
  | "ascii" => asciiClass? "ascii"
  | "assigned" => some (.set Unicode.assigned)
  | "cn" | "unassigned" => some (.negate (.set Unicode.assigned))
  | "c" | "other" =>
    some (.union (.set (Unicode.categoryUnion ["cc", "cf", "cs", "co"]))
      (.negate (.set Unicode.assigned)))
  | "cntrl" => named? Unicode.categories "cc"
  | "digit" => named? Unicode.categories "nd"
  | "punct" => some (.set (Unicode.categoryUnion ["pc", "pd", "ps", "pe", "pi", "pf", "po"]))
  | "combiningmark" => some (.set (Unicode.categoryUnion ["mn", "mc", "me"]))
  | _ =>
    match Unicode.categoryGroups.find? fun g => g.1 = name || g.2.1 = name with
    | some g => some (.set (Unicode.categoryUnion g.2.2))
    | none => named? Unicode.categories name

/-- The class with a name of its own: a property, a general category or a script. -/
def ofName? (name : String) : Option CharClass :=
  let name := looseName name
  (named? Unicode.properties name).or ((category? name).or (named? Unicode.scripts name))

/-- The class of the characters for which a property has a value. -/
def ofValue? (property value : String) : Option CharClass :=
  let value := looseName value
  match looseName property with
  | "gc" | "generalcategory" => category? value
  | "sc" | "script" | "scx" | "scriptextensions" => named? Unicode.scripts value
  | _ => none

end CharClass
end ReplyStage
