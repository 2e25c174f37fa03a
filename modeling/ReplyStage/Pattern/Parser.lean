import ReplyStage.Pattern.Basic
import ReplyStage.Text.Integer
/-!
# Reading patterns

The written form of patterns: literals, classes in brackets with set operations, escapes, groups
with names and flags, repetitions with bounds, and conditions on places. There is neither looking
ahead or behind nor referring back to a group.

A flag takes a part of a pattern out of Unicode: words, digits and case are then those of ASCII, and
a class stands for bytes. There a pattern is refused that could match a byte which is no character
by itself, or that names one.
-/

namespace ReplyStage.Pattern

/-- The flags that are in force at a place of a pattern. -/
structure Flags where
  ignoreCase : Bool := false
  multiLine : Bool := false
  dotAll : Bool := false
  swapGreed : Bool := false
  unicode : Bool := true
  crlf : Bool := false
  verbose : Bool := false
  deriving DecidableEq, Repr

/-- Drops a comment up to the end of its line. -/
def dropComment (cs : List Char) : List Char := cs.dropWhile (· ≠ '\n')

/-- Drops blanks and comments where they do not count. -/
def dropVerbose : Nat → List Char → List Char
  | 0, cs => cs
  | _, [] => []
  | fuel + 1, c :: rest =>
    if Text.isBlank c then dropVerbose fuel rest
    else if c = '#' then dropVerbose fuel (dropComment rest)
    else c :: rest

/-- The rest of a pattern from its next character that counts. -/
def skip (flags : Flags) (cs : List Char) : List Char :=
  if flags.verbose then dropVerbose (cs.length + 1) cs else cs

/-! ## Escapes -/

/-- What an escape stands for. -/
inductive Escape
  | char (c : Char)
  | named (c : CharClass)
  | look (l : Look)
  deriving DecidableEq, Repr

/-- The characters that have a meaning in patterns. -/
def isMeta (c : Char) : Bool :=
  c ∈ ['\\', '.', '+', '*', '?', '(', ')', '|', '[', ']', '\x7b', '\x7d', '^', '$', '#', '&', '-',
    '~']

/-- Whether a backslash takes a character as it is. -/
def isEscapable (c : Char) : Bool :=
  isMeta c || (c.toNat < 0x80 && !c.isAlphanum && c ≠ '<' && c ≠ '>')

/-- The value of a hexadecimal digit. -/
def hexValue? (c : Char) : Option Nat :=
  if '0' ≤ c ∧ c ≤ '9' then some (c.toNat - '0'.toNat)
  else if 'a' ≤ c ∧ c ≤ 'f' then some (c.toNat - 'a'.toNat + 10)
  else if 'A' ≤ c ∧ c ≤ 'F' then some (c.toNat - 'A'.toNat + 10)
  else none

/-- The character with a hexadecimal number. -/
def hexChar? (digits : List Char) : Option Char := do
  let values ← digits.mapM hexValue?
  let n := values.foldl (fun n d => n * 16 + d) 0
  if digits ≠ [] ∧ n.isValidChar then some (Char.ofNat n) else none

/-- Whether a character can be meant as a byte, outside of Unicode: from 0x80 on no byte is a
character by itself. -/
def fitsByte (flags : Flags) (c : Char) : Bool := flags.unicode || Unicode.isAscii c

/-- Reads a character by its number, after the letter of the escape. -/
def readHex (flags : Flags) (size : Nat) : List Char → Option (Escape × List Char)
  | '\x7b' :: rest =>
    match rest.dropWhile (· ≠ '\x7d') with
    | [] => none
    | _ :: after => (hexChar? (rest.takeWhile (· ≠ '\x7d'))).map fun c => (.char c, after)
  | cs =>
    if cs.length < size then none
    else
      match hexChar? (cs.take size) with
      | none => none
      -- two digits are a byte, more are a character
      | some c => if size ≠ 2 ∨ fitsByte flags c then some (.char c, cs.drop size) else none

/-- The class with a name, perhaps that of a property and a value. -/
def classNamed? (name : List Char) : Option CharClass :=
  let split (separator : Char) :=
    match Text.splitFirst? separator (String.ofList name) with
    | some (property, value) => CharClass.ofValue? property value
    | none => none
  match Text.splitFirst? '!' (String.ofList name) with
  | some (property, value) =>
    match value.toList with
    | '=' :: value => (CharClass.ofValue? property (String.ofList value)).map .negate
    | _ => none
  | none =>
    if ':' ∈ name then split ':'
    else if '=' ∈ name then split '='
    else CharClass.ofName? (String.ofList name)

/-- Reads a class by its name, after the letter of the escape. -/
def readClassName (flags : Flags) (negated : Bool) (cs : List Char) :
    Option (Escape × List Char) := do
  if ¬ flags.unicode then none
  let (name, after) ←
    match cs with
    | '\x7b' :: rest =>
      match rest.dropWhile (· ≠ '\x7d') with
      | [] => none
      | _ :: after => some (rest.takeWhile (· ≠ '\x7d'), after)
    | [] => none
    | c :: after => if c = '\\' then none else some ([c], after)
  let c ← classNamed? name
  let c := if flags.ignoreCase then .folded flags.unicode c else c
  return (.named (if negated then .negate c else c), after)

/-- A class of words, digits or blanks, in Unicode or in ASCII. -/
def perlClass? (flags : Flags) (letter : Char) : Option CharClass :=
  match letter with
  | 'd' => if flags.unicode then some .digit else CharClass.asciiClass? "digit"
  | 's' => if flags.unicode then some .space else CharClass.asciiClass? "space"
  | 'w' => some (.wordOf flags.unicode)
  | _ => none

/-- Reads what may follow the letter of a word boundary. -/
def readBoundary (flags : Flags) (cs : List Char) : Option (Escape × List Char) :=
  let edge (e : WordEdge) : Escape := .look (.word flags.unicode e)
  match cs with
  | '\x7b' :: rest =>
    let name := rest.takeWhile fun c => c.isAlpha || c = '-'
    match name, rest.drop name.length with
    | [], [] => none
    | [], _ => some (edge .boundary, cs)
    | _, '\x7d' :: after =>
      match String.ofList name with
      | "start" => some (edge .start, after)
      | "end" => some (edge .ending, after)
      | "start-half" => some (edge .startHalf, after)
      | "end-half" => some (edge .endHalf, after)
      | _ => none
    | _, _ => none
  | _ => some (edge .boundary, cs)

/-- Reads an escape after its backslash. -/
def readEscape (flags : Flags) : List Char → Option (Escape × List Char)
  | [] => none
  | c :: rest =>
    match c with
    | 'x' => readHex flags 2 rest
    | 'u' => readHex flags 4 rest
    | 'U' => readHex flags 8 rest
    | 'p' => readClassName flags false rest
    | 'P' => readClassName flags true rest
    | 'D' | 'S' | 'W' =>
      if flags.unicode then (perlClass? flags c.toLower).map fun k => (.named (.negate k), rest)
      else none
    | 'a' => some (.char '\x07', rest)
    | 'f' => some (.char '\x0c', rest)
    | 't' => some (.char '\t', rest)
    | 'n' => some (.char '\n', rest)
    | 'r' => some (.char '\r', rest)
    | 'v' => some (.char '\x0b', rest)
    | 'A' => some (.look .textStart, rest)
    | 'z' => some (.look .textEnd, rest)
    | 'b' => readBoundary flags rest
    | 'B' => some (.look (.word flags.unicode .notBoundary), rest)
    | '<' => some (.look (.word flags.unicode .start), rest)
    | '>' => some (.look (.word flags.unicode .ending), rest)
    | _ =>
      match perlClass? flags c with
      | some k => some (.named k, rest)
      | none => if isEscapable c then some (.char c, rest) else none

/-! ## Classes in brackets -/

/-- Reads one item of a class: a character, which may begin a range, or a class with a name. -/
def readClassItem (flags : Flags) : List Char → Option ((Char ⊕ CharClass) × List Char)
  | [] => none
  | '\\' :: rest =>
    match readEscape flags rest with
    | some (.char c, rest) => if fitsByte flags c then some (.inl c, rest) else none
    | some (.named k, rest) => some (.inr k, rest)
    | _ => none
  | c :: rest => if fitsByte flags c then some (.inl c, rest) else none

/-- Reads a range, or an item alone. A dash before a bracket or another dash makes no range. -/
def readClassRange (flags : Flags) (cs : List Char) : Option (CharClass × List Char) := do
  let (first, rest) ← readClassItem flags cs
  let alone : CharClass :=
    match first with
    | .inl c => .single c
    | .inr k => k
  match skip flags rest with
  | [] => none
  | '-' :: after =>
    match skip flags after with
    | [] => none
    | ']' :: _ | '-' :: _ => return (alone, '-' :: after)
    | next =>
      let (last, rest) ← readClassItem flags next
      match first, last with
      | .inl low, .inl high => if low ≤ high then return (.range low high, rest) else none
      | _, _ => none
  | rest => return (alone, rest)

/-- A class with all characters that count as one of it, where case does not count. -/
def foldCase (flags : Flags) (k : CharClass) : CharClass :=
  if flags.ignoreCase then .folded flags.unicode k else k

/-- The class at the end of its bracket: case first, and then all other characters if it is negated.
Outside of Unicode the bytes from 0x80 on cannot be named (`fitsByte`), so each class lacks them: a
negated class would have them, and none is read. -/
def closeClass (flags : Flags) (negated : Bool) (k : CharClass) : Option CharClass :=
  if ¬ negated then some (foldCase flags k)
  else if flags.unicode then some (.negate (foldCase flags k))
  else none

/-- Reads the name of an ASCII class after its opening bracket. -/
def readAsciiClass? : List Char → Option ((Bool × CharClass) × List Char)
  | ':' :: rest =>
    let (negated, rest) :=
      match rest with
      | '^' :: rest => (true, rest)
      | rest => (false, rest)
    match rest.dropWhile (· ≠ ':') with
    | ':' :: ']' :: after =>
      (CharClass.asciiClass? (String.ofList (rest.takeWhile (· ≠ ':')))).map fun k =>
        ((negated, k), after)
    | _ => none
  | _ => none

/-- The operations on classes. -/
inductive ClassOp
  | inter
  | diff
  | symmDiff
  deriving DecidableEq, Repr

def ClassOp.apply (op : ClassOp) (a b : CharClass) : CharClass :=
  match op with
  | .inter => .inter a b
  | .diff => .diff a b
  | .symmDiff => .symmDiff a b

/-- A class, and how deep brackets and operations lie in one another in its text. -/
structure NestedClass where
  chars : CharClass
  depth : Nat
  deriving DecidableEq, Repr

/-- What has been read of a class: its items as one class, how many they are and the depth of the
deepest. -/
structure Items where
  chars : CharClass := .empty
  count : Nat := 0
  depth : Nat := 0
  deriving DecidableEq, Repr

/-- One more item. -/
def Items.add (items : Items) (k : CharClass) (depth : Nat := 0) : Items :=
  ⟨.union items.chars k, items.count + 1, Nat.max items.depth depth⟩

/-- The items as one class. Several of them are a level of their own. -/
def Items.all (items : Items) : NestedClass :=
  ⟨items.chars, if items.count ≤ 1 then items.depth else items.depth + 1⟩

/-- A class and the operation that waits for its second operand. -/
abbrev Waiting := Option (NestedClass × ClassOp)

/-- Applies the operation that waits, if one does. -/
def settle (flags : Flags) (waiting : Waiting) (items : Items) : NestedClass :=
  match waiting with
  | none => items.all
  | some (left, op) =>
    ⟨op.apply (foldCase flags left.chars) (foldCase flags items.all.chars),
      Nat.max left.depth items.all.depth + 1⟩

/-- Reads dashes at the beginning of a class, and a closing bracket that stands first. -/
def readClassStart (flags : Flags) (cs : List Char) : Items × List Char :=
  match cs with
  | ']' :: rest => (Items.add {} (.single ']'), skip flags rest)
  | _ =>
    let start := cs.takeWhile fun c => c = '-' || (flags.verbose && Text.isBlank c)
    let dashes := start.filter (· = '-')
    if dashes = [] then ({}, cs)
    else (dashes.foldl (fun items c => items.add (.single c)) {}, skip flags (cs.drop start.length))

/-- Reads a class after its opening bracket, with the items read so far. -/
def readClass (flags : Flags) (negated : Bool) :
    Nat → Waiting → Items → List Char → Option (NestedClass × List Char)
  | 0, _, _, _ => none
  | fuel + 1, waiting, items, cs =>
    let operate (op : ClassOp) (rest : List Char) : Option (NestedClass × List Char) :=
      readClass flags negated fuel (some (settle flags waiting items, op)) {} rest
    match skip flags cs with
    | [] => none
    | '[' :: rest =>
      match readAsciiClass? rest with
      | some ((inverted, k), rest) =>
        (closeClass flags inverted k).bind fun k =>
          readClass flags negated fuel waiting (items.add k) rest
      | none =>
        let (inverted, rest) :=
          match skip flags rest with
          | '^' :: rest => (true, skip flags rest)
          | rest => (false, rest)
        let (first, rest) := readClassStart flags rest
        match readClass flags inverted fuel none first rest with
        | none => none
        | some (k, rest) => readClass flags negated fuel waiting (items.add k.chars k.depth) rest
    | ']' :: rest =>
      let k := settle flags waiting items
      (closeClass flags negated k.chars).map fun chars => (⟨chars, k.depth + 1⟩, rest)
    | '&' :: '&' :: rest => operate .inter rest
    | '-' :: '-' :: rest => operate .diff rest
    | '~' :: '~' :: rest => operate .symmDiff rest
    | cs =>
      match readClassRange flags cs with
      | none => none
      | some (k, rest) => readClass flags negated fuel waiting (items.add k) rest

/-- Reads a class after the bracket that opens it. -/
def readBracket (flags : Flags) (cs : List Char) : Option (NestedClass × List Char) :=
  let (negated, rest) :=
    match skip flags cs with
    | '^' :: rest => (true, skip flags rest)
    | rest => (false, rest)
  let (first, rest) := readClassStart flags rest
  readClass flags negated (cs.length + 1) none first rest

/-! ## Groups and repetitions -/

/-- Sets or clears the flag with a letter. -/
def Flags.put (flags : Flags) (letter : Char) (value : Bool) : Option Flags :=
  match letter with
  | 'i' => some { flags with ignoreCase := value }
  | 'm' => some { flags with multiLine := value }
  | 's' => some { flags with dotAll := value }
  | 'U' => some { flags with swapGreed := value }
  | 'u' => some { flags with unicode := value }
  | 'R' => some { flags with crlf := value }
  | 'x' => some { flags with verbose := value }
  | _ => none

/-- Reads flags up to a colon or a closing parenthesis, each at most once. -/
def readFlags (flags : Flags) (value : Bool) (before : List Char) :
    List Char → Option (Flags × List Char)
  | [] => none
  | c :: rest =>
    if c = ':' ∨ c = ')' then
      if before.head? = some '-' ∨ (c = ')' ∧ before = []) then none else some (flags, c :: rest)
    else if c ∈ before then none
    else if c = '-' then readFlags flags false (c :: before) rest
    else
      match flags.put c value with
      | none => none
      | some flags => readFlags flags value (c :: before) rest

/-- Whether a character may be in the name of a group. -/
def isNameChar (first : Bool) (c : Char) : Bool :=
  c = '_' || (Unicode.property "alpha").contains c ||
    (!first && (c = '.' || c = '[' || c = ']' ||
      (Unicode.categoryUnion ["nd", "nl", "no"]).contains c))

/-- Reads the name of a group up to its closing angle. -/
def readName (cs : List Char) : Option (List Char × List Char) :=
  let name := cs.takeWhile (· ≠ '>')
  match name, cs.drop name.length with
  | c :: others, '>' :: rest =>
    if isNameChar true c ∧ others.all (isNameChar false) then some (name, rest) else none
  | _, _ => none

/-- How a parenthesis begins. -/
inductive GroupStart
  /-- a group, with its flags and perhaps a name -/
  | group (flags : Flags) (name : Option (List Char))
  /-- flags for the rest of the group around it -/
  | flags (flags : Flags)
  deriving DecidableEq, Repr

/-- Reads what follows an opening parenthesis. -/
def readGroupStart (flags : Flags) (cs : List Char) : Option (GroupStart × List Char) :=
  match skip flags cs with
  | '?' :: '=' :: _ | '?' :: '!' :: _ | '?' :: '<' :: '=' :: _ | '?' :: '<' :: '!' :: _ => none
  | '?' :: 'P' :: '<' :: rest | '?' :: '<' :: rest =>
    (readName rest).map fun (name, rest) => (.group flags (some name), rest)
  | '?' :: rest =>
    match readFlags flags true [] rest with
    | some (inner, ':' :: rest) => some (.group inner none, rest)
    | some (inner, _ :: rest) => some (.flags inner, rest)
    | _ => none
  | rest => some (.group flags none, rest)

/-- Reads a number of at most 32 bits with blanks around it. -/
def readCount (flags : Flags) (cs : List Char) : Option (Nat × List Char) :=
  let cs := (skip flags cs).dropWhile Text.isBlank
  let digits := cs.takeWhile fun c => '0' ≤ c && c ≤ '9'
  match Text.readNat (Nat.pow 2 32 - 1) (String.ofList digits) with
  | .ok n => some (n, (skip flags (cs.drop digits.length)).dropWhile Text.isBlank)
  | .error _ => none

/-- Reads the bounds of a repetition after the opening brace. -/
def readBounds (flags : Flags) (cs : List Char) : Option ((Nat × Option Nat) × List Char) := do
  let (min, rest) ← readCount flags cs
  match rest with
  | '\x7d' :: rest => return ((min, some min), rest)
  | ',' :: rest =>
    match skip flags rest with
    | '\x7d' :: rest => return ((min, none), rest)
    | rest =>
      match ← readCount flags rest with
      | (max, '\x7d' :: rest) => if min ≤ max then return ((min, some max), rest) else none
      | _ => none
  | _ => none

/-- Drops the mark of a repetition that prefers few. -/
def dropLazy (flags : Flags) (cs : List Char) : List Char :=
  match skip flags cs with
  | '?' :: rest => rest
  | rest => rest

/-- A pattern, and how deep groups, repetitions, alternatives, sequences and classes lie in one
another in its text. -/
structure Nested where
  pattern : Pattern
  depth : Nat := 0
  deriving DecidableEq, Repr

/-- What has been read of a sequence: its parts, the last one first. A part that sets flags is
none, and cannot be repeated. -/
abbrev Parts := List (Option Nested)

/-- The parts of a sequence as one pattern. Several of them are a level of their own. -/
def sequence (parts : Parts) : Nested :=
  let joined := parts.foldl (fun later part =>
    match part, later with
    | none, later => later
    | some p, ⟨.empty, depth⟩ => ⟨p.pattern, Nat.max depth p.depth⟩
    | some p, later => ⟨.seq p.pattern later.pattern, Nat.max later.depth p.depth⟩) ⟨.empty, 0⟩
  if parts.length ≤ 1 then joined else ⟨joined.pattern, joined.depth + 1⟩

/-- One more alternative after those before it. -/
def addAlternative (before : Option Nested) (parts : Parts) : Nested :=
  match before with
  | none => sequence parts
  | some p => ⟨.alt p.pattern (sequence parts).pattern, Nat.max p.depth (sequence parts).depth⟩

/-- A sequence after the alternatives before it. Several alternatives are a level of their own. -/
def alternatives (before : Option Nested) (parts : Parts) : Nested :=
  let all := addAlternative before parts
  if before.isNone then all else ⟨all.pattern, all.depth + 1⟩

/-- The pattern of one character. -/
def literal (flags : Flags) (c : Char) : Pattern := .one (foldCase flags (.single c))

/-- The pattern of an escape. -/
def ofEscape (flags : Flags) : Escape → Pattern
  | .char c => literal flags c
  | .named k => .one k
  | .look l => .look l

/-- The pattern of any character, which may leave out line breaks. -/
def dot (flags : Flags) : Pattern :=
  if flags.dotAll then .one .any
  else if flags.crlf then .one (.negate (.oneOf ['\n', '\r']))
  else .one (.negate (.single '\n'))

/-- The condition of a caret. -/
def caret (flags : Flags) : Pattern :=
  .look (if flags.multiLine then .lineStart flags.crlf else .textStart)

/-- The condition of a dollar sign. -/
def dollar (flags : Flags) : Pattern :=
  .look (if flags.multiLine then .lineEnd flags.crlf else .textEnd)

/-- What reading a group gives: its pattern, the names of groups so far, and the rest. -/
abbrev Group := Nested × List (List Char) × List Char

/-- Reads a group up to its closing parenthesis or the end of the pattern: the alternatives before,
the parts of the present one, the names of groups so far. -/
def readGroup : Nat → Flags → Option Nested → Parts → List (List Char) → List Char → Option Group
  | 0, _, _, _, _, _ => none
  | fuel + 1, flags, before, parts, names, cs =>
    let again (bounds : Nat × Option Nat) (rest : List Char) : Option Group :=
      match parts with
      | some p :: parts =>
        readGroup fuel flags before
          (some ⟨.repeated p.pattern bounds.1 bounds.2, p.depth + 1⟩ :: parts) names
          (dropLazy flags rest)
      | _ => none
    let add (p : Nested) (rest : List Char) : Option Group :=
      readGroup fuel flags before (some p :: parts) names rest
    match skip flags cs with
    | [] => some (alternatives before parts, names, [])
    | ')' :: rest => some (alternatives before parts, names, ')' :: rest)
    | '|' :: rest => readGroup fuel flags (some (addAlternative before parts)) [] names rest
    | '?' :: rest => again (0, some 1) rest
    | '*' :: rest => again (0, none) rest
    | '+' :: rest => again (1, none) rest
    | '\x7b' :: rest => (readBounds flags rest).bind fun (bounds, rest) => again bounds rest
    | '[' :: rest =>
      (readBracket flags rest).bind fun (k, rest) => add ⟨.one k.chars, k.depth⟩ rest
    | '\\' :: rest => (readEscape flags rest).bind fun (e, rest) => add ⟨ofEscape flags e, 0⟩ rest
    | '.' :: rest => if flags.unicode then add ⟨dot flags, 0⟩ rest else none
    | '^' :: rest => add ⟨caret flags, 0⟩ rest
    | '$' :: rest => add ⟨dollar flags, 0⟩ rest
    | '(' :: rest =>
      match readGroupStart flags rest with
      | none => none
      | some (.flags inner, rest) => readGroup fuel inner before (none :: parts) names rest
      | some (.group inner name, rest) =>
        -- no two groups share a name
        if name.any names.contains then none
        else
          match readGroup fuel inner none [] (name.toList ++ names) rest with
          | some (p, names, ')' :: rest) =>
            readGroup fuel flags before (some ⟨p.pattern, p.depth + 1⟩ :: parts) names rest
          | _ => none
    | c :: rest => add ⟨literal flags c, 0⟩ rest

/-- The most levels that a pattern may have. -/
def maxDepth : Nat := 250

/-- Reads a pattern; none for a text that is no pattern, or whose pattern is too large. -/
def ofText? (s : String) : Option Pattern :=
  match readGroup (s.toList.length + 1) {} none [] [] s.toList with
  | some (⟨p, depth⟩, _, []) => if p.room ≤ maxRoom ∧ depth ≤ maxDepth then some p else none
  | _ => none

end ReplyStage.Pattern
