import ReplyStage.Json.Numeral
import ReplyStage.Json.Quoted
/-!
# JSON as written

The structure of a text that is meant to be a JSON document, before anything is made of it: members
in the order written with repeated names, strings and numbers in their written form, and the place
where the text stops being JSON, if it does. Reading a text gives such a structure in every case.
What is wrong is reported by those who walk it, each for the parts that it looks at, in the order
of the text.
-/

namespace ReplyStage.Json

/-- A place where the text stops being JSON, with the reason for a reader that keeps the value
there and for one that skips it. -/
structure Break where
  offset : Nat
  kept : Cause
  skipped : Cause
  deriving DecidableEq, Repr

namespace Break

/-- A place with one reason for all readers. -/
def plain (offset : Nat) (cause : Cause) : Break := ⟨offset, cause, cause⟩

def keptFault (b : Break) : Fault := ⟨b.offset, b.kept⟩

def skippedFault (b : Break) : Fault := ⟨b.offset, b.skipped⟩

end Break

mutual

/-- A value as written, or the place where there is none. -/
inductive Source
  | null
  | bool (b : Bool)
  | number (n : Numeral)
  | string (q : Quoted)
  | array (items : Items)
  | object (members : Members)
  | broken (b : Break)
  deriving Repr

/-- The items of an array, each with the place where it begins. -/
inductive Items
  | done (ending : Option Break)
  | item (start : Nat) (value : Source) (rest : Items)
  deriving Repr

/-- The members of an object, each with the place where its value begins. -/
inductive Members
  | done (ending : Option Break)
  | member (name : Quoted) (start : Nat) (value : Source) (rest : Members)
  deriving Repr

end

/-! ## From bytes -/

/-- The white space of JSON. -/
def isSpace (b : UInt8) : Bool := b = 0x20 || b = 0x09 || b = 0x0A || b = 0x0D

/-- Passes over white space. -/
def skipSpace (offset : Nat) : Bytes → Nat × Bytes
  | [] => (offset, [])
  | b :: rest => if isSpace b then skipSpace (offset + 1) rest else (offset, b :: rest)

/-- Reads the rest of a word that has begun. -/
def readWord (value : Source) (offset : Nat) : Bytes → Bytes → Source × Nat × Bytes
  | [], bytes => (value, offset, bytes)
  | _ :: _, [] => (.broken (.plain offset .valueCut), offset, [])
  | e :: expected, b :: rest =>
    if b = e then readWord value (offset + 1) expected rest
    else (.broken (.plain (offset + 1) .expectedIdent), offset, [])

/-- The end of a string's content: what ends it, the content and the bytes after its end. -/
def splitQuoted : Bytes → Bytes × QuoteEnd × Bytes
  | [] => ([], .cut, [])
  | 0x22 :: rest => ([], .closed, rest)
  | 0x5C :: b :: rest =>
    let (content, ending, rest) := splitQuoted rest
    (0x5C :: b :: content, ending, rest)
  | b :: rest =>
    if b < 0x20 then ([], .control, rest)
    else
      let (content, ending, rest) := splitQuoted rest
      (b :: content, ending, rest)

/-- Reads a string after its opening quote. -/
def readQuoted (offset : Nat) (bytes : Bytes) : Quoted × Nat × Bytes :=
  let (content, ending, rest) := splitQuoted bytes
  let last := if ending = .cut then 0 else 1
  (⟨offset, content, ending, last + rest.length⟩, offset + content.length + last, rest)

/-- The value of a decimal digit. -/
def digitValue? (b : UInt8) : Option Nat :=
  if 0x30 ≤ b ∧ b ≤ 0x39 then some (b.toNat - 0x30) else none

/-- Digits at the front. -/
def readDigits : Bytes → List Nat × Bytes
  | [] => ([], [])
  | b :: rest =>
    match digitValue? b with
    | some d =>
      let (ds, rest) := readDigits rest
      (d :: ds, rest)
    | none => ([], b :: rest)

/-- The break in a number where a digit has to come. -/
def digitMissing (offset : Nat) : Bytes → Break
  | [] => ⟨offset, .valueCut, .invalidNumber⟩
  | _ :: _ => .plain (offset + 1) .invalidNumber

/-- Reads the digits before a point. A zero stands alone. -/
def readWhole (offset : Nat) (bytes : Bytes) : Except Break (List Nat × Nat × Bytes) :=
  match readDigits bytes with
  | ([], rest) => .error (digitMissing offset rest)
  | (0 :: _ :: _, _) => .error (.plain (offset + 2) .invalidNumber)
  | (ds, rest) => .ok (ds, offset + ds.length, rest)

/-- Reads a point and the digits after it, if there is one. -/
def readFraction (offset : Nat) : Bytes → Except Break (Option (List Nat) × Nat × Bytes)
  | 0x2E :: rest =>
    match readDigits rest with
    | ([], rest) => .error (digitMissing (offset + 1) rest)
    | (ds, rest) => .ok (some ds, offset + 1 + ds.length, rest)
  | bytes => .ok (none, offset, bytes)

/-- Reads the sign and the digits of an exponent. -/
def readExponentDigits (offset : Nat) (bytes : Bytes) :
    Except Break (Option WrittenExponent × Nat × Bytes) :=
  let (negative, offset, bytes) :=
    match bytes with
    | 0x2B :: rest => (false, offset + 1, rest)
    | 0x2D :: rest => (true, offset + 1, rest)
    | bytes => (false, offset, bytes)
  match readDigits bytes with
  | ([], rest) => .error (digitMissing offset rest)
  | (ds, rest) => .ok (some ⟨negative, ds, offset⟩, offset + ds.length, rest)

/-- Reads an exponent, if there is one. -/
def readExponent (offset : Nat) : Bytes → Except Break (Option WrittenExponent × Nat × Bytes)
  | 0x65 :: rest => readExponentDigits (offset + 1) rest
  | 0x45 :: rest => readExponentDigits (offset + 1) rest
  | bytes => .ok (none, offset, bytes)

/-- Reads a number after its sign. -/
def readNumeral (negative : Bool) (offset : Nat) (bytes : Bytes) :
    Except Break (Numeral × Nat × Bytes) := do
  let (whole, offset, bytes) ← readWhole offset bytes
  let (fraction, offset, bytes) ← readFraction offset bytes
  let (exponent, offset, bytes) ← readExponent offset bytes
  return (⟨negative, whole, fraction, exponent, offset⟩, offset, bytes)

/-- Reads a number, or finds that there is none. -/
def readNumber (negative : Bool) (offset : Nat) (bytes : Bytes) : Source × Nat × Bytes :=
  match readNumeral negative offset bytes with
  | .ok (n, offset, rest) => (.number n, offset, rest)
  | .error b => (.broken b, offset, [])

mutual

/-- Reads a value that begins with the first byte. -/
def readValue : Nat → Nat → Bytes → Source × Nat × Bytes
  | 0, offset, _ => (.broken (.plain offset .valueCut), offset, [])
  | _ + 1, offset, [] => (.broken (.plain offset .valueCut), offset, [])
  | fuel + 1, offset, b :: rest =>
    if b = 0x22 then
      let (q, offset, rest) := readQuoted (offset + 1) rest
      (.string q, offset, rest)
    else if b = 0x5B then
      let (items, offset, rest) := readItems fuel true (offset + 1) rest
      (.array items, offset, rest)
    else if b = 0x7B then
      let (members, offset, rest) := readMembers fuel true (offset + 1) rest
      (.object members, offset, rest)
    else if b = 0x6E then readWord .null (offset + 1) [0x75, 0x6C, 0x6C] rest
    else if b = 0x74 then readWord (.bool true) (offset + 1) [0x72, 0x75, 0x65] rest
    else if b = 0x66 then readWord (.bool false) (offset + 1) [0x61, 0x6C, 0x73, 0x65] rest
    else if b = 0x2D then readNumber true (offset + 1) rest
    else if (digitValue? b).isSome then readNumber false offset (b :: rest)
    else (.broken (.plain (offset + 1) .expectedValue), offset, [])

/-- Reads the items of an array up to its closing bracket; a comma comes before all but the first
of them. -/
def readItems : Nat → Bool → Nat → Bytes → Items × Nat × Bytes
  | 0, _, offset, _ => (.done (some (.plain offset .listCut)), offset, [])
  | fuel + 1, first, offset, bytes =>
    match skipSpace offset bytes with
    | (offset, []) => (.done (some (.plain offset .listCut)), offset, [])
    | (offset, b :: rest) =>
      if b = 0x5D then (.done none, offset + 1, rest)
      else if first then readItem fuel offset (b :: rest)
      else if b = 0x2C then
        match skipSpace (offset + 1) rest with
        | (start, bytes) =>
          if bytes.head? = some 0x5D then
            (.item start (.broken ⟨start + 1, .trailingComma, .expectedValue⟩) (.done none),
              start, [])
          else readItem fuel start bytes
      else (.done (some (.plain (offset + 1) .expectedCommaOrBracket)), offset, [])

/-- Reads one item and those after it. -/
def readItem : Nat → Nat → Bytes → Items × Nat × Bytes
  | 0, offset, _ => (.done (some (.plain offset .listCut)), offset, [])
  | fuel + 1, start, bytes =>
    let (value, offset, rest) := readValue fuel start bytes
    let (items, offset, rest) := readItems fuel false offset rest
    (.item start value items, offset, rest)

/-- Reads the members of an object up to its closing brace; a comma comes before all but the first
of them. -/
def readMembers : Nat → Bool → Nat → Bytes → Members × Nat × Bytes
  | 0, _, offset, _ => (.done (some (.plain offset .objectCut)), offset, [])
  | fuel + 1, first, offset, bytes =>
    match skipSpace offset bytes with
    | (offset, []) => (.done (some (.plain offset .objectCut)), offset, [])
    | (offset, b :: rest) =>
      if b = 0x7D then (.done none, offset + 1, rest)
      else if first then
        if b = 0x22 then readMember fuel (offset + 1) rest
        else (.done (some (.plain (offset + 1) .nameNotString)), offset, [])
      else if b = 0x2C then
        match skipSpace (offset + 1) rest with
        | (offset, []) => (.done (some ⟨offset, .valueCut, .objectCut⟩), offset, [])
        | (offset, c :: rest) =>
          if c = 0x22 then readMember fuel (offset + 1) rest
          else if c = 0x7D then
            (.done (some ⟨offset + 1, .trailingComma, .nameNotString⟩), offset, [])
          else (.done (some (.plain (offset + 1) .nameNotString)), offset, [])
      else (.done (some (.plain (offset + 1) .expectedCommaOrBrace)), offset, [])

/-- Reads one member after the opening quote of its name, and those after it. -/
def readMember : Nat → Nat → Bytes → Members × Nat × Bytes
  | 0, offset, _ => (.done (some (.plain offset .objectCut)), offset, [])
  | fuel + 1, offset, bytes =>
    let (name, offset, rest) := readQuoted offset bytes
    match skipSpace offset rest with
    | (offset, []) =>
      (.member name offset (.broken (.plain offset .objectCut)) (.done none), offset, [])
    | (offset, b :: rest) =>
      if b = 0x3A then
        let (start, rest) := skipSpace (offset + 1) rest
        let (value, offset, rest) := readValue fuel start rest
        let (members, offset, rest) := readMembers fuel false offset rest
        (.member name start value members, offset, rest)
      else
        (.member name offset (.broken (.plain (offset + 1) .expectedColon)) (.done none),
          offset, [])

end

/-- A whole text: where its value begins, the value, and the place of a byte after the value that
should not be there. -/
structure Document where
  start : Nat
  root : Source
  trailing : Option Nat
  deriving Repr

/-- The structure of a text. -/
def Document.ofBytes (bytes : Bytes) : Document :=
  let (start, rest) := skipSpace 0 bytes
  let (root, offset, rest) := readValue (3 * bytes.length + 3) start rest
  match skipSpace offset rest with
  | (_, []) => ⟨start, root, none⟩
  | (offset, _ :: _) => ⟨start, root, some (offset + 1)⟩

/-- The fault of a byte after the value. -/
def Document.trailingFault? (d : Document) : Option Fault :=
  d.trailing.map fun offset => ⟨offset, .trailingCharacters⟩

/-! ## Values that are skipped -/

mutual

/-- The first fault that skipping a value meets. -/
def Source.skipFault? : Source → Option Fault
  | .null | .bool _ | .number _ => none
  | .string q => q.skipFault?
  | .array items => items.skipFault?
  | .object members => members.skipFault?
  | .broken b => some b.skippedFault

def Items.skipFault? : Items → Option Fault
  | .done ending => ending.map Break.skippedFault
  | .item _ value rest => value.skipFault?.or rest.skipFault?

def Members.skipFault? : Members → Option Fault
  | .done ending => ending.map Break.skippedFault
  | .member name _ value rest => (name.skipFault?.or value.skipFault?).or rest.skipFault?

end

end ReplyStage.Json
