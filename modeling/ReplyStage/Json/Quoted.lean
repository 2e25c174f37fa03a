import ReplyStage.Json.Fault
/-!
# Strings as written

A JSON string between its quotes, with its escapes, and the text it stands for. Reading a string
that is kept checks everything: escapes, pairs of surrogates, UTF-8. A string that is skipped only
has to be recognisable, so surrogates and malformed UTF-8 pass.
-/

namespace ReplyStage.Json

/-- What comes after the content of a string. -/
inductive QuoteEnd
  | closed
  | cut
  | control
  deriving DecidableEq, Repr

/-- The content of a string as written, where it starts, what ends it, and how many bytes of the
text come after the content. -/
structure Quoted where
  start : Nat
  content : Bytes
  ending : QuoteEnd
  following : Nat
  deriving DecidableEq, Repr

namespace Quoted

/-- The value of a hexadecimal digit. -/
def hexValue? (b : UInt8) : Option Nat :=
  if 0x30 ≤ b ∧ b ≤ 0x39 then some (b.toNat - 0x30)
  else if 0x41 ≤ b ∧ b ≤ 0x46 then some (b.toNat - 0x37)
  else if 0x61 ≤ b ∧ b ≤ 0x66 then some (b.toNat - 0x57)
  else none

/-- The value of four hexadecimal digits. -/
def hexQuad? (a b c d : UInt8) : Option Nat := do
  let a ← hexValue? a
  let b ← hexValue? b
  let c ← hexValue? c
  let d ← hexValue? d
  return ((a * 16 + b) * 16 + c) * 16 + d

/-- The byte that a backslash and one letter stand for. -/
def simpleEscape? (b : UInt8) : Option UInt8 :=
  if b = 0x22 then some 0x22
  else if b = 0x5C then some 0x5C
  else if b = 0x2F then some 0x2F
  else if b = 0x62 then some 0x08
  else if b = 0x66 then some 0x0C
  else if b = 0x6E then some 0x0A
  else if b = 0x72 then some 0x0D
  else if b = 0x74 then some 0x09
  else none

def isHighSurrogate (n : Nat) : Bool := 0xD800 ≤ n && n ≤ 0xDBFF

def isLowSurrogate (n : Nat) : Bool := 0xDC00 ≤ n && n ≤ 0xDFFF

/-- The character of a pair of surrogates. -/
def joinSurrogates (high low : Nat) : Char :=
  Char.ofNat ((high - 0xD800) * 0x400 + (low - 0xDC00) + 0x10000)

/-- The number of bytes of the text up to its end. -/
def textSize (q : Quoted) : Nat := q.start + q.content.length + q.following

/-- The fault of four hexadecimal digits that are not there; `offset` is where they begin and
`left` what remains of the content. -/
def badQuad (q : Quoted) (offset : Nat) (left : Bytes) : Fault :=
  if left.length + q.following < 4 then ⟨q.textSize, .stringCut⟩ else ⟨offset + 4, .invalidEscape⟩

/-- The fault of a content that ends where a second surrogate has to come. -/
def loneAtEnd (q : Quoted) (offset : Nat) : Fault :=
  match q.ending with
  | .cut => ⟨offset, .stringCut⟩
  | .closed | .control => ⟨offset + 1, .escapeCut⟩

/-- The bytes that a content stands for; `offset` is where the rest of the content begins. -/
def unescape (q : Quoted) (offset : Nat) : Bytes → Except Fault Bytes
  | [] => .ok []
  | 0x5C :: 0x75 :: a :: b :: c :: d :: rest =>
    match hexQuad? a b c d with
    | none => .error (q.badQuad (offset + 2) (a :: b :: c :: d :: rest))
    | some n =>
      if isLowSurrogate n then .error ⟨offset + 6, .loneSurrogate⟩
      else if isHighSurrogate n then
        match rest with
        | 0x5C :: 0x75 :: e :: f :: g :: h :: rest =>
          match hexQuad? e f g h with
          | none => .error (q.badQuad (offset + 8) (e :: f :: g :: h :: rest))
          | some m =>
            if isLowSurrogate m then
              (unescape q (offset + 12) rest).map (String.utf8EncodeChar (joinSurrogates n m) ++ ·)
            else .error ⟨offset + 12, .loneSurrogate⟩
        | 0x5C :: 0x75 :: left => .error (q.badQuad (offset + 8) left)
        | 0x5C :: _ :: _ => .error ⟨offset + 8, .escapeCut⟩
        | [0x5C] => .error ⟨offset + 7, .stringCut⟩
        | _ :: _ => .error ⟨offset + 7, .escapeCut⟩
        | [] => .error (q.loneAtEnd (offset + 6))
      else (unescape q (offset + 6) rest).map (String.utf8EncodeChar (Char.ofNat n) ++ ·)
  | 0x5C :: 0x75 :: left => .error (q.badQuad (offset + 2) left)
  | 0x5C :: b :: rest =>
    match simpleEscape? b with
    | some e => (unescape q (offset + 2) rest).map (e :: ·)
    | none => .error ⟨offset + 2, .invalidEscape⟩
  | [0x5C] => .error ⟨offset + 1, .stringCut⟩
  | b :: rest => (unescape q (offset + 1) rest).map (b :: ·)

/-- The text of a string that is kept. -/
def read (q : Quoted) : Except Fault String := do
  let bytes ← q.unescape q.start q.content
  let finish := q.start + q.content.length
  match q.ending with
  | .cut => .error ⟨finish, .stringCut⟩
  | .control => .error ⟨finish + 1, .controlCharacter⟩
  | .closed =>
    match Text.Utf8.decode bytes with
    | .ok s => .ok s
    | .error m => .error ⟨finish + 1 - (bytes.length - m.validBytes), .invalidCodePoint⟩

/-- The first fault in the escapes of a content that is skipped. -/
def skipEscapes (q : Quoted) (offset : Nat) : Bytes → Option Fault
  | [] => none
  | 0x5C :: 0x75 :: a :: b :: c :: d :: rest =>
    match hexQuad? a b c d with
    | none => some (q.badQuad (offset + 2) (a :: b :: c :: d :: rest))
    | some _ => skipEscapes q (offset + 6) rest
  | 0x5C :: 0x75 :: left => some (q.badQuad (offset + 2) left)
  | 0x5C :: b :: rest =>
    match simpleEscape? b with
    | some _ => skipEscapes q (offset + 2) rest
    | none => some ⟨offset + 2, .invalidEscape⟩
  | [0x5C] => some ⟨offset + 1, .stringCut⟩
  | _ :: rest => skipEscapes q (offset + 1) rest

/-- The fault of a string that is skipped, if it has one. -/
def skipFault? (q : Quoted) : Option Fault :=
  let finish := q.start + q.content.length
  match q.skipEscapes q.start q.content with
  | some f => some f
  | none =>
    match q.ending with
    | .cut => some ⟨finish, .stringCut⟩
    | .control => some ⟨finish, .controlCharacter⟩
    | .closed => none

end Quoted
end ReplyStage.Json
