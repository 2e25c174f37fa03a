/-!
# UTF-8

Bytes and the text they encode. `pieces` reads bytes from the front and tells characters from
parts that encode none; a malformed part is as long as it could still have become a character.
Strict decoding refuses such a part and says where it lies, lossy decoding puts the replacement
character in its place.
-/

namespace ReplyStage

/-- A sequence of bytes. -/
abbrev Bytes := List UInt8

namespace Text.Utf8

/-- What the bytes at one place of a text are. -/
inductive Piece
  /-- a character -/
  | char (c : Char)
  /-- bytes that no continuation turns into a character -/
  | malformed (size : Nat)
  /-- the beginning of a character, cut off by the end of the text -/
  | truncated (size : Nat)
  deriving DecidableEq, Repr

/-- A character of which some bytes are still to come. The next byte has to lie between `low` and
`high`; later ones are continuation bytes. -/
structure Pending where
  bits : Nat
  missing : Nat
  low : UInt8
  high : UInt8
  size : Nat
  deriving DecidableEq, Repr

/-- Reads the first byte of a character: the whole character, the beginning of one, or neither. -/
def begin (b : UInt8) : Piece ⊕ Pending :=
  if b < 0x80 then .inl (.char (Char.ofNat b.toNat))
  else if b < 0xC2 then .inl (.malformed 1)
  else if b < 0xE0 then .inr ⟨b.toNat - 0xC0, 1, 0x80, 0xBF, 1⟩
  else if b < 0xF0 then
    .inr ⟨b.toNat - 0xE0, 2, if b = 0xE0 then 0xA0 else 0x80, if b = 0xED then 0x9F else 0xBF, 1⟩
  else if b < 0xF5 then
    .inr ⟨b.toNat - 0xF0, 3, if b = 0xF0 then 0x90 else 0x80, if b = 0xF4 then 0x8F else 0xBF, 1⟩
  else .inl (.malformed 1)

/-- Reads bytes after the beginning of a character, if there is one. -/
def scan : Option Pending → Bytes → List Piece
  | none, [] => []
  | some p, [] => [.truncated p.size]
  | none, b :: rest =>
    match begin b with
    | .inl piece => piece :: scan none rest
    | .inr p => scan (some p) rest
  | some p, b :: rest =>
    if p.low ≤ b ∧ b ≤ p.high then
      let bits := p.bits * 64 + (b.toNat - 0x80)
      if p.missing = 1 then .char (Char.ofNat bits) :: scan none rest
      else scan (some ⟨bits, p.missing - 1, 0x80, 0xBF, p.size + 1⟩) rest
    else
      match begin b with
      | .inl piece => .malformed p.size :: piece :: scan none rest
      | .inr q => .malformed p.size :: scan (some q) rest

/-- The characters and malformed parts of a text, in order. -/
def pieces (bytes : Bytes) : List Piece :=
  scan none bytes

/-- The bytes of a list of characters. -/
def encodeChars (cs : List Char) : Bytes :=
  cs.flatMap String.utf8EncodeChar

/-- The bytes of a text. -/
def encode (s : String) : Bytes :=
  encodeChars s.toList

/-- Where a text stops being UTF-8: after `validBytes` bytes. The part that encodes nothing has a
size unless the text ends within it. -/
structure Malformed where
  validBytes : Nat
  size : Option Nat
  deriving DecidableEq, Repr

/-- The sentence that reports a malformed part. -/
def Malformed.message (m : Malformed) : String :=
  match m.size with
  | some size => s!"invalid utf-8 sequence of {size} bytes from index {m.validBytes}"
  | none => s!"incomplete utf-8 byte sequence from index {m.validBytes}"

/-- Collects the characters of the pieces, as long as all of them are characters. -/
def collect (validBytes : Nat) : List Piece → Except Malformed (List Char)
  | [] => .ok []
  | .char c :: rest => (collect (validBytes + c.utf8Size) rest).map (c :: ·)
  | .malformed size :: _ => .error ⟨validBytes, some size⟩
  | .truncated _ :: _ => .error ⟨validBytes, none⟩

/-- Strict decoding. -/
def decode (bytes : Bytes) : Except Malformed String :=
  (collect 0 (pieces bytes)).map String.ofList

/-- The character that stands for a piece in a text that must not fail. -/
def Piece.shown : Piece → Char
  | .char c => c
  | .malformed _ | .truncated _ => '\ufffd'

/-- Lossy decoding. -/
def decodeLossy (bytes : Bytes) : String :=
  String.ofList ((pieces bytes).map Piece.shown)

end Text.Utf8
end ReplyStage
