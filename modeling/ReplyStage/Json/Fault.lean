import ReplyStage.Text.Utf8
/-!
# Where a text stops being JSON

The reasons for which a text is no JSON document, and the place in the text that a reason is
reported with: the line, and the bytes consumed on that line.
-/

namespace ReplyStage.Json

/-- Why a text is no JSON document. -/
inductive Cause
  | valueCut
  | objectCut
  | listCut
  | stringCut
  | expectedValue
  | expectedIdent
  | expectedColon
  | expectedCommaOrBrace
  | expectedCommaOrBracket
  | nameNotString
  | trailingComma
  | trailingCharacters
  | invalidNumber
  | numberOutOfRange
  | invalidEscape
  | controlCharacter
  | loneSurrogate
  | escapeCut
  | invalidCodePoint
  | tooDeep
  deriving DecidableEq, Repr

/-- The words for a reason. -/
def Cause.message : Cause → String
  | .valueCut => "EOF while parsing a value"
  | .objectCut => "EOF while parsing an object"
  | .listCut => "EOF while parsing a list"
  | .stringCut => "EOF while parsing a string"
  | .expectedValue => "expected value"
  | .expectedIdent => "expected ident"
  | .expectedColon => "expected `:`"
  | .expectedCommaOrBrace => "expected `,` or `\x7d`"
  | .expectedCommaOrBracket => "expected `,` or `]`"
  | .nameNotString => "key must be a string"
  | .trailingComma => "trailing comma"
  | .trailingCharacters => "trailing characters"
  | .invalidNumber => "invalid number"
  | .numberOutOfRange => "number out of range"
  | .invalidEscape => "invalid escape"
  | .controlCharacter => "control character (\\u0000-\\u001F) found while parsing a string"
  | .loneSurrogate => "lone leading surrogate in hex escape"
  | .escapeCut => "unexpected end of hex escape"
  | .invalidCodePoint => "invalid unicode code point"
  | .tooDeep => "recursion limit exceeded"

/-- A reason, and how many bytes had been consumed when it showed, the offending one included. -/
structure Fault where
  offset : Nat
  cause : Cause
  deriving DecidableEq, Repr

/-- A reason with its place in lines and columns. -/
structure SyntaxError where
  cause : Cause
  line : Nat
  column : Nat
  deriving DecidableEq, Repr

/-- Counts lines and the bytes on the last one. -/
def place (line column : Nat) : Bytes → Nat × Nat
  | [] => (line, column)
  | b :: rest => if b = 0x0A then place (line + 1) 0 rest else place line (column + 1) rest

/-- The place of a fault in its text. -/
def Fault.within (f : Fault) (text : Bytes) : SyntaxError :=
  let (line, column) := place 1 0 (text.take f.offset)
  ⟨f.cause, line, column⟩

/-- The sentence that reports a text that is no JSON document. -/
def SyntaxError.message (e : SyntaxError) : String :=
  s!"{e.cause.message} at line {e.line} column {e.column}"

end ReplyStage.Json
