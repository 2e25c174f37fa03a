import ReplyStage.Unicode.Category
import ReplyStage.Unicode.Property
/-!
# Text shown in quotes

The form in which messages show a text so that all of it can be seen: in double quotes, with
escapes for quotes, backslashes, controls and all characters that do not show on their own.
-/

namespace ReplyStage.Text

/-- The digits of a number in hexadecimal, in lower case. -/
def hexDigits (n : Nat) : List Char := Nat.toDigits 16 n

/-- One character of a text in quotes. -/
def showChar (c : Char) : List Char :=
  if c = '\x00' then ['\\', '0']
  else if c = '\t' then ['\\', 't']
  else if c = '\r' then ['\\', 'r']
  else if c = '\n' then ['\\', 'n']
  else if c = '"' then ['\\', '"']
  else if c = '\\' then ['\\', '\\']
  else if (Unicode.property "grext").contains c || !Unicode.isPrintable c then
    '\\' :: 'u' :: '\x7b' :: hexDigits c.toNat ++ ['\x7d']
  else [c]

/-- A text in quotes. -/
def quoted (s : String) : String :=
  String.ofList ('"' :: s.toList.flatMap showChar ++ ['"'])

/-- A text in quotes that may be missing. -/
def quoted? : Option String → String
  | none => "None"
  | some s => s!"Some({quoted s})"

end ReplyStage.Text
