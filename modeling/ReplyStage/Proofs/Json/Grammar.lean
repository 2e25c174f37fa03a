import Mathlib.Data.List.Forall2
import ReplyStage.Json.Source
/-!
# The grammar of JSON

Which texts are JSON, apart from how they are read. Strings join a text with the characters it
stands for. Lists and objects are told by the texts of their parts: what the parts are is left to
those who use them, so that a list can be one of strings, or of values of any kind as in
`ValueText`.
-/

namespace ReplyStage.Json

/-- White space. -/
def Space (text : Bytes) : Prop := ∀ b ∈ text, isSpace b = true

/-! ## Strings -/

/-- A character that can stand for itself in a string. -/
def Unescaped (c : Char) : Prop := 0x20 ≤ c.toNat ∧ c.toNat ≠ 0x22 ∧ c.toNat ≠ 0x5C

/-- The content of a string, with the characters that it stands for. -/
inductive Content : List Char → Bytes → Prop
  | nil : Content [] []
  | unescaped {c cs rest} : Unescaped c → Content cs rest →
      Content (c :: cs) (String.utf8EncodeChar c ++ rest)
  | escape {b e cs rest} : Quoted.simpleEscape? b = some e → Content cs rest →
      Content (Char.ofNat e.toNat :: cs) (0x5C :: b :: rest)
  | unicode {a b c d n cs rest} : Quoted.hexQuad? a b c d = some n →
      Quoted.isHighSurrogate n = false → Quoted.isLowSurrogate n = false → Content cs rest →
      Content (Char.ofNat n :: cs) (0x5C :: 0x75 :: a :: b :: c :: d :: rest)
  | surrogates {a b c d e f g h high low cs rest} : Quoted.hexQuad? a b c d = some high →
      Quoted.isHighSurrogate high = true → Quoted.hexQuad? e f g h = some low →
      Quoted.isLowSurrogate low = true → Content cs rest →
      Content (Quoted.joinSurrogates high low :: cs)
        (0x5C :: 0x75 :: a :: b :: c :: d :: 0x5C :: 0x75 :: e :: f :: g :: h :: rest)

/-- What looks like the content of a string, be it that it stands for no characters: surrogates need
not be in pairs, nor bytes UTF-8. -/
inductive Recognizable : Bytes → Prop
  | nil : Recognizable []
  | unescaped {b rest} : 0x20 ≤ b.toNat → b ≠ 0x22 → b ≠ 0x5C → Recognizable rest →
      Recognizable (b :: rest)
  | escape {b e rest} : Quoted.simpleEscape? b = some e → Recognizable rest →
      Recognizable (0x5C :: b :: rest)
  | unicode {a b c d n rest} : Quoted.hexQuad? a b c d = some n → Recognizable rest →
      Recognizable (0x5C :: 0x75 :: a :: b :: c :: d :: rest)

/-- A content in its quotes. -/
def inQuotes (content : Bytes) : Bytes := 0x22 :: (content ++ [0x22])

/-- A string. -/
def StringText (s : String) (text : Bytes) : Prop :=
  ∃ content, Content s.toList content ∧ text = inQuotes content

/-! ## Numbers -/

/-- One digit or more. -/
def Digits (text : Bytes) : Prop := text ≠ [] ∧ ∀ b ∈ text, (digitValue? b).isSome = true

/-- The digits before a point: a zero stands alone. -/
def WholeText (text : Bytes) : Prop := Digits text ∧ (text.head? = some 0x30 → text = [0x30])

/-- Digits with the number that they stand for. -/
inductive Decimal : Bytes → Nat → Prop
  | digit {b d} : digitValue? b = some d → Decimal [b] d
  | more {digits n b d} : Decimal digits n → digitValue? b = some d →
      Decimal (digits ++ [b]) (n * 10 + d)

/-- A number of 64 bits without a sign, written as an integer. -/
def CountText (n : Nat) (text : Bytes) : Prop :=
  n ≤ Numeral.maxSignificand ∧ WholeText text ∧ Decimal text n

/-- A point with digits, or nothing. -/
def FractionText (text : Bytes) : Prop := text = [] ∨ ∃ digits, Digits digits ∧ text = 0x2E :: digits

/-- An exponent, or nothing. -/
def ExponentText (text : Bytes) : Prop :=
  text = [] ∨ ∃ letter sign digits, (letter = 0x65 ∨ letter = 0x45) ∧
    (sign = [] ∨ sign = [0x2B] ∨ sign = [0x2D]) ∧ Digits digits ∧ text = letter :: (sign ++ digits)

/-- A number. -/
def NumberText (text : Bytes) : Prop :=
  ∃ sign whole fraction exponent, (sign = [] ∨ sign = [0x2D]) ∧ WholeText whole ∧
    FractionText fraction ∧ ExponentText exponent ∧ text = sign ++ (whole ++ (fraction ++ exponent))

/-! ## Lists and objects -/

/-- Parts with commas between them and white space around them. -/
inductive Listed : List Bytes → Bytes → Prop
  | nil {space} : Space space → Listed [] space
  | last {part before after} : Space before → Space after →
      Listed [part] (before ++ (part ++ after))
  | more {part next parts before after rest} : Space before → Space after →
      Listed (next :: parts) rest →
      Listed (part :: next :: parts) (before ++ (part ++ (after ++ 0x2C :: rest)))

/-- A list with the texts of its items. -/
def ArrayText (items : List Bytes) (text : Bytes) : Prop :=
  ∃ inner, Listed items inner ∧ text = 0x5B :: (inner ++ [0x5D])

/-- A member of an object, with the texts of its name and its value. -/
def MemberText (name value text : Bytes) : Prop :=
  ∃ after before, Space after ∧ Space before ∧ text = name ++ (after ++ 0x3A :: (before ++ value))

/-- An object with the texts of the names and values of its members. -/
def ObjectText (members : List (Bytes × Bytes)) (text : Bytes) : Prop :=
  ∃ parts inner, List.Forall₂ (fun member part => MemberText member.1 member.2 part) members parts ∧
    Listed parts inner ∧ text = 0x7B :: (inner ++ [0x7D])

/-- An object with the names of its members and the texts of their values. -/
def NamedText (members : List (String × Bytes)) (text : Bytes) : Prop :=
  ∃ written, ObjectText written text ∧
    List.Forall₂ (fun member w => StringText member.1 w.1 ∧ w.2 = member.2) members written

/-! ## Values -/

/-- A value of any kind. -/
inductive ValueText : Bytes → Prop
  | null : ValueText [0x6E, 0x75, 0x6C, 0x6C]
  | false : ValueText [0x66, 0x61, 0x6C, 0x73, 0x65]
  | true : ValueText [0x74, 0x72, 0x75, 0x65]
  | number {text} : NumberText text → ValueText text
  | string {content} : Recognizable content → ValueText (inQuotes content)
  | array {items text} : (∀ item ∈ items, ValueText item) → ArrayText items text → ValueText text
  | object {members text} : (∀ member ∈ members, ∃ content, Recognizable content ∧
      member.1 = inQuotes content) → (∀ member ∈ members, ValueText member.2) →
      ObjectText members text → ValueText text

end ReplyStage.Json
