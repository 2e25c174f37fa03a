import Mathlib.Data.List.Chain
import ReplyStage.Template.Parser
/-!
# The language of templates

Which texts are templates and what their parts stand for, told by the shape of the text. Nothing
here reads a text from left to right: each relation joins a text as a whole to its value.

A reading cuts a template into literals and expressions. A literal holds no opener and is as long
as it can be, so that a text has one reading at most (`Reading.unique`).
-/

namespace ReplyStage.Template

/-! ## Strings and arguments -/

/-- White space, of any length. -/
def Blank (ws : List Char) : Prop := ∀ c ∈ ws, Text.isBlank c = true

instance (ws : List Char) : Decidable (Blank ws) :=
  List.decidableBAll (fun c => Text.isBlank c = true) ws

/-- What stands between the quotes of a string, and the value. A backslash is left out of the value
and takes the character after it along, which can be a quote or a backslash but no line feed. -/
inductive StringText : List Char → List Char → Prop
  | nil : StringText [] []
  | plain {c raw value} : c ≠ '"' → c ≠ '\\' → StringText raw value →
      StringText (c :: raw) (c :: value)
  | escape {c raw value} : c ≠ '\n' → StringText raw value → StringText ('\\' :: c :: raw) (c :: value)

/-- A string with its quotes. -/
inductive QuotedText : List Char → String → Prop
  | intro {raw value} : StringText raw value →
      QuotedText ('"' :: (raw ++ ['"'])) (String.ofList value)

/-- What stands between the parentheses of a call: perhaps a string, and white space. -/
inductive ArgumentText : List Char → Option String → Prop
  | absent {ws} : Blank ws → ArgumentText ws none
  | given {ws₁ text value ws₂} : Blank ws₁ → QuotedText text value → Blank ws₂ →
      ArgumentText (ws₁ ++ text ++ ws₂) (some value)

/-! ## Expressions -/

/-- The name of a function and the parenthesis after it. -/
def Call.opening : Call → List Char
  | .metadata => "meta(".toList
  | .json => "json(".toList
  | .content => "content(".toList

/-- What a function selects with an argument: a metadata entry needs a key, and the content takes no
argument. -/
inductive Selects : Call → Option String → Selector → Prop
  | metadata {key} : key ≠ "" → Selects .metadata (some key) (.metadata key)
  | json {path} : Selects .json path (.json path)
  | content : Selects .content none .content

/-- What may stand after a call. -/
inductive DefaultText : List Char → Option String → Prop
  | absent : DefaultText [] none
  | given {ws text value} : Blank ws → ArgumentText text (some value) →
      DefaultText (ws ++ ".or(".toList ++ text ++ [')']) (some value)

/-- A call with what stands after it. -/
inductive CallText : List Char → Expression → Prop
  | intro {call text argument selector more default} : ArgumentText text argument →
      Selects call argument selector → DefaultText more default →
      CallText (call.opening ++ text ++ [')'] ++ more) ⟨selector, default⟩

/-- An expression, from its opener to the brace that closes it. -/
inductive ExpressionText : List Char → Expression → Prop
  | intro {ws₁ text e ws₂} : Blank ws₁ → CallText text e → Blank ws₂ →
      ExpressionText (opener ++ (ws₁ ++ text ++ ws₂) ++ ['\x7d']) e

/-! ## Whole templates -/

/-- A part of a template as written, and what it stands for. -/
structure Part where
  text : List Char
  segment : Segment

/-- A literal stands for itself. -/
def Part.literal (text : List Char) : Part := ⟨text, .literal (String.ofList text)⟩

/-- The parts there are. -/
inductive Part.Wellformed : Part → Prop
  | literal {text} : text ≠ [] → ¬ opener <:+: text → Wellformed (.literal text)
  | expression {text e} : ExpressionText text e → Wellformed ⟨text, .expression e⟩

/-- Literal parts. -/
def Part.IsLiteral (part : Part) : Prop := ∃ text, part.segment = .literal text

/-- A text as a template: its parts in order, with no two literals next to each other. -/
structure Reading (text : List Char) (parts : List Part) : Prop where
  covers : parts.flatMap Part.text = text
  wellformed : ∀ part ∈ parts, part.Wellformed
  apart : parts.IsChain fun a b => ¬ (a.IsLiteral ∧ b.IsLiteral)

end ReplyStage.Template
