import ReplyStage.Template.Parser
/-!
# Templates cut at offsets

The loop that compiles a template, with places in the text told by offsets in bytes. Each turn looks
for an opener, takes the literal before it, looks for the brace that closes the expression, and
takes the expression and the text behind it. All that it takes is a slice between two offsets, and a
slice exists only between boundaries of characters. `Cutting.finish` repeats this until the text is
used up or something is wrong with it.
-/

namespace ReplyStage.Template

/-- How cutting a template ends. -/
inductive Halt
  /-- at the end of the text, with the segments -/
  | ended (segments : List Segment)
  /-- at a malformed expression -/
  | malformed (details : String)
  /-- at a slice that the text does not have -/
  | torn
  deriving DecidableEq, Repr

/-! ## Slices -/

/-- The text between two offsets. Both have to be boundaries of characters, in this order. -/
def slice (text : String) (start stop : Nat) : Except Halt String :=
  if h : String.Pos.Raw.IsValid text ⟨start⟩ ∧ String.Pos.Raw.IsValid text ⟨stop⟩ ∧
      start ≤ stop then
    .ok (text.extract (text.pos ⟨start⟩ h.1) (text.pos ⟨stop⟩ h.2.1))
  else .error .torn

theorem size_slice {text part : String} {start stop : Nat} (h : slice text start stop = .ok part) :
    start ≤ stop ∧ part.utf8ByteSize = stop - start := by
  unfold slice at h
  split at h
  · rename_i hvalid
    cases h
    rw [String.extract_eq_copy_slice _ _ (by simpa [String.Pos.le_iff] using hvalid.2.2)]
    simp [hvalid.2.2]
  · cases h

/-! ## Openers and closing braces -/

/-- The size of an opener. -/
def openerSize : Nat := (String.ofList opener).utf8ByteSize

/-- The offset of the first opener, in characters that begin at an offset themselves. -/
def findOpener (offset : Nat) : List Char → Option Nat
  | [] => none
  | c :: rest =>
    if opener.isPrefixOf (c :: rest) then some offset else findOpener (offset + c.utf8Size) rest

/-- The offset of the brace that closes an expression, in characters that begin at an offset
themselves. -/
def findBrace (p : Place) (offset : Nat) : List Char → Option Nat
  | [] => none
  | c :: rest =>
    if c = '\x7d' ∧ ¬ p.quoted ∧ ¬ p.escaped then some offset
    else findBrace (p.next c) (offset + c.utf8Size) rest

/-- The offset of the first opener of a text. -/
def openerOffset (text : String) : Option Nat := findOpener 0 text.toList

/-- The offset of the brace that closes an expression, in a text that begins with its body. -/
def closingOffset (text : String) : Option Nat := findBrace {} 0 text.toList

/-! ## The loop -/

/-- A template that is being cut: the segments found so far, and the text that is left. -/
structure Cutting where
  found : List Segment
  rest : String
  deriving DecidableEq, Repr

/-- The segments up to an opener. -/
def Cutting.literalBefore (s : Cutting) (start : Nat) : Except Halt (List Segment) :=
  if 0 < start then (slice s.rest 0 start).map fun before => s.found ++ [.literal before]
  else .ok s.found

/-- The expression whose body begins at an offset, and the text behind its brace. -/
def takeExpression (text : String) (start : Nat) : Except Halt (Expression × String) := do
  let inner ← slice text start text.utf8ByteSize
  let some length := closingOffset inner
    | .error (.malformed "unterminated expression, expected '\x7d'")
  let body ← slice text start (start + length)
  let e ← (expressionOf (Text.trimChars body.toList)).mapError .malformed
  let rest ← slice text (start + length + 1) text.utf8ByteSize
  return (e, rest)

/-- One turn: an expression and the literal before it. -/
def Cutting.turn (s : Cutting) : Except Halt Cutting := do
  let some start := openerOffset s.rest
    | .error (.ended (s.found ++ consLiteral s.rest.toList []))
  let found ← s.literalBefore start
  let (e, rest) ← takeExpression s.rest (start + openerSize)
  return ⟨found ++ [.expression e], rest⟩

theorem takeExpression_shortens {text rest : String} {start : Nat} {e : Expression}
    (h : takeExpression text start = .ok (e, rest)) : rest.utf8ByteSize < text.utf8ByteSize := by
  unfold takeExpression at h
  simp only [bind, Except.bind] at h
  -- each step before the last slice goes on only if it succeeds
  split at h
  · cases h
  split at h
  · split at h
    · cases h
    split at h
    · cases h
    split at h
    · cases h
    · rename_i hrest
      cases h
      obtain ⟨hle, hsize⟩ := size_slice hrest
      omega
  · cases h

theorem Cutting.turn_shortens {s next : Cutting} (h : s.turn = .ok next) :
    next.rest.utf8ByteSize < s.rest.utf8ByteSize := by
  unfold turn at h
  simp only [bind, Except.bind] at h
  split at h
  · split at h
    · cases h
    split at h
    · cases h
    · rename_i hexpression
      cases h
      exact takeExpression_shortens hexpression
  · cases h

/-- Turns until one is the last. -/
def Cutting.finish (s : Cutting) : Halt :=
  match _h : s.turn with
  | .error halt => halt
  | .ok next => next.finish
termination_by s.rest.utf8ByteSize
decreasing_by exact turn_shortens _h

/-- What compiling a template gives where its cutting ends like this. -/
def Halt.result? (source : String) : Halt → Option (Except TemplateError Template)
  | .ended segments => some (.ok ⟨source, segments⟩)
  | .malformed details => some (.error (.malformed source details))
  | .torn => none

end ReplyStage.Template
