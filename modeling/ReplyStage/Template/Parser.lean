import ReplyStage.Template.Basic
import ReplyStage.Text.Blank
/-!
# Compiling templates

An expression opens with a dollar sign, a brace and an exclamation mark, and closes with the first
brace that lies outside its strings. Between them stands one call, `meta("key")`, `json("path")`,
`json()` or `content()`, then perhaps `.or("default")`. A string has double quotes; in it a
backslash stands before a character to take that character as it is. Everything outside of
expressions is literal text.
-/

namespace ReplyStage.Template

/-! ## Cutting the text into literals and bodies -/

/-- The characters that open an expression. -/
def opener : List Char := ['$', '\x7b', '!']

/-- The text before the first opener, and the text after it if there is one. -/
def splitOpener : List Char → List Char × Option (List Char)
  | [] => ([], none)
  | '$' :: '\x7b' :: '!' :: rest => ([], some rest)
  | c :: rest =>
    let (before, after) := splitOpener rest
    (c :: before, after)

/-- Whether the place is within a string, and whether a backslash stands right before it. -/
structure Place where
  quoted : Bool := false
  escaped : Bool := false
  deriving DecidableEq, Repr

/-- The place after a character. -/
def Place.next (p : Place) (c : Char) : Place :=
  if p.escaped then { p with escaped := false }
  else if c = '\\' ∧ p.quoted then { p with escaped := true }
  else if c = '"' then { p with quoted := !p.quoted }
  else p

/-- The body of an expression and the text after the brace that closes it. -/
def splitBody (p : Place) : List Char → Option (List Char × List Char)
  | [] => none
  | c :: rest =>
    if c = '\x7d' ∧ ¬ p.quoted ∧ ¬ p.escaped then some ([], rest)
    else
      match splitBody (p.next c) rest with
      | none => none
      | some (body, after) => some (c :: body, after)

theorem length_splitOpener {cs before after : List Char}
    (h : splitOpener cs = (before, some after)) : after.length < cs.length := by
  fun_induction splitOpener cs generalizing before with
  | case1 => simp at h
  | case2 rest => simp at h; simp [← h.2]; omega
  | case3 c rest _ b a hs ih =>
    simp only [Prod.mk.injEq] at h
    have := ih (by rw [hs, h.2])
    simp only [List.length_cons]
    omega

theorem length_splitBody {p : Place} {cs body after : List Char}
    (h : splitBody p cs = some (body, after)) : after.length < cs.length := by
  induction cs generalizing p body with
  | nil => simp [splitBody] at h
  | cons c rest ih =>
    rw [splitBody] at h
    split at h
    · simp only [Option.some.injEq, Prod.mk.injEq] at h
      simp [← h.2]
    · split at h
      · simp at h
      · next body' after' hs =>
        simp only [Option.some.injEq, Prod.mk.injEq] at h
        have := ih (h.2 ▸ hs)
        simp only [List.length_cons]
        omega

/-! ## Expressions -/

/-- Drops white space at the front. -/
def dropBlank (cs : List Char) : List Char := cs.dropWhile Text.isBlank

/-- Drops given characters at the front. -/
def dropWord? : List Char → List Char → Option (List Char)
  | [], cs => some cs
  | _ :: _, [] => none
  | e :: expected, c :: rest => if c = e then dropWord? expected rest else none

/-- Reads a string after its opening quote: its value and the text after its closing quote. A
backslash takes any character but a line feed. -/
def readString : List Char → Option (List Char × List Char)
  | [] => none
  | '"' :: rest => some ([], rest)
  | '\\' :: [] => none
  | '\\' :: c :: rest =>
    -- a line feed cannot be taken as it is
    if c = '\n' then none
    else
      match readString rest with
      | none => none
      | some (value, after) => some (c :: value, after)
  | c :: rest =>
    match readString rest with
    | none => none
    | some (value, after) => some (c :: value, after)

/-- Reads the argument of a call after its opening parenthesis, and the closing one. -/
def readArgument (cs : List Char) : Option (Option String × List Char) :=
  match dropBlank cs with
  | '"' :: rest =>
    match readString rest with
    | none => none
    | some (value, after) =>
      (dropWord? [')'] (dropBlank after)).map fun rest => (some (String.ofList value), rest)
  | rest => (dropWord? [')'] rest).map fun rest => (none, rest)

/-- Reads what comes after a call: nothing, or a default. -/
def readDefault : List Char → Option (Option String)
  | [] => some none
  | cs =>
    match dropWord? ['.', 'o', 'r', '('] (dropBlank cs) with
    | none => none
    | some rest =>
      match readArgument rest with
      | some (some value, []) => some (some value)
      | _ => none

/-- The functions of the language. -/
inductive Call
  | metadata
  | json
  | content
  deriving DecidableEq, Repr

/-- Reads the name of a function and the parenthesis after it. -/
def readCall (cs : List Char) : Option (Call × List Char) :=
  match dropWord? "meta(".toList cs with
  | some rest => some (.metadata, rest)
  | none =>
    match dropWord? "json(".toList cs with
    | some rest => some (.json, rest)
    | none => (dropWord? "content(".toList cs).map fun rest => (.content, rest)

/-- Reads a body as a call with an argument and a default. -/
def readBody (body : List Char) : Option (Call × Option String × Option String) :=
  match readCall body with
  | none => none
  | some (call, rest) =>
    match readArgument rest with
    | none => none
    | some (argument, rest) => (readDefault rest).map fun default => (call, argument, default)

/-- The expression of a body, or what is wrong with it. -/
def expressionOf (body : List Char) : Except String Expression :=
  match readBody body with
  | none => .error s!"unsupported expression '{String.ofList body}'"
  | some (.metadata, argument, default) =>
    match argument with
    | some key => if key = "" then .error "meta() requires a key" else .ok ⟨.metadata key, default⟩
    | none => .error "meta() requires a key"
  | some (.json, argument, default) => .ok ⟨.json argument, default⟩
  | some (.content, argument, default) =>
    match argument with
    | some _ => .error "content() takes no arguments"
    | none => .ok ⟨.content, default⟩

/-! ## Whole templates -/

/-- A literal in front of other segments; an empty one is left out. -/
def consLiteral (text : List Char) (segments : List Segment) : List Segment :=
  if text = [] then segments else .literal (String.ofList text) :: segments

/-- The segments of a text, or what is wrong with its first malformed expression. -/
def parseSegments (cs : List Char) : Except String (List Segment) :=
  match _opened : splitOpener cs with
  | (before, none) => .ok (consLiteral before [])
  | (before, some inner) =>
    match _closed : splitBody {} inner with
    | none => .error "unterminated expression, expected '\x7d'"
    | some (body, after) =>
      match expressionOf (Text.trimChars body) with
      | .error details => .error details
      | .ok e => (parseSegments after).map fun rest => consLiteral before (.expression e :: rest)
termination_by cs.length
decreasing_by
  have := length_splitOpener _opened
  have := length_splitBody _closed
  omega

/-- Compiles a template. -/
def compile (source : String) : Except TemplateError Template :=
  match parseSegments source.toList with
  | .ok segments => .ok ⟨source, segments⟩
  | .error details => .error (.malformed source details)

end ReplyStage.Template
