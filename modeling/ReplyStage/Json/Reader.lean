import ReplyStage.Dict
import ReplyStage.Json.Source
/-!
# Reading JSON

The document that a text stands for. The first thing wrong with the text, in the order of the text,
is what the reader reports; arrays and objects may lie up to 127 deep in one another. Of members
with one name the last one counts.
-/

namespace ReplyStage.Json

/-- How many arrays and objects may be open at a time. -/
def maxDepth : Nat := 127

mutual

/-- The document of a written value that begins at `start`, with `depth` levels left. -/
def Source.read (depth start : Nat) : Source → Except Fault Json
  | .null => .ok .null
  | .bool b => .ok (.bool b)
  | .number n => n.read.map .number
  | .string q => q.read.map .string
  | .array items =>
    match depth with
    | 0 => .error ⟨start + 1, .tooDeep⟩
    | depth + 1 => (items.read depth).map .array
  | .object members =>
    match depth with
    | 0 => .error ⟨start + 1, .tooDeep⟩
    | depth + 1 => (members.read depth []).map .object
  | .broken b => .error b.keptFault

/-- The documents of written items. -/
def Items.read (depth : Nat) : Items → Except Fault (List Json)
  | .done none => .ok []
  | .done (some b) => .error b.keptFault
  | .item start value rest =>
    match value.read depth start with
    | .error f => .error f
    | .ok item => (rest.read depth).map (item :: ·)

/-- The members of an object, added to those before them. -/
def Members.read (depth : Nat) (before : List (String × Json)) :
    Members → Except Fault (List (String × Json))
  | .done none => .ok before
  | .done (some b) => .error b.keptFault
  | .member name start value rest =>
    match name.read with
    | .error f => .error f
    | .ok key =>
      match value.read depth start with
      | .error f => .error f
      | .ok json => rest.read depth (insertEntry key json before)

end

/-- The document of a whole text. -/
def Document.read (d : Document) : Except Fault Json := do
  let json ← d.root.read maxDepth d.start
  match d.trailingFault? with
  | some f => .error f
  | none => .ok json

/-- Reads a text as JSON. -/
def parse (bytes : Bytes) : Except SyntaxError Json :=
  (Document.ofBytes bytes).read.mapError fun f => f.within bytes

end ReplyStage.Json
