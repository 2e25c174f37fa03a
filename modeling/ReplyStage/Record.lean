import ReplyStage.Dict
import ReplyStage.Json.Reader
/-!
# Records

The unit of data in the pipeline: payload bytes with metadata, a text under each key. Metadata is
walked in key order.
-/

namespace ReplyStage

/-- Payload bytes with metadata. -/
structure Record where
  payload : Bytes := []
  metadata : Dict String := .empty
  deriving DecidableEq, Repr, Inhabited

namespace Record

/-- A record without metadata. -/
def ofPayload (payload : Bytes) : Record := { payload }

/-- Sets a metadata entry, in place of an earlier value. -/
def set (r : Record) (key value : String) : Record :=
  { r with metadata := r.metadata.insert key value }

/-- Sets metadata entries one after another. -/
def setAll (r : Record) (entries : List (String × String)) : Record :=
  entries.foldl (fun r e => r.set e.1 e.2) r

/-- The metadata value under a key. -/
def get? (r : Record) (key : String) : Option String := r.metadata.get? key

/-- The payload read as JSON. -/
def json (r : Record) : Except Json.SyntaxError Json := Json.parse r.payload

/-- The payload read as text, with a replacement for what is no text. -/
def text (r : Record) : String := Text.Utf8.decodeLossy r.payload

@[simp] theorem payload_set (r : Record) (key value : String) :
    (r.set key value).payload = r.payload := rfl

@[simp] theorem get?_set (r : Record) (key value k : String) :
    (r.set key value).get? k = if k = key then some value else r.get? k := by
  simp [get?, set]

end Record
end ReplyStage
