import ReplyStage.Text.Fields
import ReplyStage.Text.Integer
/-!
# Acknowledgement subjects

The subject on which a delivery from a stream is acknowledged tells where the message came from.
It has tokens with dots between them, in one of two layouts:
`$JS.ACK.<stream>.<consumer>.<delivered>.<stream seq>.<consumer seq>.<time>.<pending>`, or
`$JS.ACK.<domain>.<account>.` before the stream and at least one token after the rest. A domain
that is empty is written as an underscore.
-/

namespace ReplyStage

/-- What an acknowledgement subject tells about a delivery. -/
structure Delivery where
  domain : String
  stream : String
  consumer : String
  delivered : Nat
  streamSequence : Nat
  consumerSequence : Nat
  timestampNanos : Int
  pending : Nat
  deriving DecidableEq, Repr

namespace Delivery

/-- The tokens of a subject. -/
def tokens (subject : String) : List String := Text.split '.' subject

/-- Reads a count. -/
def count? (token : String) : Option Nat := (Text.readNat Text.maxWord token).toOption

/-- Reads a time in nanoseconds. -/
def time? (token : String) : Option Int := (Text.readInt Text.maxWide token).toOption

/-- The info in the seven tokens from the stream on. -/
def ofFields? (domain : String) : List String → Option Delivery
  | stream :: consumer :: delivered :: streamSequence :: consumerSequence :: timestamp ::
      pending :: _ => do
    return {
      domain := if domain = "_" then "" else domain
      stream, consumer
      delivered := ← count? delivered
      streamSequence := ← count? streamSequence
      consumerSequence := ← count? consumerSequence
      timestampNanos := ← time? timestamp
      pending := ← count? pending }
  | _ => none

/-- The info of an acknowledgement subject. -/
def ofSubject? (subject : String) : Option Delivery :=
  match tokens subject with
  | "$JS" :: "ACK" :: rest =>
    if rest.length = 7 then ofFields? "" rest
    else if 10 ≤ rest.length then ofFields? (rest.headD "") (rest.drop 2)
    else none
  | _ => none

end Delivery
end ReplyStage
