import ReplyStage.Pipe.Lines
import ReplyStage.Stage.Process
/-!
# The pump

The loop of the pipe: lines are read and become requests, several of which may be under way, and
replies are written in the order of the lines. Each turn of the loop does the first of these that
can be done: it stops, it writes the oldest reply, or it reads a line. A failed request writes
nothing. An empty line is passed over.
-/

namespace ReplyStage

/-- A line whose request is under way, and its result once it is there. -/
structure Slot where
  line : Bytes
  result : Option (Except StageError Record) := none

/-- The pump: lines to read, requests under way from the oldest on, and what was written. The two
counts have no bound; a pipe that keeps them in 64 bits has the same ones for fewer than 2 ^ 64
lines. -/
structure Pump where
  unread : List Bytes
  ended : Bool := false
  slots : List Slot := []
  output : Bytes := []
  replied : Nat := 0
  failed : Nat := 0

/-- What a turn of the loop comes to. -/
inductive Turn
  /-- the loop is over, with some requests dropped -/
  | stop (dropped : Nat)
  /-- the loop is broken off at a line that is no text -/
  | unreadable (fault : Text.Utf8.Malformed)
  /-- the oldest result was written or counted -/
  | settled (result : Except StageError Record) (pump : Pump)
  /-- a line was read and its request is under way -/
  | launched (line : Bytes) (pump : Pump)
  /-- an empty line or the end of the input was read -/
  | passed (pump : Pump)
  /-- nothing can be done before a request ends -/
  | wait

namespace Pump

/-- The pump at the beginning of an input. -/
def ofInput (input : Bytes) : Pump := { unread := Lines.cut input }

/-- Takes the oldest result. -/
def settle (p : Pump) (result : Except StageError Record) (rest : List Slot) : Pump :=
  match result with
  | .ok record =>
    { p with slots := rest, output := p.output ++ record.payload ++ [0x0A],
             replied := p.replied + 1 }
  | .error _ => { p with slots := rest, failed := p.failed + 1 }

/-- Reads a line. -/
def readLine (p : Pump) : Turn :=
  match p.unread with
  | [] => .passed { p with ended := true }
  | line :: unread =>
    match Lines.read line with
    | .error fault => .unreadable fault
    | .ok [] => .passed { p with unread }
    | .ok content => .launched content { p with unread, slots := p.slots ++ [{ line := content }] }

/-- A turn of the loop. -/
def turn (p : Pump) (concurrency : Nat) (shutdown : Bool) : Turn :=
  if p.ended ∧ p.slots.isEmpty then .stop 0
  else if shutdown then .stop p.slots.length
  else
    match p.slots with
    -- only the oldest result is taken, which keeps the replies in the order of the lines
    | ⟨_, some result⟩ :: rest => .settled result (p.settle result rest)
    | _ => if ¬ p.ended ∧ p.slots.length < concurrency then p.readLine else .wait

/-- The request in some place of the queue has its result. -/
def complete (p : Pump) (place : Nat) (result : Except StageError Record) : Pump :=
  { p with slots := p.slots.modify place fun slot =>
      { slot with result := slot.result.or (some result) } }

end Pump
end ReplyStage
