/-!
# A fair lock

A lock that many may hold shared or one alone. Whoever cannot have it at once waits in a queue,
also behind others that wait, so nobody is passed over. When a holder leaves, those at the front
of the queue are admitted as far as they fit.
-/

namespace ReplyStage

/-- How the lock is held. -/
inductive Access
  | shared
  | exclusive
  deriving DecidableEq, Repr

/-- Those who hold the lock and those who wait for it, in order. -/
structure Lock where
  holders : List (Nat × Access) := []
  waiting : List (Nat × Access) := []
  deriving DecidableEq, Repr, Inhabited

namespace Lock

/-- Whether somebody can come to the holders. -/
def admits (holders : List (Nat × Access)) : Access → Bool
  | .shared => holders.all fun h => h.2 = .shared
  | .exclusive => holders.isEmpty

/-- Admits from the front of the queue as far as possible. Gives the lock and those admitted. -/
def settle (holders : List (Nat × Access)) : List (Nat × Access) → Lock × List Nat
  | [] => (⟨holders, []⟩, [])
  | (id, access) :: rest =>
    if admits holders access then
      let (lock, admitted) := settle (holders ++ [(id, access)]) rest
      (lock, id :: admitted)
    else (⟨holders, (id, access) :: rest⟩, [])

/-- Asks for the lock. -/
def ask (l : Lock) (id : Nat) (access : Access) : Lock × List Nat :=
  settle l.holders (l.waiting ++ [(id, access)])

/-- Gives the lock back, or leaves the queue. -/
def leave (l : Lock) (id : Nat) : Lock × List Nat :=
  settle (l.holders.filter fun h => h.1 ≠ id) (l.waiting.filter fun w => w.1 ≠ id)

end Lock
end ReplyStage
