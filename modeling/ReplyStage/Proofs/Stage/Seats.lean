import Mathlib.Data.List.Nodup
import ReplyStage.Stage.Shared
/-!
# Who holds the lock

The lock has a list of holders and a queue, and each call has its phase. `Seats` says that the two
agree: a call is among the holders exactly while it is admitted, has a request under way or closes a
transport, and in the queue exactly while it waits. It also says what the lock is for, that nobody
else is in while a call holds it alone. Coming, leaving and going on with the lock in hand keep it.
-/

namespace ReplyStage

/-! ## The lock -/

namespace Lock

variable {holders waiting : List (Nat × Access)}

/-- All hold the lock shared, or one call is the only holder. -/
def Guarded (holders : List (Nat × Access)) : Prop :=
  (∀ h ∈ holders, h.2 = .shared) ∨ ∃ h, holders = [h]

theorem Guarded.filter (h : Guarded holders) (p : Nat × Access → Bool) :
    Guarded (holders.filter p) := by
  rcases h with h | ⟨h, rfl⟩
  · exact .inl fun x hx => h x (List.mem_of_mem_filter hx)
  · by_cases hp : p h = true
    · exact .inr ⟨h, List.filter_cons_of_pos hp⟩
    · rw [List.filter_cons_of_neg hp]
      exact .inl nofun

theorem guarded_of_admits {access : Access} (h : admits holders access = true) (id : Nat) :
    Guarded (holders ++ [(id, access)]) := by
  cases access with
  | shared =>
    simp only [admits, List.all_eq_true, decide_eq_true_eq] at h
    left
    intro x hx
    rcases List.mem_append.1 hx with hx | hx
    · exact h x hx
    · rw [List.mem_singleton.1 hx]
  | exclusive =>
    simp only [admits, List.isEmpty_iff] at h
    exact .inr ⟨(id, .exclusive), by rw [h]; rfl⟩

/-- Nobody has to wait for a lock that nobody holds. -/
def Busy (l : Lock) : Prop := l.waiting ≠ [] → l.holders ≠ []

theorem Guarded.alone {i j : Nat} {access : Access} (h : Guarded holders)
    (hi : (i, .exclusive) ∈ holders) (hj : (j, access) ∈ holders) : j = i := by
  rcases h with h | ⟨x, rfl⟩
  · cases h _ hi
  · rw [List.mem_singleton] at hi hj
    rw [← hj] at hi
    exact (Prod.mk.inj hi).1.symm

/-- Those who are admitted are the front of the queue, and they fit. If anybody has to wait on,
somebody holds the lock. -/
theorem settle_eq (holders waiting : List (Nat × Access)) :
    ∃ front rest, waiting = front ++ rest ∧
      settle holders waiting = (⟨holders ++ front, rest⟩, front.map Prod.fst) ∧
      (Guarded holders → Guarded (holders ++ front)) ∧ Busy ⟨holders ++ front, rest⟩ := by
  induction waiting generalizing holders with
  | nil => exact ⟨[], [], rfl, by simp [settle], by simp, fun h => absurd rfl h⟩
  | cons w waiting ih =>
    obtain ⟨id, access⟩ := w
    by_cases h : admits holders access = true
    · obtain ⟨front, rest, hw, hs, hg, hb⟩ := ih (holders ++ [(id, access)])
      rw [List.append_assoc, List.singleton_append] at hs hg hb
      refine ⟨(id, access) :: front, rest, by rw [hw]; rfl, ?_,
        fun _ => hg (guarded_of_admits h id), hb⟩
      rw [settle, if_pos h, hs]
      rfl
    · refine ⟨[], (id, access) :: waiting, rfl, ?_, fun hg => by simpa using hg, fun _ he => h ?_⟩
      · rw [settle, if_neg h, List.append_nil]
        rfl
      · simp only [List.append_nil] at he
        subst he
        cases access <;> rfl

/-- Whoever fits comes in at once when nobody waits. -/
theorem ask_of_admits {l : Lock} {id : Nat} {access : Access} (hwaiting : l.waiting = [])
    (h : admits l.holders access = true) :
    l.ask id access = (⟨l.holders ++ [(id, access)], []⟩, [id]) := by
  rw [ask, hwaiting, List.nil_append, settle, if_pos h, settle]

theorem busy_settle (holders waiting : List (Nat × Access)) : Busy (settle holders waiting).1 := by
  obtain ⟨front, rest, -, hs, -, hb⟩ := settle_eq holders waiting
  rw [hs]
  exact hb

end Lock

/-! ## Phases and the lock -/

namespace Phase

variable {τ : Type}

/-- How a call in this phase holds the lock. -/
def holds? : Phase τ → Option Access
  | .admitted call => some call.access
  | .underway _ _ => some .shared
  | .closing _ => some .exclusive
  | .idle | .waiting _ | .finished _ => none

/-- How a call in this phase waits for the lock. -/
def awaits? : Phase τ → Option Access
  | .waiting call => some call.access
  | .idle | .admitted _ | .underway _ _ | .closing _ | .finished _ => none

/-- The phase of a call that is let in. -/
def letIn : Phase τ → Phase τ
  | .waiting call => .admitted call
  | p => p

@[simp] theorem letIn_letIn (p : Phase τ) : p.letIn.letIn = p.letIn := by cases p <;> rfl

@[simp] theorem awaits?_letIn (p : Phase τ) : p.letIn.awaits? = none := by cases p <;> rfl

theorem holds?_letIn {p : Phase τ} {access : Access} (h : p.awaits? = some access) :
    p.holds? = none ∧ p.letIn.holds? = some access := by
  cases p <;> first | exact ⟨rfl, h⟩ | cases h

end Phase

/-- The phases of calls after some of them are let in. -/
def letInAll {τ : Type} (ids : List Nat) (phase : Nat → Phase τ) (i : Nat) : Phase τ :=
  if i ∈ ids then (phase i).letIn else phase i

/-- The phases of calls after one of them has moved. -/
def move {τ : Type} (phase : Nat → Phase τ) (id : Nat) (p : Phase τ) (i : Nat) : Phase τ :=
  if i = id then p else phase i

section Move
variable {τ : Type} {phase : Nat → Phase τ} {id i : Nat} {p : Phase τ}

@[simp] theorem move_self : move phase id p id = p := if_pos rfl

theorem move_of_ne (h : i ≠ id) : move phase id p i = phase i := if_neg h

end Move

/-- The lock and the phases agree, and a call that holds the lock alone is alone. -/
structure Seats {τ : Type} (phase : Nat → Phase τ) (lock : Lock) : Prop where
  holds : ∀ id access, (id, access) ∈ lock.holders ↔ (phase id).holds? = some access
  awaits : ∀ id access, (id, access) ∈ lock.waiting ↔ (phase id).awaits? = some access
  once : (lock.waiting.map Prod.fst).Nodup
  guarded : Lock.Guarded lock.holders

namespace Seats

variable {τ : Type} {phase : Nat → Phase τ} {lock : Lock} {id : Nat}

theorem alone {i j : Nat} {access : Access} (h : Seats phase lock)
    (hi : (phase i).holds? = some .exclusive) (hj : (phase j).holds? = some access) : j = i :=
  h.guarded.alone ((h.holds i _).2 hi) ((h.holds j _).2 hj)

/-- Nobody waits for a lock for which no call does. -/
theorem waiting_eq_nil (h : Seats phase lock) (hnobody : ∀ i, (phase i).awaits? = none) :
    lock.waiting = [] := by
  rw [List.eq_nil_iff_forall_not_mem]
  rintro ⟨i, access⟩ hmem
  rw [h.awaits, hnobody] at hmem
  cases hmem

/-- A call fits beside holders if all share the lock. -/
theorem admits_of_holds {access : Access} (h : Seats phase lock)
    (hfits : ∀ i held, (phase i).holds? = some held → held = .shared ∧ access = .shared) :
    Lock.admits lock.holders access = true := by
  have hall : ∀ x ∈ lock.holders, x.2 = .shared ∧ access = .shared :=
    fun x hx => hfits x.1 x.2 ((h.holds x.1 x.2).1 hx)
  cases access with
  | shared => simpa [Lock.admits] using fun i held hmem => (hall (i, held) hmem).1
  | exclusive =>
    rw [Lock.admits, List.isEmpty_iff, List.eq_nil_iff_forall_not_mem]
    intro x hx
    cases (hall x hx).2

/-- Those at the front of the queue come in. -/
theorem settle (h : Seats phase lock) :
    Seats (letInAll (Lock.settle lock.holders lock.waiting).2 phase)
      (Lock.settle lock.holders lock.waiting).1 := by
  obtain ⟨front, rest, hw, hs, hg, -⟩ := Lock.settle_eq lock.holders lock.waiting
  have once := h.once
  rw [hw, List.map_append, List.nodup_append] at once
  obtain ⟨-, hrest, hdisjoint⟩ := once
  have mem_front : ∀ {i access}, (i, access) ∈ front → i ∈ front.map Prod.fst :=
    fun hi => List.mem_map_of_mem hi
  have mem_rest : ∀ {i access}, (i, access) ∈ rest → i ∉ front.map Prod.fst :=
    fun hi hf => hdisjoint _ hf _ (List.mem_map_of_mem hi) rfl
  have mem_waiting : ∀ {i access}, (i, access) ∈ front ∨ (i, access) ∈ rest ↔
      (phase i).awaits? = some access := fun {i access} => by
    rw [← h.awaits, hw, List.mem_append]
  rw [hs]
  refine ⟨fun i access => ?_, fun i access => ?_, hrest, hg h.guarded⟩
  · rw [List.mem_append, h.holds, letInAll]
    split
    · rename_i hi
      obtain ⟨⟨j, access'⟩, hfront, hj⟩ := List.mem_map.1 hi
      dsimp only at hj
      subst hj
      obtain ⟨hnone, hsome⟩ := Phase.holds?_letIn (mem_waiting.1 (.inl hfront))
      rw [hnone, hsome]
      constructor
      · rintro (hx | hx)
        · cases hx
        · rw [← hsome]
          exact (Phase.holds?_letIn (mem_waiting.1 (.inl hx))).2
      · intro hx
        cases hx
        exact .inr hfront
    · rename_i hi
      exact or_iff_left fun hx => hi (mem_front hx)
  · show (i, access) ∈ rest ↔ _
    rw [letInAll]
    split
    · rename_i hi
      rw [Phase.awaits?_letIn]
      exact ⟨fun hx => absurd hi (mem_rest hx), nofun⟩
    · rename_i hi
      rw [← mem_waiting]
      exact (or_iff_right fun hx => hi (mem_front hx)).symm

/-- A call comes and joins the queue. -/
theorem ask (h : Seats phase lock) (hidle : phase id = .idle) (call : Call τ) :
    Seats (letInAll (lock.ask id call.access).2 (move phase id (.waiting call)))
      (lock.ask id call.access).1 := by
  have absent : ∀ access, (id, access) ∉ lock.waiting := fun access hx => by
    rw [h.awaits, hidle] at hx
    cases hx
  have joined : Seats (move phase id (.waiting call))
      ⟨lock.holders, lock.waiting ++ [(id, call.access)]⟩ := by
    refine ⟨fun i access => ?_, fun i access => ?_, ?_, h.guarded⟩
    · rw [h.holds, move]
      split
      · rename_i hi
        rw [hi, hidle]
        rfl
      · rfl
    · show (i, access) ∈ lock.waiting ++ _ ↔ _
      rw [List.mem_append, h.awaits, List.mem_singleton, Prod.mk.injEq, move]
      split
      · rename_i hi
        simp only [hi, hidle, Phase.awaits?, reduceCtorEq, true_and, false_or, Option.some.injEq]
        exact eq_comm
      · rename_i hi
        simp [hi]
    · rw [List.map_append, List.nodup_append]
      refine ⟨h.once, List.nodup_singleton _, fun i hi j hj => ?_⟩
      obtain ⟨⟨_, access⟩, hmem, rfl⟩ := List.mem_map.1 hi
      rw [List.map_singleton, List.mem_singleton] at hj
      rintro rfl
      dsimp only at hj
      subst hj
      exact absent access hmem
  exact joined.settle

/-- A call ends and leaves the lock. -/
theorem leave (h : Seats phase lock) (id : Nat) (outcome : Outcome) :
    Seats (letInAll (lock.leave id).2 (move phase id (.finished outcome))) (lock.leave id).1 := by
  have left : Seats (move phase id (.finished outcome))
      ⟨lock.holders.filter fun x => x.1 ≠ id, lock.waiting.filter fun x => x.1 ≠ id⟩ := by
    refine ⟨fun i access => ?_, fun i access => ?_, h.once.sublist (List.filter_sublist.map _),
      h.guarded.filter _⟩
    · rw [List.mem_filter, h.holds, move]
      split
      · rename_i hi
        simp [hi, Phase.holds?]
      · rename_i hi
        simp [hi]
    · show (i, access) ∈ lock.waiting.filter _ ↔ _
      rw [List.mem_filter, h.awaits, move]
      split
      · rename_i hi
        simp [hi, Phase.awaits?]
      · rename_i hi
        simp [hi]
  exact left.settle

/-- A call goes on with the lock in hand. -/
theorem goOn (h : Seats phase lock) {p : Phase τ} (hholds : p.holds? = (phase id).holds?)
    (hawaits : p.awaits? = (phase id).awaits?) : Seats (move phase id p) lock := by
  refine ⟨fun i access => ?_, fun i access => ?_, h.once, h.guarded⟩
  · rw [h.holds, move]
    split
    · rename_i hi
      rw [hholds, hi]
    · rfl
  · rw [h.awaits, move]
    split
    · rename_i hi
      rw [hawaits, hi]
    · rfl

end Seats
end ReplyStage
