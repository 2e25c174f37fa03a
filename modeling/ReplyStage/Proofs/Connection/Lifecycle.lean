import Mathlib.Data.List.Induction
import Mathlib.Data.List.TakeWhile
import ReplyStage.Connection.Basic
/-!
# The life of a connection

What any operations, one after another, make of a connection that begins unconnected. Before the
first close it holds the transport that was stored last, and nothing has been closed; from the first
close on nothing changes any more. `lifecycle` reads off what that says of each kind of operation.
-/

namespace ReplyStage

namespace Connection

variable {τ : Type}

/-- Where a connection can go. -/
inductive Moves : Connection τ → Connection τ → Prop
  | stays (c : Connection τ) : Moves c c
  | opens (transport : τ) : Moves .unconnected (.connected transport)
  | replaces (old new : τ) : Moves (.connected old) (.connected new)
  | closes (c : Connection τ) : Moves c .closed

theorem Moves.trans {a b c : Connection τ} (hab : Moves a b) (hbc : Moves b c) : Moves a c := by
  cases hab with
  | stays => exact hbc
  | closes =>
    cases hbc
    all_goals exact .closes a
  | opens t =>
    cases hbc with
    | stays => exact .opens t
    | replaces _ new => exact .opens new
    | closes => exact .closes _
  | replaces old t =>
    cases hbc with
    | stays => exact .replaces old t
    | replaces _ new => exact .replaces old new
    | closes => exact .closes _

/-- The connection that holds a transport, if there is one. -/
def holding : Option τ → Connection τ
  | some transport => .connected transport
  | none => .unconnected

theorem holding_eq_connected_iff {held : Option τ} {transport : τ} :
    holding held = .connected transport ↔ held = some transport := by
  cases held <;> simp [holding]

end Connection

namespace ConnectionOp

variable {τ : Type}

/-- The transport that an operation stores in a connection that is not closed. -/
def stored? : ConnectionOp τ → Option τ
  | .connect (.ok transport) | .install transport => some transport
  | .connect (.error _) | .acquire | .isConnected | .close _ => none

def isClose : ConnectionOp τ → Bool
  | .close _ => true
  | .connect _ | .install _ | .acquire | .isConnected => false

end ConnectionOp

namespace ManagedConnection

open ConnectionOp

variable {τ : Type} {m : ManagedConnection τ} {ops before after : List (ConnectionOp τ)}

/-! ## One operation -/

/-- A closed connection stays as it is, whatever is asked of it. -/
theorem apply_of_closed (h : m.connection = .closed) (op : ConnectionOp τ) : (m.apply op).1 = m := by
  obtain ⟨connection, opened, released, log⟩ := m
  subst h
  cases op <;> rfl

/-- An operation that does not close keeps the transport or replaces it by the one it stores. -/
theorem connection_apply {op : ConnectionOp τ} (held : Option τ)
    (h : m.connection = Connection.holding held) (hop : op.isClose = false) :
    (m.apply op).1.connection = Connection.holding (op.stored?.or held) ∧
      (m.apply op).1.released = m.released := by
  obtain ⟨connection, opened, released, log⟩ := m
  subst h
  cases op with
  | connect result => cases result <;> cases held <;> exact ⟨rfl, rfl⟩
  | install transport => cases held <;> exact ⟨rfl, rfl⟩
  | acquire => exact ⟨rfl, rfl⟩
  | isConnected => exact ⟨rfl, rfl⟩
  | close failure => cases hop

theorem connection_close (m : ManagedConnection τ) (failure : Option StageError) :
    (m.close failure).connection = .closed := by
  unfold close
  split <;> rfl

theorem released_close (m : ManagedConnection τ) (failure : Option StageError) :
    (m.close failure).released = m.released ++ m.connection.held?.toList := by
  unfold close
  cases m.connection.held? <;> simp

theorem moves_apply (m : ManagedConnection τ) (op : ConnectionOp τ) :
    m.connection.Moves (m.apply op).1.connection := by
  cases hop : op.isClose with
  | true =>
    cases op with
    | close failure =>
      simp only [apply, connection_close]
      exact .closes _
    | _ => cases hop
  | false =>
    cases hc : m.connection with
    | closed =>
      rw [apply_of_closed hc, hc]
      exact .stays _
    | unconnected =>
      rw [(connection_apply none hc hop).1]
      cases op.stored? with
      | none => exact .stays _
      | some transport => exact .opens transport
    | connected old =>
      rw [(connection_apply (some old) hc hop).1]
      cases op.stored? with
      | none => exact .stays _
      | some transport => exact .replaces old transport

/-! ## Many operations -/

theorem run_append (m : ManagedConnection τ) (ops more : List (ConnectionOp τ)) :
    m.run (ops ++ more) = (m.run ops).run more :=
  List.foldl_append

theorem moves_run (m : ManagedConnection τ) (ops : List (ConnectionOp τ)) :
    m.connection.Moves (m.run ops).connection := by
  induction ops generalizing m with
  | nil => exact .stays _
  | cons op rest ih => exact (moves_apply m op).trans (ih (m.apply op).1)

theorem run_of_closed (h : m.connection = .closed) (ops : List (ConnectionOp τ)) : m.run ops = m := by
  induction ops with
  | nil => rfl
  | cons op rest ih =>
    show (m.apply op).1.run rest = m
    rw [apply_of_closed h, ih]

/-- Before the first close a connection holds what was stored last, and nothing has been closed. -/
theorem run_of_open (h : ∀ op ∈ ops, op.isClose = false) :
    (run {} ops).connection = Connection.holding (ops.filterMap stored?).getLast? ∧
      (run {} ops).released = [] := by
  induction ops using List.reverseRecOn with
  | nil => exact ⟨rfl, rfl⟩
  | append_singleton ops op ih =>
    obtain ⟨hconnection, hreleased⟩ := ih fun op hop => h op (List.mem_append_left _ hop)
    have hop : op.isClose = false := h op (by simp)
    obtain ⟨hc, hr⟩ := connection_apply _ hconnection hop
    rw [run_append]
    refine ⟨?_, hr.trans hreleased⟩
    show ((run {} ops).apply op).1.connection = _
    rw [hc, List.filterMap_append]
    cases hstored : op.stored? with
    | none => simp [hstored]
    | some transport => simp [hstored]

/-- The first close is the last operation that does anything. -/
theorem run_close (failure : Option StageError) (before after : List (ConnectionOp τ)) :
    run {} (before ++ .close failure :: after) = (run {} before).close failure := by
  rw [run_append]
  show ((run {} before).close failure).run after = _
  exact run_of_closed (connection_close _ _) after

/-- Operations have no close among them, or a first one. -/
theorem close_cases (ops : List (ConnectionOp τ)) :
    (∀ op ∈ ops, op.isClose = false) ∨
      ∃ failure after, ops = (ops.takeWhile fun op => !op.isClose) ++ .close failure :: after := by
  induction ops with
  | nil => exact .inl nofun
  | cons op rest ih =>
    cases hop : op.isClose with
    | true =>
      cases op with
      | close failure => exact .inr ⟨failure, rest, by simp [isClose]⟩
      | _ => cases hop
    | false =>
      rcases ih with hall | ⟨failure, after, hrest⟩
      · exact .inl (List.forall_mem_cons.2 ⟨hop, hall⟩)
      · refine .inr ⟨failure, after, ?_⟩
        rw [List.takeWhile_cons_of_pos (by simp [hop]), List.cons_append, ← hrest]

theorem isClose_of_mem_takeWhile {op : ConnectionOp τ}
    (h : op ∈ ops.takeWhile fun op => !op.isClose) : op.isClose = false := by
  simpa using List.mem_takeWhile_imp h

/-- A connection holds a transport exactly if nobody has closed it and that one was stored last. -/
theorem connection_run_eq_connected_iff {transport : τ} :
    (run {} ops).connection = .connected transport ↔
      (∀ op ∈ ops, op.isClose = false) ∧ (ops.filterMap stored?).getLast? = some transport := by
  rcases close_cases ops with hopen | ⟨failure, after, hops⟩
  · rw [(run_of_open hopen).1, Connection.holding_eq_connected_iff, and_iff_right hopen]
  · have hclosed : (run {} ops).connection = .closed := by
      rw [hops, run_close, connection_close]
    rw [hclosed]
    refine ⟨nofun, fun ⟨hopen, _⟩ => ?_⟩
    have hmem : ConnectionOp.close failure ∈ ops := by
      rw [hops]
      simp
    cases hopen _ hmem

/-- What is closed is the transport held at the first close, if there is one. -/
theorem released_run (ops : List (ConnectionOp τ)) :
    (run {} ops).released =
      if ops.any isClose then
        (run {} (ops.takeWhile fun op => !op.isClose)).connection.held?.toList
      else [] := by
  rcases close_cases ops with hopen | ⟨failure, after, hops⟩
  · rw [if_neg (by simpa using hopen), (run_of_open hopen).2]
  · have hany : ops.any isClose = true := by
      rw [hops]
      simp [isClose]
    rw [if_pos hany]
    generalize hbefore : ops.takeWhile (fun op => !op.isClose) = before at hops ⊢
    rw [hops, run_close, released_close, (run_of_open fun op hop => ?_).2, List.nil_append]
    rw [← hbefore] at hop
    exact isClose_of_mem_takeWhile hop

/-- The life of a connection under any operations, followed by any others. It only moves forward.
Once closed it refuses to connect or to take a transport, and no operation changes anything: nothing
is opened, stored or closed. To connect in vain leaves it as it was. The transport that was stored
last is given out as long as nobody has closed the connection, and then no more. To close always
works, also if the transport cannot be closed properly. At most one transport is ever closed, the
one held when the connection was closed first. -/
theorem lifecycle (ops more : List (ConnectionOp τ)) :
    let m := run {} ops
    m.connection.Moves (m.run more).connection ∧
    (m.connection = .closed → m.run more = m ∧
      (∀ opened, m.apply (.connect opened) = (m, .error .closed)) ∧
      ∀ transport, m.apply (.install transport) = (m, .error .closed)) ∧
    (∀ e, (∃ e', (m.apply (.connect (.error e))).2 = .error e') ∧
      (m.apply (.connect (.error e))).1.connection = m.connection ∧
      (m.apply (.connect (.error e))).1.released = m.released) ∧
    (∀ transport, m.connection = .connected transport ↔
      (∀ op ∈ ops, op.isClose = false) ∧ (ops.filterMap stored?).getLast? = some transport) ∧
    ((m.apply .acquire).1 = m ∧
      (∀ transport, (m.apply .acquire).2 = .ok (some transport) ↔
        m.connection = .connected transport) ∧
      ((m.apply .acquire).2 = .error .closed ↔ ∀ transport, m.connection ≠ .connected transport)) ∧
    ((m.apply .isConnected).1 = m ∧ ∀ transport, (m.apply .isConnected).2 = .ok (some transport) ↔
      m.connection = .connected transport) ∧
    (∀ failure, (m.apply (.close failure)).1.connection = .closed ∧
      (m.apply (.close failure)).2 = .ok none) ∧
    (m.released = if ops.any isClose then
        (run {} (ops.takeWhile fun op => !op.isClose)).connection.held?.toList
      else []) ∧
    m.released.length ≤ 1 := by
  intro m
  have hreleased := released_run ops
  refine ⟨moves_run m more, fun hclosed => ⟨run_of_closed hclosed more, ?_⟩, fun e => ?_,
    fun transport => connection_run_eq_connected_iff, ⟨rfl, ?_, ?_⟩, ⟨rfl, ?_⟩,
    fun failure => ⟨connection_close m failure, rfl⟩, hreleased, ?_⟩
  · generalize m = m at hclosed ⊢
    obtain ⟨connection, opened, released, log⟩ := m
    subst hclosed
    exact ⟨fun _ => rfl, fun _ => rfl⟩
  · generalize m = m
    obtain ⟨connection, opened, released, log⟩ := m
    cases connection <;> exact ⟨⟨_, rfl⟩, rfl, rfl⟩
  · intro transport
    cases hc : m.connection <;> simp [apply, hc, Connection.acquire, Except.map]
  · cases hc : m.connection <;> simp [apply, hc, Connection.acquire, Except.map]
  · intro transport
    cases hc : m.connection <;> simp [apply, hc, Connection.held?]
  · rw [hreleased]
    split
    · exact Option.length_toList_le
    · exact Nat.zero_le _

end ManagedConnection
end ReplyStage
