import ReplyStage.Proofs.Connection.Lifecycle
/-!
# What becomes of transports

A connection accepts transports, gives them out to be used, and closes them. `history` tells what
operations, one after another, do to which transport. When the last of them closes the connection,
the transport accepted last has been closed, once and after its last use; those accepted before it
were dropped for the next one and are never closed. So all that were accepted are closed exactly
where they are one and the same (`closedLast_iff`), and there are histories in which one is dropped
(`dropped_replaced`).
-/

namespace ReplyStage

/-- Something that happens to a transport. -/
inductive TransportEvent (τ : Type)
  | accepted (transport : τ)
  | used (transport : τ)
  | closed (transport : τ)
  deriving DecidableEq, Repr

namespace TransportEvent

variable {τ : Type}

def transport : TransportEvent τ → τ
  | accepted transport | used transport | closed transport => transport

def accepted? : TransportEvent τ → Option τ
  | accepted transport => some transport
  | used _ | closed _ => none

def closed? : TransportEvent τ → Option τ
  | closed transport => some transport
  | accepted _ | used _ => none

variable {events : List (TransportEvent τ)} {transport : τ}

/-- A transport is closed once, and nothing happens to it after that. -/
def ClosedLast (transport : τ) (events : List (TransportEvent τ)) : Prop :=
  ∃ before after, events = before ++ closed transport :: after ∧ closed transport ∉ before ∧
    ∀ event ∈ after, event.transport ≠ transport

theorem ClosedLast.mem (h : ClosedLast transport events) : closed transport ∈ events := by
  obtain ⟨before, after, rfl, -, -⟩ := h
  exact List.mem_append_right before List.mem_cons_self

theorem closed_mem_iff : closed transport ∈ events ↔ transport ∈ events.filterMap closed? := by
  rw [List.mem_filterMap]
  constructor
  · exact fun h => ⟨_, h, rfl⟩
  · rintro ⟨event, hmem, hclosed⟩
    cases event with
    | closed other =>
      cases hclosed
      exact hmem
    | _ => cases hclosed

/-- What is closed at the very end, where nothing was closed before, is closed last. -/
theorem closedLast_append_closed (h : events.filterMap closed? = []) (transport : τ) :
    ClosedLast transport (events ++ [closed transport]) := by
  refine ⟨events, [], rfl, fun hmem => ?_, nofun⟩
  rw [closed_mem_iff, h] at hmem
  cases hmem

end TransportEvent

namespace ManagedConnection

open ConnectionOp TransportEvent

variable {τ : Type} {m : ManagedConnection τ} {ops : List (ConnectionOp τ)}

/-- What an operation does to a transport. -/
def event? (m : ManagedConnection τ) (op : ConnectionOp τ) : Option (TransportEvent τ) :=
  match op, (m.apply op).2 with
  | .connect (.ok transport), .ok _ | .install transport, .ok _ => some (.accepted transport)
  | .acquire, .ok (some transport) => some (.used transport)
  | .close _, .ok _ => m.connection.held?.map .closed
  | _, _ => none

/-- What operations do to transports, in order. -/
def history (m : ManagedConnection τ) : List (ConnectionOp τ) → List (TransportEvent τ)
  | [] => []
  | op :: rest => (m.event? op).toList ++ history (m.apply op).1 rest

theorem history_append (m : ManagedConnection τ) (ops more : List (ConnectionOp τ)) :
    m.history (ops ++ more) = m.history ops ++ (m.run ops).history more := by
  induction ops generalizing m with
  | nil => rfl
  | cons op rest ih =>
    rw [List.cons_append, history, ih, history, List.append_assoc]
    rfl

theorem filterMap_history_cons {α : Type} (f : TransportEvent τ → Option α)
    (m : ManagedConnection τ) (op : ConnectionOp τ) (rest : List (ConnectionOp τ)) :
    (m.history (op :: rest)).filterMap f =
      ((m.event? op).bind f).toList ++ ((m.apply op).1.history rest).filterMap f := by
  rw [history, List.filterMap_append]
  cases m.event? op with
  | none => rfl
  | some event =>
    cases hevent : f event <;> simp [hevent]

/-! ## One operation -/

theorem event?_of_closed (h : m.connection = .closed) (op : ConnectionOp τ) :
    m.event? op = none := by
  obtain ⟨connection, opened, released, log⟩ := m
  subst h
  cases op with
  | connect result => cases result <;> rfl
  | _ => rfl

/-- Before the first close what is stored is accepted, and nothing is closed. -/
theorem event?_of_open {op : ConnectionOp τ} (held : Option τ)
    (h : m.connection = Connection.holding held) (hop : op.isClose = false) :
    (m.event? op).bind accepted? = op.stored? ∧ (m.event? op).bind closed? = none := by
  obtain ⟨connection, opened, released, log⟩ := m
  subst h
  cases op with
  | connect result => cases result <;> cases held <;> exact ⟨rfl, rfl⟩
  | install transport => cases held <;> exact ⟨rfl, rfl⟩
  | acquire => cases held <;> exact ⟨rfl, rfl⟩
  | isConnected => exact ⟨rfl, rfl⟩
  | close failure => cases hop

/-- What is on record as closed is what is closed. -/
theorem released_apply (m : ManagedConnection τ) (op : ConnectionOp τ) :
    (m.apply op).1.released = m.released ++ ((m.event? op).bind closed?).toList := by
  cases hop : op.isClose with
  | true =>
    cases op with
    | close failure =>
      have hevent : m.event? (.close failure) = m.connection.held?.map .closed := rfl
      rw [apply, released_close, hevent]
      cases m.connection.held? <;> rfl
    | _ => cases hop
  | false =>
    cases hc : m.connection with
    | closed => rw [apply_of_closed hc, event?_of_closed hc]; simp
    | unconnected => rw [(connection_apply none hc hop).2, (event?_of_open none hc hop).2]; simp
    | connected held =>
      rw [(connection_apply (some held) hc hop).2, (event?_of_open (some held) hc hop).2]; simp

/-! ## Many operations -/

theorem released_history (m : ManagedConnection τ) (ops : List (ConnectionOp τ)) :
    (m.run ops).released = m.released ++ (m.history ops).filterMap closed? := by
  induction ops generalizing m with
  | nil => simp [run, history]
  | cons op rest ih =>
    show ((m.apply op).1.run rest).released = _
    rw [ih, released_apply, filterMap_history_cons, List.append_assoc]

theorem history_of_closed (h : m.connection = .closed) (ops : List (ConnectionOp τ)) :
    m.history ops = [] := by
  induction ops with
  | nil => rfl
  | cons op rest ih =>
    rw [history, event?_of_closed h, apply_of_closed h, ih]
    rfl

/-- The first close is the last operation that does anything to a transport. -/
theorem history_close (m : ManagedConnection τ) (failure : Option StageError)
    (after : List (ConnectionOp τ)) :
    m.history (.close failure :: after) = (m.connection.held?.map closed).toList := by
  have hclosed : (m.apply (.close failure)).1.connection = .closed := connection_close m failure
  rw [history, history_of_closed hclosed, List.append_nil]
  rfl

theorem history_of_open (held : Option τ) (hm : m.connection = Connection.holding held)
    (h : ∀ op ∈ ops, op.isClose = false) :
    (m.history ops).filterMap accepted? = ops.filterMap stored? ∧
      (m.history ops).filterMap closed? = [] := by
  induction ops generalizing m held with
  | nil => exact ⟨rfl, rfl⟩
  | cons op rest ih =>
    obtain ⟨hop, hrest⟩ := List.forall_mem_cons.mp h
    obtain ⟨haccepted, hclosed⟩ := event?_of_open held hm hop
    obtain ⟨ihaccepted, ihclosed⟩ := ih _ (connection_apply held hm hop).1 hrest
    rw [filterMap_history_cons, filterMap_history_cons, haccepted, hclosed, ihaccepted, ihclosed]
    refine ⟨?_, rfl⟩
    cases hstored : op.stored? <;> simp [hstored]

/-- Operations that close the connection at last close the transport accepted last, and nothing
before that or after it. -/
theorem exists_history_closing (ops : List (ConnectionOp τ)) (failure : Option StageError) :
    ∃ events, events.filterMap closed? = [] ∧ history {} (ops ++ [.close failure]) =
      events ++ ((events.filterMap accepted?).getLast?.map closed).toList := by
  generalize hall : ops ++ [ConnectionOp.close failure] = all
  rcases close_cases all with hopen | ⟨first, after, hfirst⟩
  · have hclose : ConnectionOp.close failure ∈ all := by simp [← hall]
    cases hopen _ hclose
  · have hopen : ∀ op ∈ all.takeWhile fun op => !op.isClose, op.isClose = false :=
      fun op => isClose_of_mem_takeWhile
    generalize all.takeWhile (fun op => !op.isClose) = before at hfirst hopen
    obtain ⟨haccepted, hclosed⟩ := history_of_open none (m := {}) rfl hopen
    refine ⟨history {} before, hclosed, ?_⟩
    rw [hfirst, history_append, history_close, (run_of_open hopen).1, haccepted]
    cases (before.filterMap stored?).getLast? <;> rfl

/-- What has become of transports when a connection is closed, whatever was asked of it before. -/
theorem closedLast_iff (ops : List (ConnectionOp τ)) (failure : Option StageError) :
    let events := history {} (ops ++ [.close failure])
    let accepted := events.filterMap accepted?
    -- one transport at most is on record as closed, the one accepted last,
    (run {} (ops ++ [.close failure])).released = accepted.getLast?.toList ∧
    -- which was closed once and after its last use,
    (∀ transport, ClosedLast transport events ↔ accepted.getLast? = some transport) ∧
    -- and no other one was closed,
    (∀ transport, .closed transport ∈ events ↔ accepted.getLast? = some transport) ∧
    -- so all that were accepted are closed exactly where they are one and the same
    ((∀ transport ∈ accepted, ClosedLast transport events) ↔
      ∀ transport ∈ accepted, ∀ other ∈ accepted, transport = other) := by
  obtain ⟨before, hbefore, hevents⟩ := exists_history_closing ops failure
  intro events accepted
  have haccepted : accepted = before.filterMap accepted? := by
    simp only [accepted, events, hevents, List.filterMap_append]
    cases (before.filterMap accepted?).getLast? <;> simp [accepted?]
  have hclosed : events.filterMap closed? = accepted.getLast?.toList := by
    simp only [haccepted, events, hevents, List.filterMap_append, hbefore]
    cases (before.filterMap accepted?).getLast? <;> simp [closed?]
  have hmem : ∀ transport, .closed transport ∈ events ↔ accepted.getLast? = some transport := by
    intro transport
    rw [closed_mem_iff, hclosed, Option.mem_toList]
  have hlast : ∀ transport, ClosedLast transport events ↔ accepted.getLast? = some transport := by
    refine fun transport => ⟨fun h => (hmem transport).mp h.mem, fun h => ?_⟩
    simp only [events, hevents, ← haccepted, h]
    exact closedLast_append_closed hbefore transport
  refine ⟨?_, hlast, hmem, ?_⟩
  · rw [released_history]
    exact hclosed
  · constructor
    · intro hall transport ht other ho
      have hfirst := (hlast transport).mp (hall transport ht)
      rw [(hlast other).mp (hall other ho)] at hfirst
      exact (Option.some.inj hfirst).symm
    · intro hsame transport ht
      rw [hlast]
      cases hl : accepted.getLast? with
      | none => rw [List.getLast?_eq_none_iff.mp hl] at ht; cases ht
      | some last => rw [hsame transport ht last (List.mem_of_getLast? hl)]

/-- For instance, a transport that is used, then another one in its place. -/
def replacing : List (ConnectionOp String) :=
  [.install "a", .acquire, .connect (.ok "b"), .acquire]

/-- The one in its place is closed. -/
theorem closedLast_iff_replacing :
    ClosedLast "b" (history {} (replacing ++ [.close])) ∧
      .closed "a" ∉ history {} (replacing ++ [.close]) := by
  obtain ⟨-, hlast, hmem, -⟩ := closedLast_iff replacing none
  exact ⟨(hlast "b").mpr rfl, mt (hmem "a").mp (by decide)⟩

/-- The other one is dropped without being closed. -/
theorem dropped_replaced :
    history {} [.install "a", .install "b", .close] =
        [.accepted "a", .accepted "b", TransportEvent.closed "b"] ∧
      (run {} [.install "a", .install "b", .close]).released = ["b"] ∧
      ¬ ∀ transport ∈ (history {} [.install "a", .install "b", .close]).filterMap accepted?,
        ClosedLast transport (history {} [.install "a", .install "b", .close]) := by
  refine ⟨rfl, rfl, fun hall => ?_⟩
  have hclosed := (hall "a" (by decide)).mem
  revert hclosed
  decide

end ManagedConnection
end ReplyStage
