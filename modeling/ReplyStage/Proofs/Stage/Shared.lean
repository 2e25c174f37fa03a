import Mathlib.Logic.Relation
import ReplyStage.Proofs.Stage.Process
import ReplyStage.Proofs.Stage.Seats
/-!
# The steps of a shared stage

Any calls come to a stage, and their steps follow one another in any order: a call comes, runs with
the lock, takes the end of its request, finishes closing a transport or is dropped. What the
transport makes of a request is given for each call by itself.

`Effect` says once what a step does to its own call, to the connection and to the history, and
`Takes` what the step leaves alone. `Inv` is kept by every step, and so holds in every state that
is reached.
-/

namespace ReplyStage

theorem Connection.held?_eq_some_iff {τ : Type} {c : Connection τ} {transport : τ} :
    c.held? = some transport ↔ c = .connected transport := by
  cases c <;> simp [held?]

/-- The request that is sent, if it is this call's. -/
def Happening.sentBy? {τ : Type} (id : Nat) : Happening τ → Option (Sending τ)
  | .sent sender sending => if sender = id then some sending else none
  | .replied _ _ | .failed _ _ | .released _ _ => none

/-- Whether a call in this phase is still to run. -/
def Phase.isToRun {τ : Type} : Phase τ → Bool
  | .idle | .waiting _ | .admitted _ => true
  | .underway _ _ | .closing _ | .finished _ => false

namespace Shared

variable {τ : Type}

/-! ## Letting calls in -/

theorem letIn_eq (s : Shared τ) (id : Nat) :
    s.letIn id = { s with phase := letInAll [id] s.phase } := by
  have hphase : (s.letIn id).phase = letInAll [id] s.phase := by
    funext i
    unfold letIn letInAll
    split
    · rename_i call h
      by_cases hi : i = id <;> simp [setPhase, hi, h, Phase.letIn]
    · rename_i h
      by_cases hi : i = id
      · subst hi
        cases hp : s.phase i <;> simp_all [Phase.letIn]
      · simp [hi]
  rw [← hphase, letIn]
  split <;> rfl

theorem letInAll_letInAll (first ids : List Nat) (phase : Nat → Phase τ) :
    letInAll ids (letInAll first phase) = letInAll (first ++ ids) phase := by
  funext i
  unfold letInAll
  by_cases h : i ∈ ids <;> by_cases hf : i ∈ first <;> simp [h, hf]

theorem foldl_letIn (ids : List Nat) (s : Shared τ) :
    ids.foldl letIn s = { s with phase := letInAll ids s.phase } := by
  induction ids generalizing s with
  | nil => rfl
  | cons id ids ih => rw [List.foldl_cons, ih, letIn_eq, letInAll_letInAll, List.singleton_append]

theorem withLock_fst (s : Shared τ) (l : Lock × List Nat) :
    (s.withLock l).1 = { s with lock := l.1, phase := letInAll l.2 s.phase } := by
  rw [withLock, foldl_letIn]

/-! ## Runs -/

/-- What a call sent, in order. -/
def sentBy (s : Shared τ) (id : Nat) : List (Sending τ) :=
  s.history.filterMap fun h => h.2.sentBy? id

/-- A stage with a connection, before any call comes. -/
def begin (stage : Stage) (headersSupported : τ → Bool) (connection : Connection τ) : Shared τ :=
  { stage, headersSupported, connection }

variable (respond : Nat → Sending τ → Response)

/-- A step of a call. What comes back for a request is the transport's response to the call that
sent it. -/
inductive Step (id : Nat) : Shared τ → Shared τ → Prop
  | arrive {s} (call : Call τ) : s.phase id = .idle → Step id s (s.arrive id call).1
  | run {s call} (now : Duration) : s.phase id = .admitted call → Step id s (s.run id now).1
  | settle {s sending since} (now : Duration) : s.phase id = .underway sending since →
      Step id s (s.settle id now (s.stage.conclude sending (respond id sending)).2).1
  | endClose {s transport} : s.phase id = .closing transport → Step id s (s.endClose id).1
  | cancel {s} : (∀ outcome, s.phase id ≠ .finished outcome) → s.phase id ≠ .idle →
      Step id s (s.cancel id).1

/-- The states that steps of any calls lead to. -/
def Reaches : Shared τ → Shared τ → Prop :=
  Relation.ReflTransGen fun s s' => ∃ id, Step respond id s s'

/-- What a step of a call does: the phase the call comes to, the connection, and what is noted. -/
inductive Effect (s : Shared τ) (id : Nat) :
    Phase τ → Connection τ → List (Duration × Happening τ) → Prop
  | arrives (call : Call τ) : s.phase id = .idle → Effect s id (.waiting call) s.connection []
  | refused {record deadline now e} : s.phase id = .admitted (.process record deadline) →
      s.stage.start s.headersSupported s.connection record deadline now = .error e →
      Effect s id (.finished (.failed e)) s.connection [(now, .failed id e)]
  | sends {record deadline now sending} : s.phase id = .admitted (.process record deadline) →
      s.stage.start s.headersSupported s.connection record deadline now = .ok sending →
      Effect s id (.underway sending now) s.connection [(now, .sent id sending)]
  | replied {sending since now elapsed record} : s.phase id = .underway sending since →
      (s.stage.conclude sending (respond id sending)).2 = .ok record →
      Effect s id (.finished (.record record)) s.connection [(now, .replied id elapsed)]
  | failed {sending since now e} : s.phase id = .underway sending since →
      (s.stage.conclude sending (respond id sending)).2 = .error e →
      Effect s id (.finished (.failed e)) s.connection [(now, .failed id e)]
  | stores {opened connection} : s.phase id = .admitted (.connect opened) →
      s.connection.connect opened = .ok connection → Effect s id (.finished .done) connection []
  | opensNothing {opened e} : s.phase id = .admitted (.connect opened) →
      s.connection.connect opened = .error e → Effect s id (.finished (.failed e)) s.connection []
  | closes {transport now} : s.phase id = .admitted .close → s.connection = .connected transport →
      Effect s id (.closing transport) .closed [(now, .released id transport)]
  | closesNothing : s.phase id = .admitted .close → s.connection.held? = none →
      Effect s id (.finished .done) .closed []
  | closed {transport} : s.phase id = .closing transport →
      Effect s id (.finished .done) s.connection []
  | dropped : (∀ outcome, s.phase id ≠ .finished outcome) → s.phase id ≠ .idle →
      Effect s id (.finished .cancelled) s.connection []

/-- A call comes to a phase, or from there on to hold the lock. -/
def Enters (p q : Phase τ) : Prop := q = p ∨ ∃ call, p = .waiting call ∧ q = .admitted call

/-- The state after a step: the call's own phase, the connection and the history are as given, calls
that waited may be let in, and all else stays. -/
structure Takes (s : Shared τ) (id : Nat) (p : Phase τ) (connection : Connection τ)
    (happened : List (Duration × Happening τ)) (s' : Shared τ) : Prop where
  stage : s'.stage = s.stage
  headersSupported : s'.headersSupported = s.headersSupported
  connection : s'.connection = connection
  history : s'.history = s.history ++ happened
  phase : ∀ i, Enters (move s.phase id p i) (s'.phase i)
  seats : Seats s.phase s.lock → Seats s'.phase s'.lock
  busy : s.lock.Busy → s'.lock.Busy

variable {respond} {s s' : Shared τ} {id : Nat}

theorem enters_letInAll (ids : List Nat) (phase : Nat → Phase τ) (i : Nat) :
    Enters (phase i) (letInAll ids phase i) := by
  unfold letInAll
  split
  · cases h : phase i with
    | waiting call => exact .inr ⟨call, rfl, rfl⟩
    | idle => exact .inl rfl
    | admitted call => exact .inl rfl
    | underway sending since => exact .inl rfl
    | closing transport => exact .inl rfl
    | finished outcome => exact .inl rfl
  · exact .inl rfl

theorem takes_arrive (hidle : s.phase id = .idle) (call : Call τ) :
    Takes s id (.waiting call) s.connection [] (s.arrive id call).1 := by
  rw [arrive, withLock_fst]
  exact ⟨rfl, rfl, rfl, (List.append_nil _).symm, enters_letInAll _ _,
    fun h => h.ask hidle call, fun _ => Lock.busy_settle _ _⟩

/-- A call that fits comes to hold the lock at once, if nobody waits. -/
theorem phase_arrive {call : Call τ} (hseats : Seats s.phase s.lock)
    (hnobody : ∀ i, (s.phase i).awaits? = none)
    (hfits : ∀ i held, (s.phase i).holds? = some held → held = .shared ∧ call.access = .shared) :
    (s.arrive id call).1.phase = move s.phase id (.admitted call) := by
  rw [arrive, withLock_fst,
    Lock.ask_of_admits (hseats.waiting_eq_nil hnobody) (hseats.admits_of_holds hfits)]
  funext i
  by_cases hi : i = id <;> simp [letInAll, setPhase, move, hi, Phase.letIn]

/-- A call that ends may have set the connection and noted something before. -/
theorem takes_finish (outcome : Outcome) (connection : Connection τ)
    (happened : List (Duration × Happening τ)) :
    Takes s id (.finished outcome) connection happened
      ({ s with connection, history := s.history ++ happened }.finish id outcome).1 := by
  rw [finish, withLock_fst]
  exact ⟨rfl, rfl, rfl, rfl, enters_letInAll _ _, fun h => h.leave id outcome,
    fun _ => Lock.busy_settle _ _⟩

/-- A call that ends may have set the connection and nothing else. -/
theorem takes_finish_silent (outcome : Outcome) (connection : Connection τ) :
    Takes s id (.finished outcome) connection [] ({ s with connection }.finish id outcome).1 := by
  have h : Takes s id (.finished outcome) connection []
      ({ s with connection, history := s.history ++ [] }.finish id outcome).1 := takes_finish _ _ _
  rwa [List.append_nil] at h

section Run
variable {record : Record} {deadline : Option Duration} {now : Duration}

theorem takes_run_refused (hcall : s.phase id = .admitted (.process record deadline))
    {e : StageError}
    (h : s.stage.start s.headersSupported s.connection record deadline now = .error e) :
    Takes s id (.finished (.failed e)) s.connection [(now, .failed id e)] (s.run id now).1 := by
  simp only [run, hcall, h]
  exact takes_finish _ _ _

theorem takes_run_sends (hcall : s.phase id = .admitted (.process record deadline))
    {sending : Sending τ}
    (h : s.stage.start s.headersSupported s.connection record deadline now = .ok sending) :
    Takes s id (.underway sending now) s.connection [(now, .sent id sending)] (s.run id now).1 := by
  simp only [run, hcall, h]
  refine ⟨rfl, rfl, rfl, rfl, fun _ => .inl rfl, fun hseats => ?_, fun hbusy => hbusy⟩
  exact hseats.goOn (by rw [hcall]; rfl) (by rw [hcall]; rfl)

theorem takes_run_stores {opened : Except StageError τ} {connection : Connection τ}
    (hcall : s.phase id = .admitted (.connect opened))
    (h : s.connection.connect opened = .ok connection) :
    Takes s id (.finished .done) connection [] (s.run id now).1 := by
  simp only [run, hcall, connect, h]
  exact takes_finish_silent _ _

theorem takes_run_opensNothing {opened : Except StageError τ} {e : StageError}
    (hcall : s.phase id = .admitted (.connect opened))
    (h : s.connection.connect opened = .error e) :
    Takes s id (.finished (.failed e)) s.connection [] (s.run id now).1 := by
  simp only [run, hcall, connect, h]
  exact takes_finish_silent _ _

theorem takes_run_close {transport : τ} (hcall : s.phase id = .admitted .close)
    (h : s.connection = .connected transport) :
    Takes s id (.closing transport) .closed [(now, .released id transport)] (s.run id now).1 := by
  simp only [run, hcall, close, h, Connection.held?]
  refine ⟨rfl, rfl, rfl, rfl, fun _ => .inl rfl, fun hseats => ?_, fun hbusy => hbusy⟩
  exact hseats.goOn (by rw [hcall]; rfl) (by rw [hcall]; rfl)

theorem takes_run_closesNothing (hcall : s.phase id = .admitted .close)
    (h : s.connection.held? = none) :
    Takes s id (.finished .done) .closed [] (s.run id now).1 := by
  simp only [run, hcall, close, h]
  exact takes_finish_silent _ _

end Run

theorem takes_run {call : Call τ} {now : Duration} (hcall : s.phase id = .admitted call) :
    ∃ p connection happened, Effect respond s id p connection happened ∧
      Takes s id p connection happened (s.run id now).1 := by
  cases call with
  | process record deadline =>
    cases hstart : s.stage.start s.headersSupported s.connection record deadline now with
    | error e => exact ⟨_, _, _, .refused hcall hstart, takes_run_refused hcall hstart⟩
    | ok sending => exact ⟨_, _, _, .sends hcall hstart, takes_run_sends hcall hstart⟩
  | connect opened =>
    cases hopened : s.connection.connect opened with
    | error e => exact ⟨_, _, _, .opensNothing hcall hopened, takes_run_opensNothing hcall hopened⟩
    | ok connection => exact ⟨_, _, _, .stores hcall hopened, takes_run_stores hcall hopened⟩
  | close =>
    cases hheld : s.connection.held? with
    | none => exact ⟨_, _, _, .closesNothing hcall hheld, takes_run_closesNothing hcall hheld⟩
    | some transport =>
      have hc := Connection.held?_eq_some_iff.1 hheld
      exact ⟨_, _, _, .closes hcall hc, takes_run_close hcall hc⟩

theorem takes_cancel (hend : ∀ outcome, s.phase id ≠ .finished outcome)
    (hidle : s.phase id ≠ .idle) :
    Takes s id (.finished .cancelled) s.connection [] (s.cancel id).1 := by
  unfold cancel
  split
  · exact takes_finish_silent _ _
  · exact takes_finish_silent _ _
  · exact takes_finish_silent _ _
  · exact takes_finish_silent _ _
  · rename_i h
    exact absurd h hidle
  · rename_i outcome h
    exact absurd h (hend outcome)

/-- What a step can be. -/
theorem effect_of_step (h : Step respond id s s') :
    ∃ p connection happened, Effect respond s id p connection happened ∧
      Takes s id p connection happened s' := by
  cases h with
  | arrive call hidle => exact ⟨_, _, _, .arrives call hidle, takes_arrive hidle call⟩
  | run now hcall => exact takes_run hcall
  | settle now hunder =>
    simp only [settle, hunder]
    rename_i sending since
    cases hr : (s.stage.conclude sending (respond id sending)).2 with
    | ok record => exact ⟨_, _, _, .replied hunder hr, takes_finish _ _ _⟩
    | error e => exact ⟨_, _, _, .failed hunder hr, takes_finish _ _ _⟩
  | endClose hclosing =>
    simp only [endClose, hclosing]
    exact ⟨_, _, _, .closed hclosing, takes_finish_silent _ _⟩
  | cancel hend hidle => exact ⟨_, _, _, .dropped hend hidle, takes_cancel hend hidle⟩

/-! ## What one step leaves -/

section Effect
variable {p : Phase τ} {c : Connection τ} {happened : List (Duration × Happening τ)}
  {i : Nat}

/-- Only a call that holds the lock alone sets the connection. -/
theorem Effect.connection_eq (h : Effect respond s id p c happened) :
    c = s.connection ∨ (s.phase id).holds? = some .exclusive := by
  cases h with
  | stores hcall _ => exact .inr (by rw [hcall]; rfl)
  | closes hcall _ => exact .inr (by rw [hcall]; rfl)
  | closesNothing hcall _ => exact .inr (by rw [hcall]; rfl)
  | _ => exact .inl rfl

/-- A closed connection stays closed. -/
theorem Effect.stays_closed (h : Effect respond s id p c happened)
    (hclosed : s.connection = .closed) : c = .closed := by
  cases h with
  | stores _ hstored =>
    rw [hclosed] at hstored
    cases hstored
  | closes _ _ => rfl
  | closesNothing _ _ => rfl
  | _ => exact hclosed

theorem Effect.sends_nothing_other (h : Effect respond s id p c happened) (hi : i ≠ id) :
    (happened.filterMap fun h => h.2.sentBy? i) = [] := by
  cases h with
  | sends _ _ => simp [Happening.sentBy?, hi.symm]
  | _ => rfl

/-- Nothing is sent over a connection that is not open. -/
theorem Effect.sends_nothing_closed (h : Effect respond s id p c happened)
    (hclosed : s.connection = .closed) :
    (happened.filterMap fun h => h.2.sentBy? i) = [] := by
  cases h with
  | sends _ hstart =>
    obtain ⟨hc, -⟩ := Stage.start_ok_iff.1 hstart
    rw [hclosed] at hc
    cases hc
  | _ => rfl

theorem Takes.sentBy (h : Takes s id p c happened s') (i : Nat) :
    s'.sentBy i = s.sentBy i ++ happened.filterMap fun h => h.2.sentBy? i := by
  rw [Shared.sentBy, h.history, List.filterMap_append]
  rfl

/-- Where nobody waits, nobody but the call itself moves. -/
theorem Takes.phase_eq (h : Takes s id p c happened s') (hnobody : ∀ i, (s.phase i).awaits? = none)
    (hp : p.awaits? = none) : s'.phase = move s.phase id p := by
  funext i
  have hi : (move s.phase id p i).awaits? = none := by
    unfold move
    split
    · exact hp
    · exact hnobody i
  rcases h.phase i with he | ⟨call, he, -⟩
  · exact he
  · rw [he] at hi
    cases hi

/-- The call itself comes to its new phase, unless it comes to wait. -/
theorem Takes.phase_self (h : Takes s id p c happened s') (hp : p.awaits? = none) :
    s'.phase id = p := by
  rcases h.phase id with he | ⟨call, he, -⟩
  · rw [he, move_self]
  · rw [move_self] at he
    rw [he] at hp
    cases hp

theorem Takes.phase_other (h : Takes s id p c happened s') (hi : i ≠ id) :
    Enters (s.phase i) (s'.phase i) := by
  have he := h.phase i
  rwa [move_of_ne hi] at he

end Effect

/-! ## What every step keeps -/

/-- What holds in every state: the lock and the phases agree, nobody waits for a lock that is free,
a request under way went to the connection, and a call that is to run has sent nothing. -/
structure Inv (s : Shared τ) : Prop where
  seats : Seats s.phase s.lock
  busy : s.lock.Busy
  connected : ∀ id sending since, s.phase id = .underway sending since →
    s.connection = .connected sending.transport
  unsent : ∀ id, (s.phase id).isToRun = true → s.sentBy id = []

theorem inv_begin (stage : Stage) (headersSupported : τ → Bool) (connection : Connection τ) :
    Inv (begin stage headersSupported connection) where
  seats := ⟨fun _ _ => ⟨nofun, nofun⟩, fun _ _ => ⟨nofun, nofun⟩, List.nodup_nil, .inl nofun⟩
  busy h := absurd rfl h
  connected _ _ _ hunder := nomatch hunder
  unsent _ _ := rfl

/-- The connection stays as it is as long as some call holds the lock shared, whatever others do. -/
theorem Inv.connection_eq {p : Phase τ} {c : Connection τ}
    {happened : List (Duration × Happening τ)} {i : Nat} (h : Inv s)
    (heffect : Effect respond s id p c happened) (hi : i ≠ id)
    (hholds : (s.phase i).holds? = some .shared) : c = s.connection := by
  rcases heffect.connection_eq with heq | hexclusive
  · exact heq
  · exact absurd (h.seats.alone hexclusive hholds) hi

/-- A step of another call sets no request under way. -/
theorem Takes.underway_other {p : Phase τ} {c : Connection τ}
    {happened : List (Duration × Happening τ)} {i : Nat} {sending : Sending τ} {since : Duration}
    (h : Takes s id p c happened s') (hi : i ≠ id) (hunder : s'.phase i = .underway sending since) :
    s.phase i = .underway sending since := by
  rcases h.phase_other hi with he | ⟨call, -, he⟩
  · rw [← hunder, he]
  · rw [hunder] at he
    cases he

/-- Requests under way go to the connection, also after a step. -/
theorem Inv.connected_step {p : Phase τ} {c : Connection τ}
    {happened : List (Duration × Happening τ)} (h : Inv s)
    (heffect : Effect respond s id p c happened) (ht : Takes s id p c happened s') {i : Nat}
    {sending : Sending τ} {since : Duration} (hunder : s'.phase i = .underway sending since) :
    s'.connection = .connected sending.transport := by
  rw [ht.connection]
  by_cases hi : i = id
  · subst hi
    have hp : p = .underway sending since := by
      rcases ht.phase i with he | ⟨call, -, he⟩
      · rw [← hunder, he, move_self]
      · rw [hunder] at he
        cases he
    subst hp
    cases heffect with
    | sends _ hstart => exact (Stage.start_ok_iff.1 hstart).1
  · have hsame := ht.underway_other hi hunder
    rw [h.connection_eq heffect hi (by rw [hsame]; rfl)]
    exact h.connected i sending since hsame

/-- A call that is to run after a step was to run before it. -/
theorem Effect.isToRun {p : Phase τ} {c : Connection τ} {happened : List (Duration × Happening τ)}
    (h : Effect respond s id p c happened) (hp : p.isToRun = true) :
    (s.phase id).isToRun = true ∧ happened = [] := by
  cases h with
  | arrives call hidle => exact ⟨by rw [hidle]; rfl, rfl⟩
  | _ => cases hp

theorem Enters.isToRun {p q : Phase τ} (h : Enters p q) : q.isToRun = p.isToRun := by
  rcases h with rfl | ⟨call, rfl, rfl⟩ <;> rfl

theorem Inv.step (h : Inv s) (hstep : Step respond id s s') : Inv s' := by
  obtain ⟨p, c, happened, heffect, ht⟩ := effect_of_step hstep
  refine ⟨ht.seats h.seats, ht.busy h.busy, fun i sending since => h.connected_step heffect ht,
    fun i hrun => ?_⟩
  rw [(ht.phase i).isToRun] at hrun
  rw [ht.sentBy]
  by_cases hi : i = id
  · subst hi
    rw [move_self] at hrun
    obtain ⟨hbefore, hnone⟩ := heffect.isToRun hrun
    rw [h.unsent i hbefore, hnone]
    rfl
  · rw [move_of_ne hi] at hrun
    rw [h.unsent i hrun, heffect.sends_nothing_other hi]
    rfl

theorem Inv.reaches (h : Inv s) (hreach : Reaches respond s s') : Inv s' := by
  induction hreach with
  | refl => exact h
  | tail _ hstep ih =>
    obtain ⟨id, hstep⟩ := hstep
    exact ih.step hstep

theorem Reaches.stage_eq (h : Reaches respond s s') :
    s'.stage = s.stage ∧ s'.headersSupported = s.headersSupported := by
  induction h with
  | refl => exact ⟨rfl, rfl⟩
  | tail _ hstep ih =>
    obtain ⟨id, hstep⟩ := hstep
    obtain ⟨_, _, _, -, ht⟩ := effect_of_step hstep
    exact ⟨ht.stage.trans ih.1, ht.headersSupported.trans ih.2⟩

/-- Nobody waits for a lock that nobody holds. -/
theorem Inv.exists_holder {i : Nat} {call : Call τ} (h : Inv s)
    (hwait : s.phase i = .waiting call) : ∃ id access, (s.phase id).holds? = some access := by
  have hqueue : (i, call.access) ∈ s.lock.waiting := (h.seats.awaits i _).2 (by rw [hwait]; rfl)
  obtain ⟨⟨id, access⟩, hholder⟩ :=
    List.exists_mem_of_ne_nil _ (h.busy (List.ne_nil_of_mem hqueue))
  exact ⟨id, access, (h.seats.holds id access).1 hholder⟩

/-! ## A closed connection -/

/-- No request is under way. -/
def Quiet (s : Shared τ) : Prop := ∀ id sending since, s.phase id ≠ .underway sending since

theorem Inv.quiet (h : Inv s) (hclosed : s.connection = .closed) : s.Quiet := by
  intro id sending since hunder
  rw [h.connected id sending since hunder] at hclosed
  cases hclosed

/-- Once closed, the connection stays closed and nothing more is sent. -/
theorem Reaches.stays_closed (h : Reaches respond s s') (hclosed : s.connection = .closed) :
    s'.connection = .closed ∧ ∀ i, s'.sentBy i = s.sentBy i := by
  induction h with
  | refl => exact ⟨hclosed, fun _ => rfl⟩
  | tail _ hstep ih =>
    obtain ⟨id, hstep⟩ := hstep
    obtain ⟨hc, hsent⟩ := ih
    obtain ⟨_, _, _, heffect, ht⟩ := effect_of_step hstep
    refine ⟨ht.connection.trans (heffect.stays_closed hc), fun i => ?_⟩
    rw [ht.sentBy, heffect.sends_nothing_closed hc, List.append_nil, hsent]

/-- A call that runs `close` closes the connection. -/
theorem connection_run_close {now : Duration} (hcall : s.phase id = .admitted .close) :
    (s.run id now).1.connection = .closed := by
  cases hheld : s.connection.held? with
  | none => exact (takes_run_closesNothing hcall hheld).connection
  | some transport =>
    exact (takes_run_close hcall (Connection.held?_eq_some_iff.1 hheld)).connection

/-- A transport is closed while it is the connection, by a call that holds the lock alone. -/
theorem effect_of_released {now : Duration} {transport : τ} (hstep : Step respond id s s')
    (hnoted : s'.history = s.history ++ [(now, .released id transport)]) :
    s.phase id = .admitted .close ∧ s.connection = .connected transport ∧
      s'.connection = .closed := by
  obtain ⟨p, c, happened, heffect, ht⟩ := effect_of_step hstep
  have hhappened : happened = [(now, .released id transport)] :=
    List.append_cancel_left (ht.history.symm.trans hnoted)
  cases heffect with
  | closes hcall hc =>
    cases hhappened
    exact ⟨hcall, hc, ht.connection⟩
  | _ => cases hhappened

/-- While a call holds the lock alone, no request is under way. -/
theorem Inv.quiet_of_exclusive (h : Inv s) (hid : (s.phase id).holds? = some .exclusive) :
    s.Quiet := by
  intro i sending since hunder
  have hi : i = id := h.seats.alone hid (by rw [hunder]; rfl)
  rw [← hi, hunder] at hid
  cases hid

end Shared
end ReplyStage
