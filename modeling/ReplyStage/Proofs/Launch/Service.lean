import ReplyStage.Launch
import ReplyStage.Proofs.Pipe.Completion
import ReplyStage.Proofs.Stage.Callers
/-!
# The program in service

After its set-up the program pumps its input through the stage and then closes the stage. What it
does is told by steps: requests go out and come to their ends, the pump takes its turns, and after
the pump one more call closes the connection. Steps may come in any order that the pump and the lock
on the connection allow, and a shutdown may come at any of them.

`Pumping` and `Ended` say what holds while the pump runs and after it; `stands_of_reaches` is what
every step keeps of that.
-/

namespace ReplyStage

/-- What shows outside of something that happened at the stage. -/
def Happening.milestone? : Happening Transport → Option Milestone
  | .sent _ sending => some (.sent sending.request)
  | .released _ transport => some (.closed transport)
  | .replied _ _ | .failed _ _ => none

/-- Drops the calls with the first numbers. -/
def Shared.drop {τ : Type} (s : Shared τ) (count : Nat) : Shared τ :=
  (List.range count).foldl (fun s id => (s.cancel id).1) s

/-- The program after its set-up: the stage with the calls on it, the pump, what has shown since, how
the pump ended, and what the program returned. -/
structure Service where
  shared : Shared Transport
  pump : Pump
  trace : List Milestone := []
  ending : Option PipeEnd := none
  result : Option (Except LaunchError Unit) := none

namespace Service

/-- The program right after its set-up. -/
def begin (ready : Ready) (input : Bytes) : Service where
  shared := .begin ready.stage Transport.headersSupported (.connected ready.transport)
  pump := .ofInput input

/-- The number of requests whose results were taken. The request in some place of the queue is the
call with the number of those before it. -/
def settled (s : Service) : Nat := s.pump.replied + s.pump.failed

/-- The number of requests that were made, and of the next call. -/
def calls (s : Service) : Nat := s.settled + s.pump.slots.length

/-- The stage takes a step, and what happened in it shows. -/
def take (s : Service) (shared : Shared Transport) : Service :=
  let happened := shared.history.drop s.shared.history.length
  { s with shared, trace := s.trace ++ happened.filterMap fun h => h.2.milestone? }

/-- The pump ends, which drops the requests it has under way. -/
def endPump (s : Service) (ending : PipeEnd) : Service :=
  let dropped := s.take (s.shared.drop s.calls)
  { dropped with trace := dropped.trace ++ [.pumped ending], ending := some ending }

/-- The pump makes a request of a line. -/
def launch (s : Service) (line : Bytes) (pump : Pump) : Service :=
  { s.take (s.shared.arrive s.calls (.process (.ofPayload line) none)).1 with pump }

/-- What a turn of the pump comes to, in which a write may fail. -/
def turned (s : Service) (fault : Option String) : Turn → Service
  | .stop dropped =>
    match fault with
    | some message => s.endPump (.unwritable message)
    | none => s.endPump (.finished dropped)
  | .unreadable malformed => s.endPump (.unreadable malformed)
  | .settled (.ok _) pump =>
    match fault with
    | some message => s.endPump (.unwritable message)
    | none => { s with pump }
  | .settled (.error _) pump => { s with pump }
  | .launched line pump => s.launch line pump
  | .passed pump => { s with pump }
  | .wait => s

variable (concurrency : Nat) (disturbed : Bool)

/-- A step. While the pump runs: one of its calls runs or comes to its end, with any response of the
transport, its result is handed over, the pump takes a turn, or reading fails. After that: a call to
close comes, runs and comes to its end, and the program returns. A shutdown and failures of reading
and writing come only where the run may be disturbed. -/
inductive Step : Service → Service → Prop
  | runs {s call} (id : Nat) (now : Duration) : s.ending = none → id < s.calls →
      s.shared.phase id = .admitted call → Step s (s.take (s.shared.run id now).1)
  | settles {s sending since} (id : Nat) (now : Duration) (response : Response) : s.ending = none →
      id < s.calls → s.shared.phase id = .underway sending since →
      Step s (s.take (s.shared.settle id now (s.shared.stage.conclude sending response).2).1)
  | lands {s slot result} (place : Nat) : s.ending = none → s.pump.slots[place]? = some slot →
      slot.result = none → s.shared.phase (s.settled + place) = .finished (.ofResult result) →
      Step s { s with pump := s.pump.complete place result }
  | turn {s} (shutdown : Bool) (fault : Option String) : s.ending = none →
      (shutdown = true ∨ fault ≠ none → disturbed = true) →
      s.pump.turn concurrency shutdown ≠ .wait →
      Step s (s.turned fault (s.pump.turn concurrency shutdown))
  | breaks {s} (malformed : Text.Utf8.Malformed) : s.ending = none → disturbed = true →
      s.pump.Reads concurrency → Step s (s.endPump (.unreadable malformed))
  | asksToClose {s ending} : s.ending = some ending → s.shared.phase s.calls = .idle →
      Step s (s.take (s.shared.arrive s.calls .close).1)
  | closes {s ending} (now : Duration) : s.ending = some ending →
      s.shared.phase s.calls = .admitted .close → Step s (s.take (s.shared.run s.calls now).1)
  | hasClosed {s ending transport} : s.ending = some ending →
      s.shared.phase s.calls = .closing transport → Step s (s.take (s.shared.endClose s.calls).1)
  | returns {s ending outcome} : s.ending = some ending →
      s.shared.phase s.calls = .finished outcome → s.result = none →
      Step s { s with result := some ending.result }

/-- The states that steps lead to from the end of the set-up. -/
def Reaches (ready : Ready) (input : Bytes) : Service → Prop :=
  Relation.ReflTransGen (Step ready.concurrency disturbed) (begin ready input)

end Service

/-! ## The pump's calls -/

/-- Whether a call in this phase is a request that holds the connection or came to a result. -/
def Phase.isRequest {τ : Type} : Phase τ → Bool
  | .admitted (.process _ _) | .underway _ _ | .finished (.record _) | .finished (.failed _) => true
  | .admitted (.connect _) | .admitted .close | .idle | .waiting _ | .closing _ => false
  | .finished .done | .finished .cancelled => false

section Request
variable {τ : Type} {p : Phase τ}

theorem Phase.awaits?_of_isRequest (h : p.isRequest = true) : p.awaits? = none := by
  cases p <;> first | rfl | cases h

theorem Phase.isRequest_ofResult (result : Except StageError Record) :
    (Phase.finished (.ofResult result) : Phase τ).isRequest = true := by
  cases result <;> rfl

theorem Phase.holds?_of_isRequest (h : p.isRequest = true) {access : Access}
    (hholds : p.holds? = some access) : access = .shared := by
  cases p with
  | admitted call => cases call <;> first | exact (Option.some.inj hholds).symm | cases h
  | underway _ _ => exact (Option.some.inj hholds).symm
  | idle | waiting _ | closing _ | finished _ => first | cases h | cases hholds

end Request

namespace Shared

variable {τ : Type} {s : Shared τ}

/-- A transport that never responds; for steps in which it is not asked. -/
def silent (_ : Nat) (_ : Sending τ) : Response := .never

/-- The end of a request does not show. -/
theorem takes_settle {s : Shared Transport} {id : Nat} {sending : Sending Transport}
    {since : Duration} (hunder : s.phase id = .underway sending since) (now : Duration)
    (result : Except StageError Record) :
    ∃ happened, Takes s id (.finished (.ofResult result)) s.connection happened
        (s.settle id now result).1 ∧
      (happened.filterMap fun h => h.2.milestone?) = [] := by
  simp only [settle, hunder]
  cases result with
  | ok record => exact ⟨_, takes_finish _ _ _, rfl⟩
  | error e => exact ⟨_, takes_finish _ _ _, rfl⟩

/-- What dropping the first calls leaves. -/
structure Dropped (s : Shared τ) (count : Nat) (s' : Shared τ) : Prop where
  inv : s'.Inv
  connection : s'.connection = s.connection
  history : s'.history = s.history
  nobody : ∀ id, (s'.phase id).awaits? = none
  finished : ∀ id < count, ∃ outcome, s'.phase id = .finished outcome
  others : ∀ id, count ≤ id → s'.phase id = s.phase id

theorem drop_succ (s : Shared τ) (count : Nat) :
    s.drop (count + 1) = ((s.drop count).cancel count).1 := by
  rw [drop, List.range_succ, List.foldl_concat]
  rfl

/-- One more call is dropped, if it has not ended. -/
theorem Dropped.cancel {s' : Shared τ} {count : Nat} (h : Dropped s count s')
    (hrequest : (s.phase count).isRequest = true) : Dropped s (count + 1) (s'.cancel count).1 := by
  have hphase : s'.phase count = s.phase count := h.others count (Nat.le_refl _)
  rw [← hphase] at hrequest
  by_cases hover : ∃ outcome, s'.phase count = .finished outcome
  · obtain ⟨outcome, hover⟩ := hover
    simp only [Shared.cancel, hover]
    refine { h with finished := fun id hid => ?_, others := fun id hid => h.others id (by omega) }
    rcases Nat.lt_succ_iff_lt_or_eq.1 hid with hid | rfl
    · exact h.finished id hid
    · exact ⟨outcome, hover⟩
  · have hend : ∀ outcome, s'.phase count ≠ .finished outcome := not_exists.1 hover
    have hidle : s'.phase count ≠ .idle := by
      intro hidle
      rw [hidle] at hrequest
      cases hrequest
    have ht := takes_cancel hend hidle
    have hstep : Step silent count s' (s'.cancel count).1 := .cancel hend hidle
    have hmoved := ht.phase_eq h.nobody rfl
    refine ⟨h.inv.step hstep, ht.connection.trans h.connection, ?_, fun id => ?_, fun id hid => ?_,
      fun id hid => ?_⟩
    · rw [ht.history, h.history, List.append_nil]
    · rw [hmoved, move]
      split
      · rfl
      · exact h.nobody id
    · rw [hmoved, move]
      split
      · exact ⟨_, rfl⟩
      · exact h.finished id (by omega)
    · rw [hmoved, move_of_ne (by omega)]
      exact h.others id (by omega)

theorem dropped (hinv : s.Inv) (hnobody : ∀ id, (s.phase id).awaits? = none) {count : Nat}
    (hrequests : ∀ id < count, (s.phase id).isRequest = true) : Dropped s count (s.drop count) := by
  induction count with
  | zero => exact ⟨hinv, rfl, rfl, hnobody, nofun, fun _ _ => rfl⟩
  | succ count ih =>
    rw [drop_succ]
    exact (ih fun id hid => hrequests id (by omega)).cancel (hrequests count (by omega))

end Shared

namespace Service

variable {concurrency : Nat} {disturbed : Bool} {ready : Ready} {s s' : Service}

/-! ## While the pump runs -/

/-- While the pump runs: the connection is open, only the pump's calls have come, each of which holds
it or came to a result, and nothing but requests has shown. -/
structure Pumping (ready : Ready) (s : Service) : Prop where
  inv : s.shared.Inv
  stage : s.shared.stage = ready.stage
  headersSupported : s.shared.headersSupported = Transport.headersSupported
  connected : s.shared.connection = .connected ready.transport
  running : s.ending = none
  unreturned : s.result = none
  requests : ∀ id < s.calls, (s.shared.phase id).isRequest = true
  idle : ∀ id, s.calls ≤ id → s.shared.phase id = .idle
  shown : ∃ requests : List Request, s.trace = requests.map .sent

theorem take_eq {id : Nat} {p : Phase Transport} {c : Connection Transport}
    {happened : List (Duration × Happening Transport)} {shared : Shared Transport}
    (h : Shared.Takes s.shared id p c happened shared) :
    s.take shared =
      { s with shared, trace := s.trace ++ happened.filterMap fun h => h.2.milestone? } := by
  rw [take, h.history, List.drop_left]

theorem take_of_history_eq {shared : Shared Transport} (h : shared.history = s.shared.history) :
    s.take shared = { s with shared } := by
  simp [take, h]

/-- The number of calls stays the same when a result is taken. -/
theorem calls_settle {line : Bytes} {result : Except StageError Record} {rest : List Slot}
    (hs : s.pump.slots = ⟨line, some result⟩ :: rest) :
    (s.pump.settle result rest).replied + (s.pump.settle result rest).failed +
      (s.pump.settle result rest).slots.length = s.calls := by
  cases result <;> simp only [Pump.settle, calls, settled, hs, List.length_cons] <;> omega

namespace Pumping

theorem begin (ready : Ready) (input : Bytes) : Pumping ready (begin ready input) where
  inv := Shared.inv_begin _ _ _
  stage := rfl
  headersSupported := rfl
  connected := rfl
  running := rfl
  unreturned := rfl
  requests := nofun
  idle _ _ := rfl
  shown := ⟨[], rfl⟩

theorem nobody (h : Pumping ready s) (id : Nat) : (s.shared.phase id).awaits? = none := by
  by_cases hid : id < s.calls
  · exact Phase.awaits?_of_isRequest (h.requests id hid)
  · rw [h.idle id (by omega)]
    rfl

/-- Whatever the pump does with its queue leaves the calls as they are. -/
theorem setPump (h : Pumping ready s) {pump : Pump}
    (hcalls : pump.replied + pump.failed + pump.slots.length = s.calls) :
    Pumping ready { s with pump } := by
  have hsame : ({ s with pump } : Service).calls = s.calls := hcalls
  exact { h with
    requests := fun id hid => h.requests id (by rwa [hsame] at hid)
    idle := fun id hid => h.idle id (by rwa [hsame] at hid) }

/-- A call of the pump that goes on as a request, and shows at most that. -/
theorem take (h : Pumping ready s) {id : Nat} {p : Phase Transport}
    {happened : List (Duration × Happening Transport)} {shared : Shared Transport}
    (hid : id < s.calls)
    (ht : Shared.Takes s.shared id p s.shared.connection happened shared) (hinv : shared.Inv)
    (hp : p.isRequest = true)
    (hshown : ∃ requests : List Request,
      (happened.filterMap fun h => h.2.milestone?) = requests.map .sent) :
    Pumping ready (s.take shared) := by
  have hphase := ht.phase_eq h.nobody (Phase.awaits?_of_isRequest hp)
  obtain ⟨requests, hrequests⟩ := h.shown
  obtain ⟨more, hmore⟩ := hshown
  rw [take_eq ht]
  exact {
    inv := hinv
    stage := ht.stage.trans h.stage
    headersSupported := ht.headersSupported.trans h.headersSupported
    connected := ht.connection.trans h.connected
    running := h.running
    unreturned := h.unreturned
    requests := fun i hi => by
      rw [show shared.phase = _ from hphase, move]
      split
      · exact hp
      · exact h.requests i hi
    idle := fun i hi => by
      have hne : i ≠ id := by
        rintro rfl
        exact absurd hid (Nat.not_lt.2 hi)
      rw [show shared.phase = _ from hphase, move_of_ne hne]
      exact h.idle i hi
    shown := ⟨requests ++ more, by rw [hrequests, hmore, List.map_append]⟩ }

/-- A call of the pump runs: it sends its request or is refused. -/
theorem runs (h : Pumping ready s) {id : Nat} {call : Call Transport} (now : Duration)
    (hid : id < s.calls) (hcall : s.shared.phase id = .admitted call) :
    Pumping ready (s.take (s.shared.run id now).1) := by
  have hstep : Shared.Step Shared.silent id s.shared (s.shared.run id now).1 := .run now hcall
  have hinv := h.inv.step hstep
  have hrequest := h.requests id hid
  rw [hcall] at hrequest
  cases call with
  | process record deadline =>
    cases hstart : s.shared.stage.start s.shared.headersSupported s.shared.connection record deadline
        now with
    | error e => exact h.take hid (Shared.takes_run_refused hcall hstart) hinv rfl ⟨[], rfl⟩
    | ok sending =>
      exact h.take hid (Shared.takes_run_sends hcall hstart) hinv rfl ⟨[sending.request], rfl⟩
  | connect opened => cases hrequest
  | close => cases hrequest

/-- A request of the pump comes to its end. -/
theorem settles (h : Pumping ready s) {id : Nat} {sending : Sending Transport} {since : Duration}
    (now : Duration) (response : Response) (hid : id < s.calls)
    (hunder : s.shared.phase id = .underway sending since) :
    Pumping ready
      (s.take (s.shared.settle id now (s.shared.stage.conclude sending response).2).1) := by
  have hstep : Shared.Step (fun _ _ => response) id s.shared
    (s.shared.settle id now (s.shared.stage.conclude sending response).2).1 := .settle now hunder
  obtain ⟨happened, ht, hnothing⟩ :=
    Shared.takes_settle hunder now (s.shared.stage.conclude sending response).2
  exact h.take hid ht (h.inv.step hstep) (Phase.isRequest_ofResult _) ⟨[], hnothing⟩

/-- A new call of the pump holds the connection at once. -/
theorem phase_launch (h : Pumping ready s) (line : Bytes) (pump : Pump) :
    (s.launch line pump).shared.phase =
      move s.shared.phase s.calls (.admitted (.process (.ofPayload line) none)) := by
  refine Shared.phase_arrive h.inv.seats h.nobody fun i held hholds => ⟨?_, rfl⟩
  by_cases hi : i < s.calls
  · exact Phase.holds?_of_isRequest (h.requests i hi) hholds
  · rw [h.idle i (by omega)] at hholds
    cases hholds

theorem trace_launch (h : Pumping ready s) (line : Bytes) (pump : Pump) :
    (s.launch line pump).trace = s.trace := by
  have ht := Shared.takes_arrive (h.idle s.calls (Nat.le_refl _)) (.process (.ofPayload line) none)
  rw [Service.launch, take_eq ht]
  exact List.append_nil _

theorem launch (h : Pumping ready s) (line : Bytes) {pump : Pump}
    (hcalls : pump.replied + pump.failed + pump.slots.length = s.calls + 1) :
    Pumping ready (s.launch line pump) := by
  have hidle := h.idle s.calls (Nat.le_refl _)
  have hphase := h.phase_launch line pump
  have ht := Shared.takes_arrive hidle (.process (.ofPayload line) none)
  have hstep : Shared.Step Shared.silent s.calls s.shared
    (s.shared.arrive s.calls (.process (.ofPayload line) none)).1 := .arrive _ hidle
  have hnew : (s.launch line pump).calls = s.calls + 1 := hcalls
  exact {
    inv := h.inv.step hstep
    stage := ht.stage.trans h.stage
    headersSupported := ht.headersSupported.trans h.headersSupported
    connected := ht.connection.trans h.connected
    running := h.running
    unreturned := h.unreturned
    requests := fun i hi => by
      rw [hphase, move]
      split
      · rfl
      · exact h.requests i (by omega)
    idle := fun i hi => by
      rw [hphase, move_of_ne (by omega)]
      exact h.idle i (by omega)
    shown := by
      rw [h.trace_launch]
      exact h.shown }

end Pumping

/-! ## After the pump -/

/-- How far the end of the connection is, after the pump. -/
inductive Closing (transport : Transport) (ending : PipeEnd) (requests : List Request) (s : Service) :
    Prop
  | unasked : s.shared.phase s.calls = .idle → s.shared.connection = .connected transport →
      s.trace = requests.map .sent ++ [.pumped ending] → s.result = none →
      Closing transport ending requests s
  | asked : s.shared.phase s.calls = .admitted .close → s.shared.connection = .connected transport →
      s.trace = requests.map .sent ++ [.pumped ending] → s.result = none →
      Closing transport ending requests s
  | begun : s.shared.phase s.calls = .closing transport →
      s.trace = requests.map .sent ++ [.pumped ending, .closed transport] → s.result = none →
      Closing transport ending requests s
  | completed : s.shared.phase s.calls = .finished .done →
      s.trace = requests.map .sent ++ [.pumped ending, .closed transport] →
      (s.result = none ∨ s.result = some ending.result) → Closing transport ending requests s

/-- After the pump: its calls have ended, and one more call closes the connection. -/
structure Ended (ready : Ready) (ending : PipeEnd) (requests : List Request) (s : Service) : Prop where
  inv : s.shared.Inv
  ended : s.ending = some ending
  finished : ∀ id < s.calls, ∃ outcome, s.shared.phase id = .finished outcome
  idle : ∀ id, s.calls < id → s.shared.phase id = .idle
  closing : Closing ready.transport ending requests s

/-- The end of the pump drops its calls and leaves the connection open. -/
theorem Pumping.ended_endPump (h : Pumping ready s) {requests : List Request}
    (hshown : s.trace = requests.map .sent) (ending : PipeEnd) :
    Ended ready ending requests (s.endPump ending) := by
  have hdropped := Shared.dropped h.inv h.nobody h.requests
  rw [Service.endPump, take_of_history_eq hdropped.history]
  refine ⟨hdropped.inv, rfl, hdropped.finished, fun id hid => ?_, .unasked ?_ ?_ ?_ h.unreturned⟩
  · exact (hdropped.others id (Nat.le_of_lt hid)).trans (h.idle id (Nat.le_of_lt hid))
  · exact (hdropped.others s.calls (Nat.le_refl _)).trans (h.idle s.calls (Nat.le_refl _))
  · exact hdropped.connection.trans h.connected
  · exact congrArg (· ++ [Milestone.pumped ending]) hshown

/-- Where the program stands. -/
def Stands (ready : Ready) (s : Service) : Prop :=
  Pumping ready s ∨ ∃ ending requests, Ended ready ending requests s

theorem Pumping.endPump (h : Pumping ready s) (ending : PipeEnd) :
    Stands ready (s.endPump ending) := by
  obtain ⟨requests, hshown⟩ := h.shown
  exact .inr ⟨ending, requests, h.ended_endPump hshown ending⟩

/-- A turn of the pump leaves it running or ends it. -/
theorem Pumping.turned (h : Pumping ready s) (shutdown : Bool) (fault : Option String) :
    Stands ready (s.turned fault (s.pump.turn concurrency shutdown)) := by
  have ht := s.pump.turned concurrency shutdown
  generalize s.pump.turn concurrency shutdown = t at ht ⊢
  cases ht with
  | stop _ => cases fault <;> exact h.endPump _
  | unreadable _ _ _ => exact h.endPump _
  | ended _ _ => exact .inl (h.setPump rfl)
  | blank _ _ _ => exact .inl (h.setPump rfl)
  | launched _ _ _ =>
    refine .inl (h.launch _ ?_)
    simp only [List.length_append, List.length_singleton, calls, settled]
    omega
  | @settled line result rest hs =>
    have hcalls := calls_settle hs
    cases result with
    | error e => exact .inl (h.setPump hcalls)
    | ok record =>
      cases fault with
      | none => exact .inl (h.setPump hcalls)
      | some message => exact h.endPump _
  | wait _ _ _ => exact .inl h

namespace Ended

variable {ending : PipeEnd} {requests : List Request}

/-- The other calls neither wait for the connection nor hold it. -/
theorem quiet (h : Ended ready ending requests s) {id : Nat} (hid : id ≠ s.calls) :
    (s.shared.phase id).awaits? = none ∧ (s.shared.phase id).holds? = none := by
  rcases Nat.lt_or_gt_of_ne hid with hlt | hgt
  · obtain ⟨outcome, hover⟩ := h.finished id hlt
    rw [hover]
    exact ⟨rfl, rfl⟩
  · rw [h.idle id hgt]
    exact ⟨rfl, rfl⟩

/-- Nobody waits if the last call does not. -/
theorem nobody (h : Ended ready ending requests s) (hlast : (s.shared.phase s.calls).awaits? = none)
    (id : Nat) : (s.shared.phase id).awaits? = none := by
  by_cases hid : id = s.calls
  · rw [hid, hlast]
  · exact (h.quiet hid).1

/-- The last call goes on while the others stay as they are. -/
theorem take (h : Ended ready ending requests s) {p : Phase Transport} {shared : Shared Transport}
    (hinv : shared.Inv) (hphase : shared.phase = move s.shared.phase s.calls p)
    (hclosing : Closing ready.transport ending requests (s.take shared)) :
    Ended ready ending requests (s.take shared) where
  inv := hinv
  ended := h.ended
  finished id hid := by
    have hne : id ≠ s.calls := Nat.ne_of_lt hid
    show ∃ outcome, shared.phase id = .finished outcome
    rw [hphase, move_of_ne hne]
    exact h.finished id hid
  idle id hid := by
    have hne : id ≠ s.calls := Nat.ne_of_gt hid
    show shared.phase id = .idle
    rw [hphase, move_of_ne hne]
    exact h.idle id hid
  closing := hclosing

/-- The call to close holds the connection at once, since all others have ended. -/
theorem asksToClose (h : Ended ready ending requests s) (hidle : s.shared.phase s.calls = .idle) :
    Ended ready ending requests (s.take (s.shared.arrive s.calls .close).1) := by
  have hnobody := h.nobody (by rw [hidle]; rfl)
  have hphase : (s.shared.arrive s.calls .close).1.phase =
      move s.shared.phase s.calls (.admitted .close) := by
    refine Shared.phase_arrive h.inv.seats hnobody fun i held hholds => ?_
    by_cases hi : i = s.calls
    · rw [hi, hidle] at hholds
      cases hholds
    · rw [(h.quiet hi).2] at hholds
      cases hholds
  have ht := Shared.takes_arrive hidle .close
  have hstep : Shared.Step Shared.silent s.calls s.shared (s.shared.arrive s.calls .close).1 :=
    .arrive .close hidle
  refine h.take (h.inv.step hstep) hphase ?_
  rw [take_of_history_eq (by rw [ht.history, List.append_nil])]
  cases h.closing with
  | unasked _ hconnected htrace hresult =>
    refine .asked ?_ (ht.connection.trans hconnected) htrace hresult
    show (s.shared.arrive s.calls .close).1.phase s.calls = _
    rw [hphase, move_self]
  | asked hphase _ _ _ | begun hphase _ _ | completed hphase _ _ =>
    rw [hidle] at hphase
    cases hphase

/-- The call to close begins to close the transport. -/
theorem closes (h : Ended ready ending requests s) (now : Duration)
    (hcall : s.shared.phase s.calls = .admitted .close) :
    Ended ready ending requests (s.take (s.shared.run s.calls now).1) := by
  have hstep : Shared.Step Shared.silent s.calls s.shared (s.shared.run s.calls now).1 :=
    .run now hcall
  cases h.closing with
  | asked _ hconnected htrace hresult =>
    have ht : Shared.Takes s.shared s.calls (.closing ready.transport) .closed
        [(now, .released s.calls ready.transport)] (s.shared.run s.calls now).1 :=
      Shared.takes_run_close hcall hconnected
    have hphase := ht.phase_eq (h.nobody (by rw [hcall]; rfl)) rfl
    refine h.take (h.inv.step hstep) hphase ?_
    rw [take_eq ht]
    refine .begun (ht.phase_self rfl) ?_ hresult
    simp [htrace, Happening.milestone?]
  | unasked hphase _ _ _ | begun hphase _ _ | completed hphase _ _ =>
    rw [hcall] at hphase
    cases hphase

/-- The transport is closed. -/
theorem hasClosed (h : Ended ready ending requests s) {transport : Transport}
    (hclosing : s.shared.phase s.calls = .closing transport) :
    Ended ready ending requests (s.take (s.shared.endClose s.calls).1) := by
  have hstep : Shared.Step Shared.silent s.calls s.shared (s.shared.endClose s.calls).1 :=
    .endClose hclosing
  have ht : Shared.Takes s.shared s.calls (.finished .done) s.shared.connection []
      (s.shared.endClose s.calls).1 := by
    simp only [Shared.endClose, hclosing]
    exact Shared.takes_finish_silent _ _
  have hphase := ht.phase_eq (h.nobody (by rw [hclosing]; rfl)) rfl
  refine h.take (h.inv.step hstep) hphase ?_
  rw [take_of_history_eq (by rw [ht.history, List.append_nil])]
  cases h.closing with
  | begun _ htrace hresult =>
    exact .completed (ht.phase_self rfl) htrace (.inl hresult)
  | unasked hphase _ _ _ | asked hphase _ _ _ | completed hphase _ _ =>
    rw [hclosing] at hphase
    cases hphase

/-- The program returns what the pump came to. -/
theorem returns (h : Ended ready ending requests s) {outcome : Outcome}
    (hover : s.shared.phase s.calls = .finished outcome) :
    Ended ready ending requests { s with result := some ending.result } := by
  refine { h with closing := ?_ }
  cases h.closing with
  | completed hphase htrace _ => exact .completed hphase htrace (.inr rfl)
  | unasked hphase _ _ _ | asked hphase _ _ _ | begun hphase _ _ =>
    rw [hover] at hphase
    cases hphase

end Ended

/-! ## Every step -/

theorem Pumping.step (h : Pumping ready s) (hstep : Step concurrency disturbed s s') :
    Stands ready s' := by
  cases hstep with
  | runs id now _ hid hcall => exact .inl (h.runs now hid hcall)
  | settles id now response _ hid hunder => exact .inl (h.settles now response hid hunder)
  | lands place _ _ _ _ =>
    refine .inl (h.setPump ?_)
    simp [Pump.complete, calls, settled]
  | turn shutdown fault _ _ _ => exact h.turned shutdown fault
  | breaks malformed _ _ _ => exact h.endPump _
  | asksToClose hended _ | closes _ hended _ | hasClosed hended _ | returns hended _ _ =>
    rw [h.running] at hended
    cases hended

theorem Ended.step {ending : PipeEnd} {requests : List Request} (h : Ended ready ending requests s)
    (hstep : Step concurrency disturbed s s') : Ended ready ending requests s' := by
  cases hstep with
  | asksToClose _ hidle => exact h.asksToClose hidle
  | closes now _ hcall => exact h.closes now hcall
  | hasClosed _ hclosing => exact h.hasClosed hclosing
  | returns hended hover _ =>
    rw [h.ended] at hended
    cases hended
    exact h.returns hover
  | runs _ _ hrunning _ _ | settles _ _ _ hrunning _ _ | lands _ hrunning _ _ _
  | turn _ _ hrunning _ _ | breaks _ hrunning _ _ =>
    rw [h.ended] at hrunning
    cases hrunning

/-- A shutdown may come at any moment. It drops the requests under way. -/
theorem step_shutdown (hrunning : s.ending = none) :
    Step concurrency true s (s.endPump (.finished s.pump.slots.length)) := by
  have hturn : Step concurrency true s (s.turned none (s.pump.turn concurrency true)) := by
    refine .turn true none hrunning (fun _ => rfl) fun hwait => ?_
    have ht := s.pump.turned concurrency true
    rw [hwait] at ht
    cases ht
  have ht := s.pump.turned concurrency true
  generalize s.pump.turn concurrency true = t at ht hturn
  cases ht with
  | stop _ => exact hturn

theorem stands_of_reaches {input : Bytes} (h : Reaches disturbed ready input s) :
    Stands ready s := by
  induction h with
  | refl => exact .inl (.begin ready input)
  | tail _ hstep ih =>
    rcases ih with ih | ⟨ending, requests, ih⟩
    · exact ih.step hstep
    · exact .inr ⟨ending, requests, ih.step hstep⟩

end Service

end ReplyStage
