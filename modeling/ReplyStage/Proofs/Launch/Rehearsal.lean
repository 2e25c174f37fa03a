import ReplyStage.Proofs.Launch.Returning
import ReplyStage.Proofs.Pipe.Clock
/-!
# The program that runs

The program runs its pump with a clock. It takes no step that the program in service cannot take:
what a run of it shows and returns is what some run in service shows and returns.
-/

namespace ReplyStage

open Launch

variable {host : Host} {ready : Ready}

/-- A call has come to a result, or will with some response of the transport. -/
def Shared.ComesTo (s : Shared Transport) (id : Nat) (result : Except StageError Record) : Prop :=
  s.phase id = .finished (.ofResult result) ∨ ∃ sending since response,
    s.phase id = .underway sending since ∧ (s.stage.conclude sending response).2 = result

theorem Shared.ComesTo.of_eq {s s' : Shared Transport} {id : Nat} {result : Except StageError Record}
    (h : s.ComesTo id result) (hstage : s'.stage = s.stage) (hphase : s'.phase id = s.phase id) :
    s'.ComesTo id result := by
  unfold ComesTo
  rw [hstage, hphase]
  exact h

namespace Service

/-- A rehearsal of the pump stands where the program in service stands. -/
structure Follows (host : Host) (ready : Ready) (r : PipeRun) (s : Service) : Prop where
  reaches : Reaches true ready host.input s
  pumping : Pumping ready s
  same : r.setting = pumpSetting host ready
  pump : r.pump = s.pump
  shown : s.trace = (r.seen.map SentAt.request).map .sent
  flights : r.flights.length = s.pump.slots.length
  pending : ∀ place f, r.flights[place]? = some (some f) →
    (∃ slot, s.pump.slots[place]? = some slot ∧ slot.result = none) ∧
      s.shared.ComesTo (s.settled + place) f.result

/-- What a step of a rehearsal can come to. -/
def GoesOn (host : Host) (ready : Ready) : PipeRun × Option PipeEnd → Prop
  | (r, none) => ∃ s, Follows host ready r s
  | (r, some ending) => ending = .unfinished ∨
      ∃ s, Reaches true ready host.input s ∧ Ended ready ending (r.seen.map SentAt.request) s

variable {r : PipeRun} {s s' : Service}

theorem follows_begin (host : Host) (ready : Ready) :
    Follows host ready (PipeRun.begin (pumpSetting host ready) host.input)
      (begin ready host.input) where
  reaches := .refl
  pumping := .begin ready host.input
  same := rfl
  pump := rfl
  shown := rfl
  flights := rfl
  pending := nofun

/-! ## One step -/

/-- A request whose flight has ended comes to its result. -/
theorem Follows.settle {place : Nat} {f : Flight} (h : Follows host ready r s)
    (hplace : r.flights[place]? = some (some f)) :
    ∃ s', Follows host ready r s' ∧ s'.pump = s.pump ∧
      s'.shared.phase (s.settled + place) = .finished (.ofResult f.result) := by
  obtain ⟨⟨slot, hslot, hnone⟩, hover | ⟨sending, since, response, hunder, hresult⟩⟩ :=
    h.pending place f hplace
  · exact ⟨s, h, rfl, hover⟩
  · have hid : s.settled + place < s.calls :=
      Nat.add_lt_add_left (List.getElem?_eq_some_iff.1 hslot).1 _
    obtain ⟨happened, ht, hnothing⟩ := Shared.takes_settle hunder .zero f.result
    have hphase : (s.shared.settle (s.settled + place) .zero f.result).1.phase = _ :=
      ht.phase_eq h.pumping.nobody (Phase.awaits?_of_isRequest (Phase.isRequest_ofResult _))
    have hstep : Step ready.concurrency true s (s.take (s.shared.settle (s.settled + place) .zero
        (s.shared.stage.conclude sending response).2).1) :=
      .settles _ .zero response h.pumping.running hid hunder
    have hpumping := h.pumping.settles .zero response hid hunder
    rw [hresult] at hstep hpumping
    have hself : (s.take (s.shared.settle (s.settled + place) .zero f.result).1).shared.phase
        (s.settled + place) = .finished (.ofResult f.result) := by
      show (s.shared.settle _ _ _).1.phase _ = _
      rw [hphase, move_self]
    refine ⟨_, { h with
      reaches := h.reaches.tail hstep
      pumping := hpumping
      shown := ?_
      pending := fun place' f' hplace' => ?_ }, rfl, hself⟩
    · rw [take_eq ht, hnothing, List.append_nil]
      exact h.shown
    · obtain ⟨hwaits, hcomes⟩ := h.pending place' f' hplace'
      refine ⟨hwaits, ?_⟩
      by_cases heq : place' = place
      · subst heq
        rw [hplace] at hplace'
        cases hplace'
        exact .inl hself
      · refine hcomes.of_eq ht.stage ?_
        show (s.shared.settle _ _ _).1.phase _ = _
        rw [hphase, move_of_ne (by omega)]

/-- A result that is handed over is handed over in service. -/
theorem Follows.complete {place : Nat} {f : Flight} (h : Follows host ready r s)
    (hplace : r.flights[place]? = some (some f)) (metrics : Metrics) :
    ∃ s', Follows host ready
      { r with pump := r.pump.complete place f.result, flights := r.flights.set place none, metrics }
      s' := by
  obtain ⟨s', h', hpump, hover⟩ := h.settle hplace
  have hsettled : s'.settled = s.settled := by simp only [settled, hpump]
  rw [← hsettled] at hover
  obtain ⟨⟨slot, hslot, hnone⟩, -⟩ := h'.pending place f hplace
  have hstep : Step ready.concurrency true s' { s' with pump := s'.pump.complete place f.result } :=
    .lands place h'.pumping.running hslot hnone hover
  refine ⟨_, { h' with
    reaches := h'.reaches.tail hstep
    pumping := h'.pumping.setPump (by simp [Pump.complete, calls, Service.settled])
    pump := by rw [h'.pump]
    flights := ?_
    pending := fun place' f' hplace' => ?_ }⟩
  · simp only [Pump.complete, List.length_set, List.length_modify]
    exact h'.flights
  · by_cases heq : place = place'
    · subst heq
      simp [List.getElem?_set_self', hplace] at hplace'
    · rw [List.getElem?_set_ne heq] at hplace'
      obtain ⟨⟨slot', hslot', hnone'⟩, hcomes⟩ := h'.pending place' f' hplace'
      exact ⟨⟨slot', (List.getElem?_modify_ne _ _ heq).trans hslot', hnone'⟩, hcomes⟩

theorem Follows.land (h : Follows host ready r s) : ∃ s', Follows host ready r.land s' := by
  refine PipeRun.landFrom_induction (fun r => ∃ s, Follows host ready r s) ?_ ⟨s, h⟩ rfl
  rintro r place f metrics ⟨s, h⟩ hplace
  exact h.complete hplace metrics

/-- The oldest result is taken. -/
theorem Follows.takeOldest {line : Bytes} {result : Except StageError Record} {rest : List Slot}
    (h : Follows host ready r s) (hs : s.pump.slots = ⟨line, some result⟩ :: rest)
    (hstep : Step ready.concurrency true s { s with pump := s.pump.settle result rest })
    (failures : List StageError) :
    Follows host ready
      { r with pump := s.pump.settle result rest, flights := r.flights.drop 1, failures }
      { s with pump := s.pump.settle result rest } := by
  have hsettled : ({ s with pump := s.pump.settle result rest } : Service).settled = s.settled + 1 := by
    cases result <;> simp only [settled, Pump.settle] <;> omega
  exact { h with
    reaches := h.reaches.tail hstep
    pumping := h.pumping.setPump (calls_settle hs)
    pump := rfl
    flights := by
      rw [PumpLoop.slots_settle, List.length_drop, h.flights, hs]
      rfl
    pending := fun place f hplace => by
      rw [List.getElem?_drop, Nat.add_comm] at hplace
      obtain ⟨⟨slot, hslot, hnone⟩, hcomes⟩ := h.pending (place + 1) f hplace
      rw [hs] at hslot
      rw [hsettled, Nat.add_assoc, Nat.add_comm 1 place, PumpLoop.slots_settle]
      exact ⟨⟨slot, hslot, hnone⟩, hcomes⟩ }

/-- A call of the pump that runs sends what its record comes to, and comes to that. -/
theorem Pumping.comesTo_run (h : Pumping ready s) {record : Record} {id : Nat}
    (hcall : s.shared.phase id = .admitted (.process record none)) (now : Duration)
    (respond : Sending Transport → Response) :
    let p := ready.stage.process Transport.headersSupported respond (.connected ready.transport)
      record none now
    let s' := s.take (s.shared.run id now).1
    s'.shared.ComesTo id p.result ∧ (∀ i, i ≠ id → s'.shared.phase i = s.shared.phase i) ∧
      s'.shared.stage = s.shared.stage ∧
      s'.trace = s.trace ++ (p.sent.map fun sending => Milestone.sent sending.request).toList := by
  intro p s'
  cases hstart : ready.stage.start Transport.headersSupported (.connected ready.transport) record
      none now with
  | error e =>
    have hp : p = ⟨none, .error e, 0⟩ := Stage.process_of_start_error hstart
    rw [← h.stage, ← h.headersSupported, ← h.connected] at hstart
    have ht := Shared.takes_run_refused hcall hstart
    have hphase := ht.phase_eq h.nobody rfl
    rw [hp]
    refine ⟨.inl ((ht.phase_self rfl).trans rfl), fun i hi => ?_, ht.stage, ?_⟩
    · exact (congrFun hphase i).trans (move_of_ne hi)
    · simp only [s', take_eq ht]
      rfl
  | ok sending =>
    have hp : p = ⟨some sending, (ready.stage.conclude sending (respond sending)).2, _⟩ :=
      Stage.process_of_start_ok hstart
    rw [← h.stage, ← h.headersSupported, ← h.connected] at hstart
    have ht := Shared.takes_run_sends hcall hstart
    have hphase := ht.phase_eq h.nobody rfl
    rw [hp]
    refine ⟨.inr ⟨sending, now, respond sending, ht.phase_self rfl, ?_⟩, fun i hi => ?_, ht.stage, ?_⟩
    · rw [show s'.shared.stage = ready.stage from ht.stage.trans h.stage]
    · exact (congrFun hphase i).trans (move_of_ne hi)
    · simp only [s', take_eq ht]
      rfl

/-- A new request goes out at once. -/
theorem Follows.launch {content : Bytes} {pump : Pump} (h : Follows host ready r s)
    (hslots : pump.slots = s.pump.slots ++ [{ line := content }])
    (hsettled : pump.replied + pump.failed = s.settled)
    (hstep : Step ready.concurrency true s (s.launch content pump)) :
    ∃ s', Follows host ready (r.launch content pump) s' := by
  have hcalls : pump.replied + pump.failed + pump.slots.length = s.calls + 1 := by
    rw [hsettled, hslots, List.length_append, calls]
    rfl
  have hpumping := h.pumping.launch content hcalls
  have hphase := h.pumping.phase_launch content pump
  have hcall : (s.launch content pump).shared.phase s.calls =
      .admitted (.process (.ofPayload content) none) := by rw [hphase, move_self]
  have hnew : (s.launch content pump).calls = s.calls + 1 := hcalls
  have hid : s.calls < (s.launch content pump).calls := by omega
  obtain ⟨hcomes, hothers, hstage, htrace⟩ := hpumping.comesTo_run hcall (.ofMillis r.now)
    fun sending => host.respond r.seen.length sending.request
  have hruns : Step ready.concurrency true (s.launch content pump)
      ((s.launch content pump).take ((s.launch content pump).shared.run s.calls (.ofMillis r.now)).1) :=
    .runs _ _ hpumping.running hid hcall
  -- what the rehearsal does with the line, in the same terms
  have hprocess : r.setting.stage.process Transport.headersSupported
      (fun sending => r.setting.respond r.seen.length sending.request) r.setting.connection
      (.ofPayload content) none (.ofMillis r.now) =
    ready.stage.process Transport.headersSupported
      (fun sending => host.respond r.seen.length sending.request) (.connected ready.transport)
      (.ofPayload content) none (.ofMillis r.now) := by rw [h.same]; rfl
  generalize ready.stage.process Transport.headersSupported
    (fun sending => host.respond r.seen.length sending.request) (.connected ready.transport)
    (.ofPayload content) none (.ofMillis r.now) = p at hcomes htrace hprocess
  have hflights : (r.launch content pump).flights =
      r.flights ++ [some ⟨r.now + p.millis, p.millis, p.result⟩] := by
    rw [PipeRun.launch, hprocess]
  have hseen : (r.launch content pump).seen.map SentAt.request =
      r.seen.map SentAt.request ++ (p.sent.map Sending.request).toList := by
    rw [PipeRun.launch, hprocess]
    cases p.sent <;> simp
  refine ⟨_, {
    reaches := (h.reaches.tail hstep).tail hruns
    pumping := hpumping.runs _ hid hcall
    same := h.same
    pump := rfl
    shown := ?_
    flights := ?_
    pending := fun place f hplace => ?_ }⟩
  · rw [htrace, h.pumping.trace_launch, h.shown, hseen, List.map_append]
    cases p.sent <;> rfl
  · rw [hflights, List.length_append, h.flights]
    show _ = pump.slots.length
    rw [hslots, List.length_append]
    rfl
  · show (∃ slot, pump.slots[place]? = some slot ∧ _) ∧
      Shared.ComesTo _ (pump.replied + pump.failed + place) f.result
    rw [hsettled, hslots]
    rw [hflights] at hplace
    rcases getElem?_concat_eq_some hplace with ⟨hlt, hplace⟩ | ⟨rfl, hnew⟩
    · obtain ⟨⟨slot, hslot, hnone⟩, hold⟩ := h.pending place f hplace
      rw [h.flights] at hlt
      have hne : s.settled + place ≠ s.calls := by
        simp only [calls]
        omega
      refine ⟨⟨slot, (List.getElem?_append_left hlt).trans hslot, hnone⟩, hold.of_eq ?_ ?_⟩
      · rw [hstage, hpumping.stage, h.pumping.stage]
      · rw [hothers _ hne, hphase, move_of_ne hne]
    · cases hnew
      refine ⟨⟨{ line := content }, ?_, rfl⟩, ?_⟩
      · rw [h.flights, List.getElem?_concat_length]
      · rw [h.flights]
        exact hcomes

/-- A step of a rehearsal is a turn of the pump in service after the requests that have ended, or
none at all while the clock moves. -/
theorem Follows.step (h : Follows host ready r s) : GoesOn host ready r.step := by
  obtain ⟨s, h⟩ : ∃ s', Follows host ready (if r.isShutDown then r else r.land) s' := by
    split
    · exact ⟨s, h⟩
    · exact h.land
  unfold PipeRun.step
  generalize (if r.isShutDown then r else r.land) = r at h ⊢
  have hconcurrency : r.setting.concurrency = ready.concurrency := by rw [h.same]; rfl
  have ht := s.pump.turned ready.concurrency r.isShutDown
  have hstep : ∀ fault, s.pump.turn ready.concurrency r.isShutDown ≠ .wait →
      Step ready.concurrency true s (s.turned fault (s.pump.turn ready.concurrency r.isShutDown)) :=
    fun fault hne => .turn r.isShutDown fault h.pumping.running (fun _ => rfl) hne
  dsimp only
  rw [hconcurrency, h.pump]
  generalize s.pump.turn ready.concurrency r.isShutDown = t at ht hstep ⊢
  generalize r.isShutDown = shutdown at ht
  generalize r.setting.writeFault? s.pump.replied = fault
  -- the pump ends, and what has been shown by then are the requests of the rehearsal
  have ends : ∀ ending, Step ready.concurrency true s (s.endPump ending) →
      GoesOn host ready (r, some ending) := fun ending hends =>
    .inr ⟨_, h.reaches.tail hends, h.pumping.ended_endPump h.shown ending⟩
  cases ht with
  | stop _ =>
    cases fault with
    | none => exact ends _ (hstep none nofun)
    | some message => exact ends _ (hstep (some message) nofun)
  | unreadable _ _ _ => exact ends _ (hstep none nofun)
  | @settled line result rest hs =>
    cases result with
    | error e => exact ⟨_, h.takeOldest hs (hstep none nofun) _⟩
    | ok record =>
      cases fault with
      | none => exact ⟨_, h.takeOldest hs (hstep none nofun) r.failures⟩
      | some message => exact ends _ (hstep (some message) nofun)
  | ended _ _ =>
    exact ⟨_, { h with
      reaches := h.reaches.tail (hstep none nofun), pumping := h.pumping.setPump rfl, pump := rfl }⟩
  | blank _ _ _ =>
    exact ⟨_, { h with
      reaches := h.reaches.tail (hstep none nofun), pumping := h.pumping.setPump rfl, pump := rfl }⟩
  | launched _ _ _ => exact h.launch rfl rfl (hstep none nofun)
  | wait _ _ _ =>
    dsimp only
    split
    · exact ⟨s, { h with pump := rfl }⟩
    · exact .inl rfl

/-! ## Whole rehearsals -/

theorem Follows.steps (h : Follows host ready r s) (fuel : Nat) :
    let (r', ending) := PipeRun.steps fuel r
    GoesOn host ready (r', some ending) := by
  induction fuel generalizing r s with
  | zero => exact .inl rfl
  | succ fuel ih =>
    have hgoes := h.step
    unfold PipeRun.steps
    generalize r.step = next at hgoes
    obtain ⟨r', ending⟩ := next
    cases ending with
    | none =>
      obtain ⟨s', h'⟩ := hgoes
      exact ih h'
    | some ending => exact hgoes

end Service

namespace Launch

theorem pumpAndClose_eq (host : Host) (ready : Ready) (before : LaunchReport) :
    let (r, ending) := (PipeRun.begin (pumpSetting host ready) host.input).run
    (pumpAndClose host ready before).milestones = before.milestones ++
        ((r.seen.map SentAt.request).map .sent ++ [.pumped ending, .closed ready.transport]) ∧
      (pumpAndClose host ready before).result = ending.result := by
  unfold pumpAndClose
  generalize (PipeRun.begin (pumpSetting host ready) host.input).run = finished
  obtain ⟨r, ending⟩ := finished
  have hmilestones : before.milestones ++ r.seen.map (fun sent => .sent sent.request) ++
      [.pumped ending, .closed ready.transport] = before.milestones ++
        ((r.seen.map SentAt.request).map .sent ++ [.pumped ending, .closed ready.transport]) := by
    rw [List.map_map, List.append_assoc]
    rfl
  dsimp only
  cases hresult : ending.result <;> exact ⟨hmilestones, rfl⟩

/-- What the program pumps and closes, it pumps and closes in service. -/
theorem exists_service (host : Host) {ready : Ready} (before : LaunchReport)
    (hc : 1 ≤ ready.concurrency) :
    ∃ s, Service.Reaches true ready host.input s ∧
      (pumpAndClose host ready before).milestones = before.milestones ++ s.trace ∧
      s.result = some (pumpAndClose host ready before).result := by
  have hgoes := (Service.follows_begin host ready).steps
    (4 * (PipeRun.begin (pumpSetting host ready) host.input).pump.unread.length + 8)
  have hends := PipeRun.run_ne_unfinished (pumpSetting host ready) host.input hc
  have hshown := pumpAndClose_eq host ready before
  rw [PipeRun.run] at hends hshown
  generalize PipeRun.steps _ _ = finished at hgoes hends hshown
  obtain ⟨r, ending⟩ := finished
  rcases hgoes with hunfinished | ⟨s, hreach, hended⟩
  · exact absurd hunfinished hends
  · obtain ⟨last, hlast, htrace, hresult⟩ := hended.exists_return
    exact ⟨last, hreach.trans hlast, by rw [htrace, hshown.1], by rw [hresult, hshown.2]⟩

end Launch
end ReplyStage
