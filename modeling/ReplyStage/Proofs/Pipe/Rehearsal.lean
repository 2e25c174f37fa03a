import ReplyStage.Proofs.Pipe.Clock
/-!
# Rehearsals are runs

A rehearsal moves the pump with a clock and with answers from a script. It takes no step that a run
of the loop cannot take, with the results that processing the records came to: what holds of every
run of the loop holds of every rehearsal.
-/

namespace ReplyStage

namespace PumpLoop

variable {concurrency : Nat} {answer answer' : Nat → Except StageError Record}
  {mayBreakOff : Bool} {input : Bytes} {l : PumpLoop}

theorem Step.requests_le {l' : PumpLoop} (hstep : Step concurrency answer mayBreakOff l l') :
    l.requests.length ≤ l'.requests.length := by
  cases hstep with
  | complete _ _ _ _ => exact Nat.le_refl _
  | breaks _ _ _ _ => exact Nat.le_refl _
  | turn shutdown _ _ _ =>
    have ht := l.pump.turned concurrency shutdown
    generalize l.pump.turn concurrency shutdown = t at ht ⊢
    cases ht with
    | settled _ => exact Nat.le_of_eq (by rw [requests_take_settled])
    | launched _ _ _ =>
      simp only [take, List.length_append]
      exact Nat.le_add_right _ _
    | stop _ => exact Nat.le_refl _
    | ended _ _ => exact Nat.le_refl _
    | unreadable _ _ _ => exact Nat.le_refl _
    | blank _ _ _ => exact Nat.le_refl _
    | wait _ _ _ => exact Nat.le_refl _

/-- A run depends only on the results of the requests that it made. -/
theorem Reaches.congr (h : Reaches concurrency answer mayBreakOff input l)
    (hagree : ∀ i < l.requests.length, answer' i = answer i) :
    Reaches concurrency answer' mayBreakOff input l := by
  induction h with
  | refl => exact .refl
  | @tail l₁ l₂ hreach hstep ih =>
    have hle := hstep.requests_le
    refine (ih fun i hi => hagree i (by omega)).tail ?_
    cases hstep with
    | complete place hrun hs hnone =>
      have hlen := (inv_of_reaches hreach).length_slots
      obtain ⟨hlt, -⟩ := List.getElem?_eq_some_iff.mp hs
      have hplace : answer' (l₁.settled + place) = answer (l₁.settled + place) :=
        hagree _ (show l₁.settled + place < l₁.requests.length by omega)
      rw [← hplace]
      exact .complete place hrun hs hnone
    | turn shutdown hrun hbreak hne => exact .turn shutdown hrun hbreak hne
    | breaks fault hrun hbreak hreads => exact .breaks fault hrun hbreak hreads

end PumpLoop

namespace PipeRun

open PumpLoop

/-- What processing a record came to, at some moment and after some other requests. -/
def ResultOf (setting : PipeSetting) (record : Record) (result : Except StageError Record) : Prop :=
  ∃ sent now, result = (setting.stage.process Transport.headersSupported
    (fun sending => setting.respond sent sending.request) setting.connection record none
    (.ofMillis now)).result

/-- A rehearsal stands where a run of the loop stands, and its requests under way will come to the
results that the run assigns to them. -/
structure Follows (setting : PipeSetting) (input : Bytes) (answer : Nat → Except StageError Record)
    (r : PipeRun) (l : PumpLoop) : Prop where
  reaches : Reaches setting.concurrency answer setting.shutdown.isSome input l
  running : l.ending = none
  same : r.setting = setting
  pump : r.pump = l.pump
  failures : r.failures = l.failures
  results : ∀ i record, l.requests[i]? = some record → ResultOf setting record (answer i)
  flights : r.flights.length = l.pump.slots.length
  pending : ∀ place f, r.flights[place]? = some (some f) → f.result = answer (l.settled + place) ∧
    ∃ slot, l.pump.slots[place]? = some slot ∧ slot.result = none

/-- A rehearsal has ended as a run of the loop does. -/
def EndsAs (setting : PipeSetting) (input : Bytes) (r : PipeRun) (ending : PipeEnd) : Prop :=
  ∃ answer l, Reaches setting.concurrency answer setting.shutdown.isSome input l ∧
    (∀ i record, l.requests[i]? = some record → ResultOf setting record (answer i)) ∧
    r.pump = l.pump ∧ r.failures = l.failures ∧
    (ending ≠ .unfinished → l.ending = some ending)

/-- What a step of a rehearsal can come to. -/
def GoesOn (setting : PipeSetting) (input : Bytes) : PipeRun × Option PipeEnd → Prop
  | (r, none) => ∃ answer l, Follows setting input answer r l
  | (r, some ending) => EndsAs setting input r ending

variable {setting : PipeSetting} {input : Bytes} {answer : Nat → Except StageError Record}
  {r : PipeRun} {l : PumpLoop}

theorem isSome_of_isShutDown (h : r.isShutDown = true) : r.setting.shutdown.isSome = true := by
  unfold isShutDown at h
  cases hs : r.setting.shutdown with
  | none =>
    rw [hs] at h
    cases h
  | some _ => rfl

theorem follows_begin (setting : PipeSetting) (input : Bytes)
    (answer : Nat → Except StageError Record) :
    Follows setting input answer (begin setting input) (PumpLoop.begin input) where
  reaches := .refl
  running := rfl
  same := rfl
  pump := rfl
  failures := rfl
  results := nofun
  flights := rfl
  pending := nofun

theorem Follows.unfinished (h : Follows setting input answer r l) :
    EndsAs setting input r .unfinished :=
  ⟨answer, l, h.reaches, h.results, h.pump, h.failures, fun hne => absurd rfl hne⟩

/-! ## One step -/

/-- A result that is handed over is a request that ends. -/
theorem Follows.complete {place : Nat} {f : Flight} (h : Follows setting input answer r l)
    (hplace : r.flights[place]? = some (some f)) (metrics : Metrics) :
    ∃ l', Follows setting input answer
      { r with pump := r.pump.complete place f.result, flights := r.flights.set place none, metrics }
      l' := by
  obtain ⟨hresult, slot, hslot, hnone⟩ := h.pending place f hplace
  refine ⟨{ l with pump := l.pump.complete place (answer (l.settled + place)) },
    { h with
      reaches := h.reaches.tail (.complete place h.running hslot hnone)
      pump := by rw [h.pump, hresult]
      flights := ?_
      pending := ?_ }⟩
  · simp only [Pump.complete, List.length_set, List.length_modify]
    exact h.flights
  · intro place' f' hplace'
    by_cases heq : place = place'
    · subst heq
      rw [List.getElem?_set_self'] at hplace'
      simp [hplace] at hplace'
    · rw [List.getElem?_set_ne heq] at hplace'
      obtain ⟨hresult', slot', hslot', hnone'⟩ := h.pending place' f' hplace'
      refine ⟨hresult', slot', ?_, hnone'⟩
      rw [← hslot']
      exact List.getElem?_modify_ne _ _ heq

theorem Follows.land (h : Follows setting input answer r l) :
    ∃ l', Follows setting input answer r.land l' := by
  refine landFrom_induction (fun r => ∃ l, Follows setting input answer r l) ?_ ⟨l, h⟩ rfl
  rintro r place f metrics ⟨l, h⟩ hplace
  exact h.complete hplace metrics

theorem Follows.settle {line : Bytes} {result : Except StageError Record} {rest : List Slot}
    (h : Follows setting input answer r l) (hs : l.pump.slots = ⟨line, some result⟩ :: rest)
    (hreach : Reaches setting.concurrency answer setting.shutdown.isSome input
      (l.take (.settled result (l.pump.settle result rest)))) :
    Follows setting input answer
      { r with
        pump := l.pump.settle result rest
        flights := r.flights.drop 1
        failures := r.failures ++ errors [result] }
      (l.take (.settled result (l.pump.settle result rest))) where
  reaches := hreach
  running := by rw [ending_take_settled, h.running]
  same := h.same
  pump := by rw [pump_take_settled]
  failures := by rw [failures_take_settled, h.failures]
  results := by
    rw [requests_take_settled]
    exact h.results
  flights := by
    rw [pump_take_settled, slots_settle, List.length_drop, h.flights, hs]
    rfl
  pending := by
    intro place f hplace
    rw [List.getElem?_drop, Nat.add_comm] at hplace
    obtain ⟨hresult, slot, hslot, hnone⟩ := h.pending (place + 1) f hplace
    rw [hs] at hslot
    rw [settled_take_settled, Nat.add_assoc, Nat.add_comm 1 place, pump_take_settled, slots_settle]
    exact ⟨hresult, slot, hslot, hnone⟩

/-- The result of a new request is what processing its record comes to. -/
theorem Follows.launch {line : Bytes} {rest : List Bytes} {p : Pump}
    (h : Follows setting input answer r l)
    (hp : p = { l.pump with unread := rest, slots := l.pump.slots ++ [{ line }] })
    (hstep : ∀ answer, Step setting.concurrency answer setting.shutdown.isSome l
      (l.take (.launched line p))) :
    ∃ answer' l', Follows setting input answer' (r.launch line p) l' := by
  subst hp
  generalize hlaunched : r.launch line _ = r'
  obtain ⟨f, hflights, result, hresult, hf⟩ : ∃ f, r'.flights = r.flights ++ [some f] ∧
      ∃ result, ResultOf setting (.ofPayload line) result ∧ f.result = result := by
    subst hlaunched
    exact ⟨_, rfl, _, ⟨r.seen.length, r.now, by rw [← h.same]⟩, rfl⟩
  have hlen := (inv_of_reaches h.reaches).length_slots
  have hold : ∀ i < l.requests.length,
      (if i = l.requests.length then result else answer i) = answer i :=
    fun i hi => if_neg (by omega)
  refine ⟨fun i => if i = l.requests.length then result else answer i, _,
    { reaches := (h.reaches.congr hold).tail (hstep _)
      running := h.running
      same := by rw [← hlaunched]; exact h.same
      pump := by rw [← hlaunched]; rfl
      failures := by rw [← hlaunched]; exact h.failures
      results := ?_
      flights := ?_
      pending := ?_ }⟩
  · intro i record hi
    rcases getElem?_concat_eq_some hi with ⟨hlt, hi⟩ | ⟨rfl, rfl⟩
    · rw [hold i hlt]
      exact h.results i record hi
    · rw [if_pos rfl]
      exact hresult
  · rw [hflights, List.length_append, h.flights]
    simp [take]
  · intro place f' hplace
    rw [hflights] at hplace
    rcases getElem?_concat_eq_some hplace with ⟨hlt, hplace⟩ | ⟨rfl, hnew⟩
    · obtain ⟨hresult', slot, hslot, hnone⟩ := h.pending place f' hplace
      rw [h.flights] at hlt
      have hindex : l.settled + place < l.requests.length := by omega
      refine ⟨hresult'.trans (hold _ hindex).symm, slot, ?_, hnone⟩
      rw [← hslot]
      exact List.getElem?_append_left hlt
    · cases hnew
      have hindex : l.settled + r.flights.length = l.requests.length := by rw [h.flights, hlen]
      refine ⟨hf.trans (if_pos hindex).symm, { line }, ?_, rfl⟩
      rw [h.flights]
      exact List.getElem?_concat_length

/-- A step of a rehearsal is a turn of the loop after the requests that have ended, or none at all
while the clock moves. -/
theorem Follows.step (hwrite : ∀ n, setting.writeFault? n = none)
    (h : Follows setting input answer r l) : GoesOn setting input r.step := by
  obtain ⟨l, h⟩ : ∃ l', Follows setting input answer (if r.isShutDown then r else r.land) l' := by
    split
    · exact ⟨l, h⟩
    · exact h.land
  unfold PipeRun.step
  generalize (if r.isShutDown then r else r.land) = r at h ⊢
  obtain rfl : r.setting = setting := h.same
  have ht := l.pump.turned r.setting.concurrency r.isShutDown
  have hstep : l.pump.turn r.setting.concurrency r.isShutDown ≠ .wait → ∀ answer,
      Step r.setting.concurrency answer r.setting.shutdown.isSome l
        (l.take (l.pump.turn r.setting.concurrency r.isShutDown)) :=
    fun hne answer => .turn r.isShutDown h.running isSome_of_isShutDown hne
  have hturn : r.pump.turn r.setting.concurrency r.isShutDown =
      l.pump.turn r.setting.concurrency r.isShutDown := by rw [h.pump]
  simp only [hwrite, hturn]
  generalize l.pump.turn r.setting.concurrency r.isShutDown = t at ht hstep ⊢
  generalize r.isShutDown = shutdown at ht
  cases ht with
  | stop _ =>
    exact ⟨answer, _, h.reaches.tail (hstep (by simp) answer), h.results, h.pump, h.failures,
      fun _ => rfl⟩
  | unreadable _ _ _ =>
    exact ⟨answer, _, h.reaches.tail (hstep (by simp) answer), h.results, h.pump, h.failures,
      fun _ => rfl⟩
  | @settled line result rest hs =>
    have hsettled := h.settle hs (h.reaches.tail (hstep (by simp) answer))
    cases result with
    | ok record =>
      simp only [errors, List.filterMap_cons, List.filterMap_nil, List.append_nil] at hsettled
      exact ⟨answer, _, hsettled⟩
    | error e => exact ⟨answer, _, hsettled⟩
  | ended _ _ =>
    exact ⟨answer, _, { h with reaches := h.reaches.tail (hstep (by simp) answer), pump := rfl }⟩
  | blank _ _ _ =>
    exact ⟨answer, _, { h with reaches := h.reaches.tail (hstep (by simp) answer), pump := rfl }⟩
  | launched _ _ _ => exact h.launch rfl (hstep (by simp))
  | wait _ _ _ =>
    -- only the clock moves, if there is anything to wait for
    dsimp only
    split
    · exact ⟨answer, l, { h with }⟩
    · exact h.unfinished

/-! ## Whole rehearsals -/

theorem Follows.steps (hwrite : ∀ n, setting.writeFault? n = none) (fuel : Nat)
    (h : Follows setting input answer r l) :
    EndsAs setting input (steps fuel r).1 (steps fuel r).2 := by
  induction fuel generalizing answer r l with
  | zero => exact h.unfinished
  | succ fuel ih =>
    have hgoes := h.step hwrite
    unfold PipeRun.steps
    generalize r.step = next at hgoes
    obtain ⟨r', ending⟩ := next
    cases ending with
    | none =>
      obtain ⟨answer', l', h'⟩ := hgoes
      exact ih h'
    | some ending => exact hgoes

/-- A rehearsal without write errors is a run of the loop, for some results that processing the
records came to. It breaks off only if there is a shutdown. -/
theorem run_endsAs (setting : PipeSetting) (input : Bytes)
    (hwrite : ∀ n, setting.writeFault? n = none) :
    EndsAs setting input (begin setting input).run.1 (begin setting input).run.2 :=
  (follows_begin setting input fun _ => .error .closed).steps hwrite _

end PipeRun
end ReplyStage
