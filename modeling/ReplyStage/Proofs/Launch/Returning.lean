import Mathlib.Algebra.Order.BigOperators.Group.List
import Mathlib.Algebra.Order.Ring.Nat
import ReplyStage.Proofs.Launch.Service
/-!
# The program returns

No run goes on for ever, and none stands still before the program has returned, even if no shutdown
comes and nothing fails: `work` counts the steps that are left.
-/

namespace ReplyStage

/-- The steps that a call has left at most. -/
def Phase.stepsLeft {τ : Type} : Phase τ → Nat
  | .idle => 4
  | .waiting _ => 3
  | .admitted _ => 2
  | .underway _ _ | .closing _ => 1
  | .finished _ => 0

namespace Shared

variable {τ : Type} {respond : Nat → Sending τ → Response} {s s' : Shared τ} {id : Nat}

theorem Enters.stepsLeft_le {p q : Phase τ} (h : Enters p q) : q.stepsLeft ≤ p.stepsLeft := by
  rcases h with rfl | ⟨call, rfl, rfl⟩
  · exact Nat.le_refl _
  · exact Nat.le_succ 2

theorem Effect.stepsLeft_lt {p : Phase τ} {c : Connection τ}
    {happened : List (Duration × Happening τ)} (h : Effect respond s id p c happened) :
    p.stepsLeft < (s.phase id).stepsLeft := by
  cases h with
  | arrives _ h | closesNothing h _ | closed h => simp [h, Phase.stepsLeft]
  | refused h _ | sends h _ | replied h _ | failed h _ | stores h _ | opensNothing h _
  | closes h _ => simp [h, Phase.stepsLeft]
  | dropped hend hidle =>
    cases hp : s.phase id with
    | finished outcome => exact absurd hp (hend outcome)
    | _ => simp [Phase.stepsLeft]

/-- A step leaves its call fewer steps, and the others no more. -/
theorem Step.stepsLeft (h : Step respond id s s') :
    (s'.phase id).stepsLeft < (s.phase id).stepsLeft ∧
      ∀ i, (s'.phase i).stepsLeft ≤ (s.phase i).stepsLeft := by
  obtain ⟨p, c, happened, heffect, ht⟩ := effect_of_step h
  have hlt := heffect.stepsLeft_lt
  refine ⟨?_, fun i => ?_⟩
  · have hself := (ht.phase id).stepsLeft_le
    rw [move_self] at hself
    omega
  · have hi := (ht.phase i).stepsLeft_le
    unfold move at hi
    split at hi
    · subst_vars
      omega
    · exact hi

/-- The steps that the first calls have left at most. -/
def stepsLeft (s : Shared τ) (count : Nat) : Nat :=
  ((List.range count).map fun id => (s.phase id).stepsLeft).sum

theorem stepsLeft_le {count : Nat}
    (h : ∀ id < count, (s'.phase id).stepsLeft ≤ (s.phase id).stepsLeft) :
    s'.stepsLeft count ≤ s.stepsLeft count :=
  List.sum_le_sum fun id hid => h id (List.mem_range.1 hid)

theorem Step.stepsLeft_lt {count : Nat} (h : Step respond id s s') (hid : id < count) :
    s'.stepsLeft count < s.stepsLeft count :=
  List.sum_lt_sum _ _ (fun i _ => h.stepsLeft.2 i) ⟨id, List.mem_range.2 hid, h.stepsLeft.1⟩

theorem stepsLeft_succ_le (s : Shared τ) (count : Nat) :
    s.stepsLeft (count + 1) ≤ s.stepsLeft count + 4 := by
  have hlast : (s.phase count).stepsLeft ≤ 4 := by cases s.phase count <;> simp [Phase.stepsLeft]
  simpa [stepsLeft, List.range_succ] using hlast

end Shared

/-- What a pump has left to do: a line is read and makes a call, the result of which is handed over
and taken; then the input ends. A line weighs as much as the call, and one more. -/
def Pump.work (p : Pump) : Nat :=
  6 * p.unread.length + (!p.ended).toNat + p.slots.length + PumpLoop.pending p.slots

namespace Service

variable {concurrency : Nat} {disturbed : Bool} {ready : Ready} {s s' : Service}

/-! ## Less and less to do -/

/-- The steps left at most: those of the calls and of the pump; then the pump ends, and the program
returns. -/
def work (s : Service) : Nat :=
  s.pump.work + s.shared.stepsLeft (s.calls + 1) + s.ending.isNone.toNat + s.result.isNone.toNat

/-- A step of one of the calls does some of the work. -/
theorem work_take_lt {respond : Nat → Sending Transport → Response} {id : Nat}
    {shared : Shared Transport} (hstep : Shared.Step respond id s.shared shared)
    (hid : id ≤ s.calls) : (s.take shared).work < s.work := by
  have hlt : shared.stepsLeft (s.calls + 1) < s.shared.stepsLeft (s.calls + 1) :=
    hstep.stepsLeft_lt (Nat.lt_succ_of_le hid)
  show s.pump.work + shared.stepsLeft (s.calls + 1) + s.ending.isNone.toNat +
    s.result.isNone.toNat < s.work
  unfold work
  omega

theorem work_endPump_lt (h : Pumping ready s) (ending : PipeEnd) :
    (s.endPump ending).work < s.work := by
  have hdropped := Shared.dropped h.inv h.nobody h.requests
  have hle : (s.shared.drop s.calls).stepsLeft (s.calls + 1) ≤ s.shared.stepsLeft (s.calls + 1) := by
    refine Shared.stepsLeft_le fun id hid => ?_
    by_cases hlt : id < s.calls
    · obtain ⟨outcome, hover⟩ := hdropped.finished id hlt
      rw [hover]
      exact Nat.zero_le _
    · rw [hdropped.others id (by omega)]
  have hrunning : s.ending.isNone.toNat = 1 := by rw [h.running]; rfl
  show s.pump.work + (s.shared.drop s.calls).stepsLeft (s.calls + 1) + 0 +
    s.result.isNone.toNat < s.work
  unfold work
  omega

/-- The pump with its queue changed does less, if it has less to do and made no new request. -/
theorem work_setPump_lt {pump : Pump}
    (hcalls : pump.replied + pump.failed + pump.slots.length = s.calls)
    (hlt : pump.work < s.pump.work) : ({ s with pump } : Service).work < s.work := by
  have hsame : ({ s with pump } : Service).calls = s.calls := hcalls
  unfold work
  rw [hsame]
  simp only
  omega

theorem work_launch_lt (h : Pumping ready s) {line : Bytes} {pump : Pump}
    (hcalls : pump.replied + pump.failed + pump.slots.length = s.calls + 1)
    (hwork : pump.work + 4 ≤ s.pump.work) : (s.launch line pump).work < s.work := by
  have hidle := h.idle s.calls (Nat.le_refl _)
  have hstep : Shared.Step Shared.silent s.calls s.shared
    (s.shared.arrive s.calls (.process (.ofPayload line) none)).1 := .arrive _ hidle
  have hlt := hstep.stepsLeft_lt (Nat.lt_add_one s.calls)
  have hle := (s.shared.arrive s.calls (.process (.ofPayload line) none)).1.stepsLeft_succ_le
    (s.calls + 1)
  have hnew : (s.launch line pump).calls = s.calls + 1 := hcalls
  unfold work
  rw [hnew]
  show pump.work + (s.shared.arrive s.calls (.process (.ofPayload line) none)).1.stepsLeft
    (s.calls + 1 + 1) + s.ending.isNone.toNat + s.result.isNone.toNat < _
  omega

theorem work_turned_lt (h : Pumping ready s) (shutdown : Bool) (fault : Option String)
    (hne : s.pump.turn concurrency shutdown ≠ .wait) :
    (s.turned fault (s.pump.turn concurrency shutdown)).work < s.work := by
  have ht := s.pump.turned concurrency shutdown
  generalize s.pump.turn concurrency shutdown = t at ht hne ⊢
  cases ht with
  | stop _ => cases fault <;> exact work_endPump_lt h _
  | unreadable _ _ _ => exact work_endPump_lt h _
  | ended hreads _ => exact work_setPump_lt rfl (by simp [Pump.work, hreads.more])
  | blank _ hu _ => exact work_setPump_lt rfl (by simp [Pump.work, hu])
  | launched _ hu _ =>
    refine work_launch_lt h ?_ ?_
    · simp only [List.length_append, List.length_singleton, calls, settled]
      omega
    · simp only [Pump.work, hu, List.length_cons, List.length_append, List.length_nil,
        PumpLoop.pending, List.countP_append, List.countP_singleton, Option.isNone_none, if_true]
      omega
  | @settled line result rest hs =>
    have hcalls := calls_settle hs
    have hlt : (s.pump.settle result rest).work < s.pump.work := by
      simp only [Pump.work, PumpLoop.unread_settle, PumpLoop.ended_settle, PumpLoop.slots_settle, hs,
        List.length_cons, PumpLoop.pending, List.countP_cons]
      omega
    cases result with
    | error e => exact work_setPump_lt hcalls hlt
    | ok record =>
      cases fault with
      | none => exact work_setPump_lt hcalls hlt
      | some message => exact work_endPump_lt h _
  | wait _ _ _ => exact absurd rfl hne

/-- Each step does some of the work. -/
theorem Step.work_lt (hstep : Step concurrency disturbed s s') (h : Stands ready s) :
    s'.work < s.work := by
  have pumping : s.ending = none → Pumping ready s := by
    intro hrunning
    rcases h with h | ⟨ending, requests, h⟩
    · exact h
    · rw [h.ended] at hrunning
      cases hrunning
  cases hstep with
  | runs id now hrunning hid hcall =>
    have hcalls : Shared.Step Shared.silent id s.shared _ := .run now hcall
    exact work_take_lt hcalls (Nat.le_of_lt hid)
  | settles id now response hrunning hid hunder =>
    have hcalls : Shared.Step (fun _ _ => response) id s.shared _ := .settle now hunder
    exact work_take_lt hcalls (Nat.le_of_lt hid)
  | @lands slot result place hrunning hs hnone hover =>
    refine work_setPump_lt (by simp [Pump.complete, calls, settled]) ?_
    have := PumpLoop.pending_complete result hs hnone
    simp only [Pump.work, Pump.complete, List.length_modify]
    omega
  | turn shutdown fault hrunning _ hne => exact work_turned_lt (pumping hrunning) shutdown fault hne
  | breaks malformed hrunning _ _ => exact work_endPump_lt (pumping hrunning) _
  | asksToClose hended hidle =>
    have hcalls : Shared.Step Shared.silent s.calls s.shared _ := .arrive .close hidle
    exact work_take_lt hcalls (Nat.le_refl _)
  | closes now hended hcall =>
    have hcalls : Shared.Step Shared.silent s.calls s.shared _ := .run now hcall
    exact work_take_lt hcalls (Nat.le_refl _)
  | hasClosed hended hclosing =>
    have hcalls : Shared.Step Shared.silent s.calls s.shared _ := .endClose hclosing
    exact work_take_lt hcalls (Nat.le_refl _)
  | returns hended hover hresult => simp [work, calls, settled, hresult]

theorem wellFounded_step :
    WellFounded fun s' s => Stands ready s ∧ Step concurrency disturbed s s' :=
  Subrelation.wf (fun h => h.2.work_lt h.1) (measure work).wf

/-! ## Always something to do -/

theorem Pumping.exists_step (h : Pumping ready s) (hc : 1 ≤ concurrency) :
    ∃ s', Step concurrency false s s' := by
  by_cases hwait : s.pump.turn concurrency false = .wait
  · -- the oldest request has no result yet, so its call can go on or hand over its result
    obtain ⟨slot, rest, hs, hnone⟩ := Pump.exists_pending_of_wait hc hwait
    have hid : s.settled < s.calls := by simp [calls, hs]
    have hrequest := h.requests s.settled hid
    cases hp : s.shared.phase s.settled with
    | admitted call => exact ⟨_, .runs s.settled .zero h.running hid hp⟩
    | underway sending since => exact ⟨_, .settles s.settled .zero .never h.running hid hp⟩
    | finished outcome =>
      have hplace : s.pump.slots[0]? = some slot := by rw [hs]; rfl
      cases outcome with
      | record r =>
        have hover : s.shared.phase s.settled = .finished (.ofResult (.ok r)) := hp
        exact ⟨_, .lands 0 h.running hplace hnone hover⟩
      | failed e =>
        have hover : s.shared.phase s.settled = .finished (.ofResult (.error e)) := hp
        exact ⟨_, .lands 0 h.running hplace hnone hover⟩
      | done | cancelled =>
        rw [hp] at hrequest
        cases hrequest
    | idle | waiting _ | closing _ =>
      rw [hp] at hrequest
      cases hrequest
  · exact ⟨_, .turn false none h.running (by simp) hwait⟩

theorem Ended.exists_step {ending : PipeEnd} {requests : List Request}
    (h : Ended ready ending requests s) (hresult : s.result = none) :
    ∃ s', Step concurrency disturbed s s' := by
  cases h.closing with
  | unasked hp _ _ _ => exact ⟨_, .asksToClose h.ended hp⟩
  | asked hp _ _ _ => exact ⟨_, .closes .zero h.ended hp⟩
  | begun hp _ _ => exact ⟨_, .hasClosed h.ended hp⟩
  | completed hp _ _ => exact ⟨_, .returns h.ended hp hresult⟩

/-- Until it has returned the program has something to do, also if it is not disturbed. -/
theorem Stands.exists_step (h : Stands ready s) (hc : 1 ≤ concurrency) (hresult : s.result = none) :
    ∃ s', Step concurrency false s s' := by
  rcases h with h | ⟨ending, requests, h⟩
  · exact h.exists_step hc
  · exact h.exists_step hresult

/-- After the pump, the program closes the connection and returns. -/
theorem Ended.exists_return {ending : PipeEnd} {requests : List Request}
    (h : Ended ready ending requests s) : ∃ s', Relation.ReflTransGen (Step concurrency disturbed) s s' ∧
      s'.trace = requests.map .sent ++ [.pumped ending, .closed ready.transport] ∧
      s'.result = some ending.result := by
  have hwf : WellFounded fun s' s => Stands ready s ∧ Step concurrency disturbed s s' :=
    wellFounded_step
  induction s using hwf.induction with
  | _ s ih =>
    cases hresult : s.result with
    | none =>
      obtain ⟨s', hstep⟩ := h.exists_step hresult
      obtain ⟨last, hlast, htrace, hreturned⟩ :=
        ih s' ⟨.inr ⟨ending, requests, h⟩, hstep⟩ (h.step hstep)
      exact ⟨last, .head hstep hlast, htrace, hreturned⟩
    | some result =>
      cases h.closing with
      | completed _ htrace hreturned =>
        rcases hreturned with hnone | hsome
        · rw [hresult] at hnone
          cases hnone
        · exact ⟨s, .refl, htrace, hsome⟩
      | unasked _ _ _ hnone | asked _ _ _ hnone | begun _ _ hnone =>
        rw [hresult] at hnone
        cases hnone

end Service
end ReplyStage
