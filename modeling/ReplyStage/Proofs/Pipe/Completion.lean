import ReplyStage.Proofs.Pipe.Loop
/-!
# Runs to the end of the input

A run that is not shut down works off an input whose lines can all be read, whatever the bound and
whatever the order in which requests end. `work` counts what is left to do. All runs come to the
same end, that of taking the lines one at a time.
-/

namespace ReplyStage.PumpLoop

variable {concurrency : Nat} {answer : Nat → Except StageError Record} {mayBreakOff : Bool}
  {input : Bytes} {l : PumpLoop}

/-! ## Every run ends -/

/-- The number of requests under way that have no result yet. -/
def pending (slots : List Slot) : Nat := slots.countP fun slot => slot.result.isNone

/-- The steps left at most: a line is read, its request ends and its result is taken; then the end
of the input is read and the loop stops. -/
def work (l : PumpLoop) : Nat :=
  3 * l.pump.unread.length + (!l.pump.ended).toNat + l.pump.slots.length +
    pending l.pump.slots + l.ending.isNone.toNat

theorem pending_complete {slots : List Slot} {slot : Slot} {place : Nat}
    (result : Except StageError Record) (hs : slots[place]? = some slot)
    (hnone : slot.result = none) :
    pending (slots.modify place fun slot => { slot with result := slot.result.or (some result) })
      < pending slots := by
  induction slots generalizing place with
  | nil => cases hs
  | cons first rest ih =>
    cases place with
    | zero =>
      cases hs
      simp [pending, List.modify_cons, hnone]
    | succ place =>
      have := ih hs
      simp only [List.modify_succ_cons, pending, List.countP_cons] at this ⊢
      omega

/-- Each step does some of the work. -/
theorem Step.work_lt {l' : PumpLoop} (hstep : Step concurrency answer mayBreakOff l l') :
    l'.work < l.work := by
  cases hstep with
  | complete place hrun hs hnone =>
    have := pending_complete (answer (l.settled + place)) hs hnone
    simp only [work, Pump.complete, List.length_modify]
    omega
  | turn shutdown hrun _ hne =>
    have ht := l.pump.turned concurrency shutdown
    generalize l.pump.turn concurrency shutdown = t at ht hne ⊢
    cases ht with
    | stop _ => simp [work, take, hrun]
    | unreadable _ _ _ => simp [work, take, hrun]
    | settled hs =>
      simp only [work, pump_take_settled, unread_settle, ended_settle, slots_settle,
        ending_take_settled, hs, List.length_cons, pending, List.countP_cons]
      omega
    | ended hr _ => simp [work, take, hrun, hr.more]
    | blank _ hu _ =>
      simp only [work, take, hu, List.length_cons]
      omega
    | launched _ hu _ =>
      simp only [work, take, hu, List.length_cons, List.length_append, List.length_nil, pending,
        List.countP_append, List.countP_singleton, Option.isNone_none, if_true]
      omega
    | wait _ _ _ => exact absurd rfl hne
  | breaks fault hrun _ _ => simp [work, hrun]

theorem wellFounded_step :
    WellFounded fun l' l => Step concurrency answer mayBreakOff l l' :=
  Subrelation.wf (fun hstep => hstep.work_lt) (measure work).wf

/-- The loop never stands still: where it has to wait, some request is under way. -/
theorem exists_step (hc : 1 ≤ concurrency) (hrun : l.ending = none) :
    ∃ l', Step concurrency answer mayBreakOff l l' := by
  by_cases hwait : l.pump.turn concurrency false = .wait
  · obtain ⟨slot, rest, hs, hnone⟩ := Pump.exists_pending_of_wait hc hwait
    exact ⟨_, .complete 0 hrun (by rw [hs]; rfl) hnone⟩
  · exact ⟨_, .turn false hrun nofun hwait⟩

/-- Every run can be brought to its end. -/
theorem exists_ending (hc : 1 ≤ concurrency)
    (h : Reaches concurrency answer mayBreakOff input l) :
    ∃ l' e, Reaches concurrency answer mayBreakOff input l' ∧ l'.ending = some e := by
  have hwf : WellFounded fun l' l => Step concurrency answer mayBreakOff l l' := wellFounded_step
  induction l using hwf.induction with
  | _ l ih =>
    cases he : l.ending with
    | some e => exact ⟨l, e, h, he⟩
    | none =>
      obtain ⟨l', hstep⟩ := exists_step hc he
      exact ih l' hstep (h.tail hstep)

/-! ## The end -/

/-- The results of the lines of an input that are not empty. -/
def lineResults (answer : Nat → Except StageError Record) (input : Bytes) :
    List (Except StageError Record) :=
  firstResults answer (Lines.nonEmpty (Lines.cut input)).length

/-- The end of the runs over an input that can be read. -/
def completed (answer : Nat → Except StageError Record) (input : Bytes) : PumpLoop where
  pump :=
    { unread := []
      ended := true
      output := written (lineResults answer input)
      replied := (lineResults answer input).countP Except.isOk
      failed := (errors (lineResults answer input)).length }
  requests := (Lines.nonEmpty (Lines.cut input)).map Record.ofPayload
  failures := errors (lineResults answer input)
  ending := some (.finished 0)

theorem Inv.eq_completed {e : PipeEnd}
    (readable : ∀ line ∈ Lines.cut input, ∃ content, Lines.read line = .ok content)
    (h : Inv concurrency answer false input l) (he : l.ending = some e) :
    l = completed answer input := by
  rcases h.ending rfl e he with ⟨rfl, hended, hslots⟩ | ⟨line, hmem, fault, -, hfault⟩
  · obtain ⟨-, hreq, hsettled⟩ := h.finished he
    have hunread := h.ended hended
    have houtput := h.output
    have hreplied := h.replied
    have hfailures := h.failures
    have hfailed := h.failed_eq
    rw [hsettled] at houtput hreplied hfailures
    rw [hfailures] at hfailed
    obtain ⟨⟨unread, ended, slots, output, replied, failed⟩, requests, failures, ending⟩ := l
    simp only at hended hslots hreq hunread houtput hreplied hfailures hfailed he
    subst hended hslots hreq hunread houtput hreplied hfailures hfailed he
    rfl
  · obtain ⟨content, hread⟩ := readable line hmem
    rw [hread] at hfault
    cases hfault

/-- An input that can be read is worked off. -/
theorem reaches_completed (hc : 1 ≤ concurrency)
    (readable : ∀ line ∈ Lines.cut input, ∃ content, Lines.read line = .ok content) :
    Reaches concurrency answer false input (completed answer input) := by
  obtain ⟨l, e, h, he⟩ := exists_ending hc (.refl : Reaches concurrency answer false input _)
  rw [← (inv_of_reaches h).eq_completed readable he]
  exact h

/-- Every run over an input that can be read ends, and what it leaves does not depend on the bound
or on the order in which the requests end. -/
theorem complete_run (hc : 1 ≤ concurrency)
    (readable : ∀ line ∈ Lines.cut input, ∃ content, Lines.read line = .ok content) :
    -- no run goes on for ever, and none stands still before its end
    (WellFounded fun l' l => Step concurrency answer false l l') ∧
    (∀ l, l.ending = none → ∃ l', Step concurrency answer false l l') ∧
    ∀ l e, Reaches concurrency answer false input l → l.ending = some e →
      e = .finished 0 ∧
      -- each line that is not empty has become one record, with the line as its payload
      l.requests = (Lines.nonEmpty (Lines.cut input)).map Record.ofPayload ∧
      l.requests.map Record.payload = Lines.nonEmpty (Lines.cut input) ∧
      -- each of these records has a result, which was written or counted, in order
      l.pump.output = written (lineResults answer input) ∧
      l.pump.replied = (lineResults answer input).countP Except.isOk ∧
      l.pump.failed = (errors (lineResults answer input)).length ∧
      l.failures = errors (lineResults answer input) ∧
      l.pump.replied + l.pump.failed = (Lines.nonEmpty (Lines.cut input)).length ∧
      -- taking the lines one at a time comes to this end, and to no other
      Reaches 1 answer false input l ∧
      ∀ l₁ e₁, Reaches 1 answer false input l₁ → l₁.ending = some e₁ → l₁ = l := by
  refine ⟨wellFounded_step, fun l => exists_step hc, ?_⟩
  intro l e h he
  have hl : l = completed answer input := (inv_of_reaches h).eq_completed readable he
  have hsequential : ∀ l₁ e₁, Reaches 1 answer false input l₁ → l₁.ending = some e₁ → l₁ = l := by
    intro l₁ e₁ h₁ he₁
    rw [hl]
    exact (inv_of_reaches h₁).eq_completed readable he₁
  obtain ⟨l₁, e₁, h₁, he₁⟩ :=
    exists_ending (Nat.le_refl 1) (.refl : Reaches 1 answer false input _)
  have hreach : Reaches 1 answer false input l := hsequential l₁ e₁ h₁ he₁ ▸ h₁
  have hcount := countP_isOk_add_length_errors (lineResults answer input)
  rw [lineResults, length_firstResults] at hcount
  have hpayload : (Lines.nonEmpty (Lines.cut input)).map (Record.payload ∘ Record.ofPayload) =
      Lines.nonEmpty (Lines.cut input) := List.map_id _
  rw [hl] at he ⊢
  refine ⟨by cases he; rfl, rfl, ?_, rfl, rfl, rfl, rfl, hcount, hl ▸ hreach, hl ▸ hsequential⟩
  rw [← hpayload, ← List.map_map]
  rfl

/-- Two lines with an empty one between them, of which the last has no end. -/
theorem complete_run_two_lines :
    ∃ l, Reaches 2 firstAnswered false [0x61, 0x0A, 0x0A, 0x62] l ∧ l.ending = some (.finished 0) ∧
      l.pump.output = [0x31, 0x0A] ∧ l.pump.replied = 1 ∧ l.pump.failed = 1 := by
  have readable : ∀ line ∈ Lines.cut [0x61, 0x0A, 0x0A, 0x62],
      ∃ content, Lines.read line = .ok content := by
    intro line hmem
    rw [show Lines.cut [0x61, 0x0A, 0x0A, 0x62] = [[0x61, 0x0A], [0x0A], [0x62]] from rfl] at hmem
    simp only [List.mem_cons, List.not_mem_nil, or_false] at hmem
    rcases hmem with rfl | rfl | rfl
    · exact ⟨[0x61], rfl⟩
    · exact ⟨[], rfl⟩
    · exact ⟨[0x62], rfl⟩
  obtain ⟨-, -, hend⟩ := complete_run (show 1 ≤ 2 by decide) readable
  obtain ⟨l, e, h, he⟩ := exists_ending (show 1 ≤ 2 by decide)
    (.refl : Reaches 2 firstAnswered false [0x61, 0x0A, 0x0A, 0x62] _)
  obtain ⟨rfl, -, -, houtput, hreplied, hfailed, -⟩ := hend l e h he
  exact ⟨l, h, he, houtput.trans rfl, hreplied.trans rfl, hfailed.trans rfl⟩

end ReplyStage.PumpLoop
