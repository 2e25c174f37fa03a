import Mathlib.Algebra.Order.BigOperators.Group.List
import Mathlib.Algebra.Order.Ring.Nat
import ReplyStage.Proofs.Pipe.Loop
/-!
# Rehearsals end

A rehearsal of the pipe is bounded by a number of steps. The bound is never met: every step does some
of what is left of the input, of the requests under way and of the time before the shutdown, and a
clock that has nothing to wait for has no request to wait for either.
-/

namespace ReplyStage

/-- A request without a result is not the one that was completed. -/
theorem Pump.slot_of_complete {p : Pump} {place i : Nat} {result : Except StageError Record}
    {slot : Slot} (h : (p.complete place result).slots[i]? = some slot) (hnone : slot.result = none) :
    i ≠ place ∧ p.slots[i]? = some slot := by
  by_cases hi : place = i
  · subst hi
    rw [complete, List.getElem?_modify_eq] at h
    cases hold : p.slots[place]? with
    | none => simp [hold] at h
    | some old =>
      rw [hold] at h
      cases h
      simp at hnone
  · rw [complete, List.getElem?_modify_ne _ _ hi] at h
    exact ⟨Ne.symm hi, h⟩

namespace PipeRun

variable {r : PipeRun}

/-- Each request under way has its flight until its result is there. -/
structure Tracked (r : PipeRun) : Prop where
  length : r.flights.length = r.pump.slots.length
  awaited : ∀ (place : Nat) (slot : Slot), r.pump.slots[place]? = some slot → slot.result = none →
    ∃ f, r.flights[place]? = some (some f)

/-- What is left of a request under way: its end, unless it has come, and its result. -/
def flightLeft (now : Nat) : Option Flight → Nat
  | none => 1
  | some f => if f.ends ≤ now then 1 else 2

theorem flightLeft_pos (now : Nat) (f : Option Flight) : 1 ≤ flightLeft now f := by
  unfold flightLeft
  split
  · exact Nat.le_refl 1
  · split <;> omega

theorem flightLeft_le_two (now : Nat) (f : Option Flight) : flightLeft now f ≤ 2 := by
  unfold flightLeft
  split
  · omega
  · split <;> omega

/-- Time only takes away from it. -/
theorem flightLeft_anti {now later : Nat} (h : now ≤ later) (f : Option Flight) :
    flightLeft later f ≤ flightLeft now f := by
  unfold flightLeft
  split
  · exact Nat.le_refl 1
  · split <;> split <;> omega

/-- What is left of the requests under way. -/
def flightsLeft (r : PipeRun) : Nat := (r.flights.map (flightLeft r.now)).sum

/-- What is left to do: a line is read and its request ends and is taken, the input ends, and the
shutdown comes. -/
def left (r : PipeRun) : Nat :=
  3 * r.pump.unread.length + (!r.pump.ended).toNat + r.flightsLeft +
    (r.setting.shutdown.any (r.now < ·)).toNat

/-! ## Landing -/

/-- What is the same after requests that have ended were handed over. -/
structure Landed (r r' : PipeRun) : Prop where
  tracked : Tracked r → Tracked r'
  setting : r'.setting = r.setting
  now : r'.now = r.now
  unread : r'.pump.unread = r.pump.unread
  ended : r'.pump.ended = r.pump.ended
  flightsLeft : r'.flightsLeft = r.flightsLeft

theorem Landed.refl (r : PipeRun) : Landed r r := ⟨id, rfl, rfl, rfl, rfl, rfl⟩

theorem Landed.trans {r' r'' : PipeRun} (h : Landed r r') (h' : Landed r' r'') : Landed r r'' :=
  ⟨h'.tracked ∘ h.tracked, h'.setting.trans h.setting, h'.now.trans h.now, h'.unread.trans h.unread,
    h'.ended.trans h.ended, h'.flightsLeft.trans h.flightsLeft⟩

theorem Landed.left {r' : PipeRun} (h : Landed r r') : r'.left = r.left := by
  unfold PipeRun.left
  rw [h.setting, h.now, h.unread, h.ended, h.flightsLeft]

/-- What every request that has ended keeps as it is handed over holds after all of them are. -/
theorem landFrom_induction (P : PipeRun → Prop)
    (hcomplete : ∀ (r : PipeRun) (place : Nat) (f : Flight) (metrics : Metrics), P r →
      r.flights[place]? = some (some f) →
      P { r with
        pump := r.pump.complete place f.result, flights := r.flights.set place none, metrics })
    {place : Nat} {rest : List (Option Flight)} (h : P r) (hrest : r.flights.drop place = rest) :
    P (r.landFrom place rest) := by
  induction rest generalizing r place with
  | nil => exact h
  | cons first rest ih =>
    have hplace : r.flights[place]? = some first := by
      have := congrArg (fun flights => flights[0]?) hrest
      simpa using this
    have htail : r.flights.drop (place + 1) = rest := by
      rw [← List.tail_drop, hrest, List.tail_cons]
    cases first with
    | none => exact ih h htail
    | some f =>
      unfold landFrom
      split
      · refine ih (hcomplete r place f _ h hplace) ?_
        rw [← htail]
        exact List.drop_set_of_lt (Nat.lt_succ_self place)
      · exact ih h htail

/-- A request that has ended is handed over. -/
theorem landed_complete {place : Nat} {f : Flight} (hplace : r.flights[place]? = some (some f))
    (hends : f.ends ≤ r.now) (metrics : Metrics) :
    Landed r { r with
      pump := r.pump.complete place f.result, flights := r.flights.set place none, metrics } where
  setting := rfl
  now := rfl
  unread := rfl
  ended := rfl
  flightsLeft := by
    have hsame : (r.flights.set place none).map (flightLeft r.now) =
        r.flights.map (flightLeft r.now) := by
      rw [List.map_set]
      refine List.ext_getElem? fun i => ?_
      by_cases hi : place = i
      · subst hi
        obtain ⟨hlt, hget⟩ := List.getElem?_eq_some_iff.1 hplace
        simp [hlt, hget, flightLeft, hends]
      · rw [List.getElem?_set_ne hi]
    exact congrArg List.sum hsame
  tracked h := by
    refine ⟨by simpa [Pump.complete] using h.length, fun i slot hslot hnone => ?_⟩
    obtain ⟨hi, hslot⟩ := Pump.slot_of_complete hslot hnone
    obtain ⟨g, hg⟩ := h.awaited i slot hslot hnone
    exact ⟨g, by rw [List.getElem?_set_ne (Ne.symm hi), hg]⟩

/-- Whoever is due lands, and nobody is due any more. -/
theorem landed_landFrom {place : Nat} {rest : List (Option Flight)}
    (hrest : r.flights.drop place = rest)
    (hbefore : ∀ i < place, ∀ f, r.flights[i]? = some (some f) → r.now < f.ends) :
    Landed r (r.landFrom place rest) ∧
      ∀ f, some f ∈ (r.landFrom place rest).flights → r.now < f.ends := by
  induction rest generalizing r place with
  | nil =>
    refine ⟨.refl r, fun f hf => ?_⟩
    obtain ⟨i, hi⟩ := List.mem_iff_getElem?.1 hf
    have hlt : i < r.flights.length := (List.getElem?_eq_some_iff.1 hi).1
    exact hbefore i (Nat.lt_of_lt_of_le hlt (List.drop_eq_nil_iff.1 hrest)) f hi
  | cons first rest ih =>
    have hplace : r.flights[place]? = some first := by
      have := congrArg (fun flights => flights[0]?) hrest
      simpa using this
    have htail : r.flights.drop (place + 1) = rest := by
      rw [← List.tail_drop, hrest, List.tail_cons]
    -- the flights up to this place are not due, given that the one at this place is not
    have hnext : ∀ r' : PipeRun, r'.now = r.now → (∀ i, i ≠ place → r'.flights[i]? = r.flights[i]?) →
        (∀ f, r'.flights[place]? = some (some f) → r.now < f.ends) →
        ∀ i < place + 1, ∀ f, r'.flights[i]? = some (some f) → r'.now < f.ends := by
      intro r' hnow hothers hself i hi f hf
      rw [hnow]
      by_cases heq : i = place
      · exact hself f (heq ▸ hf)
      · exact hbefore i (by omega) f (hothers i heq ▸ hf)
    cases first with
    | none =>
      refine ih htail (hnext r rfl (fun _ _ => rfl) fun f hf => ?_)
      rw [hplace] at hf
      cases hf
    | some f =>
      unfold landFrom
      split
      · rename_i hends
        have hlanded := landed_complete hplace hends (r.metrics.record (.ofResult f.millis f.result))
        generalize hr' : ({ r with
          pump := r.pump.complete place f.result
          flights := r.flights.set place none
          metrics := r.metrics.record (.ofResult f.millis f.result) } : PipeRun) = r' at hlanded ⊢
        have hset : r'.flights = r.flights.set place none := by rw [← hr']
        have hdrop : r'.flights.drop (place + 1) = rest := by
          rw [hset, List.drop_set_of_lt (Nat.lt_succ_self place), htail]
        obtain ⟨hrest', hnone⟩ := ih hdrop (hnext r' hlanded.now
          (fun i hi => by rw [hset, List.getElem?_set_ne (Ne.symm hi)])
          fun g hg => by simp [hset, List.getElem?_set_self', hplace] at hg)
        exact ⟨hlanded.trans hrest', fun g hg => hlanded.now ▸ hnone g hg⟩
      · rename_i hends
        refine ih htail (hnext r rfl (fun _ _ => rfl) fun g hg => ?_)
        rw [hplace] at hg
        cases hg
        omega

/-! ## Steps -/

/-- What a step comes to: less to do, or an end of the pump. -/
def Progresses (r : PipeRun) : PipeRun × Option PipeEnd → Prop
  | (r', none) => Tracked r' ∧ r'.setting = r.setting ∧ r'.left < r.left
  | (_, some ending) => ending ≠ .unfinished

/-- Taking the oldest result is some progress. -/
theorem Tracked.settle (h : Tracked r) {line : Bytes} {result : Except StageError Record}
    {rest : List Slot} (hs : r.pump.slots = ⟨line, some result⟩ :: rest)
    (failures : List StageError) :
    Progresses r ({ r with
      pump := r.pump.settle result rest, flights := r.flights.drop 1, failures }, none) := by
  have hlength := h.length
  rw [hs, List.length_cons] at hlength
  refine ⟨⟨?_, fun place slot hslot hnone => ?_⟩, rfl, ?_⟩
  · rw [PumpLoop.slots_settle, List.length_drop, hlength]
    omega
  · rw [PumpLoop.slots_settle] at hslot
    obtain ⟨f, hf⟩ := h.awaited (place + 1) slot (by rw [hs]; exact hslot) hnone
    exact ⟨f, by rw [List.getElem?_drop, Nat.add_comm, hf]⟩
  · obtain ⟨first, flights, hflights⟩ := List.exists_cons_of_length_eq_add_one hlength
    have := flightLeft_pos r.now first
    simp only [left, flightsLeft, PumpLoop.unread_settle, PumpLoop.ended_settle, hflights,
      List.drop_one, List.tail_cons, List.map_cons, List.sum_cons]
    omega

/-- Making a request of a line is some progress. -/
theorem Tracked.launch (h : Tracked r) {line : Bytes} {unread : List Bytes} (content : Bytes)
    (hu : r.pump.unread = line :: unread) :
    Progresses r (r.launch content
      { r.pump with unread, slots := r.pump.slots ++ [{ line := content }] }, none) := by
  generalize hlaunched : r.launch content _ = r'
  obtain ⟨f, hflights⟩ : ∃ f, r'.flights = r.flights ++ [some f] := by
    subst hlaunched
    exact ⟨_, rfl⟩
  have hpump : r'.pump =
      { r.pump with unread, slots := r.pump.slots ++ [{ line := content }] } := by rw [← hlaunched]; rfl
  have hsetting : r'.setting = r.setting := by rw [← hlaunched]; rfl
  have hnow : r'.now = r.now := by rw [← hlaunched]; rfl
  have hlength := h.length
  refine ⟨⟨?_, fun place slot hslot hnone => ?_⟩, hsetting, ?_⟩
  · rw [hflights, hpump]
    simp [hlength]
  · rw [hpump] at hslot
    rw [hflights]
    rcases getElem?_concat_eq_some hslot with ⟨hlt, hslot⟩ | ⟨rfl, -⟩
    · obtain ⟨g, hg⟩ := h.awaited place slot hslot hnone
      exact ⟨g, (List.getElem?_append_left (by omega)).trans hg⟩
    · exact ⟨f, by rw [← h.length, List.getElem?_concat_length]⟩
  · have := flightLeft_le_two r.now (some f)
    simp only [left, flightsLeft, hpump, hsetting, hnow, hflights, hu, List.length_cons,
      List.map_append, List.map_cons, List.map_nil, List.sum_append, List.sum_cons, List.sum_nil]
    omega

/-- Waiting for the next moment is some progress, if nothing is due: a request or the shutdown comes
then. -/
theorem Tracked.wait (h : Tracked r) (hdue : ∀ f, some f ∈ r.flights → r.now < f.ends)
    (hshutdown : r.isShutDown = false) {now : Nat} (hnow : r.nextMoment? = some now) :
    Progresses r ({ r with now }, none) := by
  obtain ⟨hmem, -⟩ := List.min?_eq_some_iff.1 hnow
  refine ⟨⟨h.length, h.awaited⟩, rfl, ?_⟩
  have hless : ∀ later, r.now ≤ later →
      ({ r with now := later } : PipeRun).flightsLeft ≤ r.flightsLeft :=
    fun later hle => List.sum_le_sum fun f _ => flightLeft_anti hle f
  simp only [List.mem_append, List.mem_filterMap, Option.map_eq_some_iff, Option.mem_toList] at hmem
  rcases hmem with ⟨_, hf, f, rfl, rfl⟩ | hcomes
  · have hlt := hdue f hf
    have hlands : ({ r with now := f.ends } : PipeRun).flightsLeft < r.flightsLeft := by
      refine List.sum_lt_sum _ _ (fun g _ => flightLeft_anti (Nat.le_of_lt hlt) g) ⟨some f, hf, ?_⟩
      simp [flightLeft, Nat.not_le.2 hlt]
    have hstill : (r.setting.shutdown.any (f.ends < ·)).toNat ≤
        (r.setting.shutdown.any (r.now < ·)).toNat := by
      cases r.setting.shutdown with
      | none => exact Nat.le_refl _
      | some moment =>
        by_cases hm : f.ends < moment
        · simp [hm, Nat.lt_trans hlt hm]
        · simp [hm]
    simp only [left]
    omega
  · have hlt : r.now < now := by simpa [isShutDown, hcomes] using hshutdown
    have hle := hless now (Nat.le_of_lt hlt)
    simp only [left, hcomes, Option.any_some, hlt, Nat.lt_irrefl, decide_true, decide_false,
      Bool.toNat_true, Bool.toNat_false]
    omega

theorem Landed.progresses {r' : PipeRun} (h : Landed r r') {next : PipeRun × Option PipeEnd}
    (hnext : Progresses r' next) : Progresses r next := by
  obtain ⟨last, ending⟩ := next
  cases ending with
  | none =>
    obtain ⟨htracked, hsetting, hlt⟩ := hnext
    exact ⟨htracked, hsetting.trans h.setting, h.left ▸ hlt⟩
  | some ending => exact hnext

/-- Every step is some progress. -/
theorem Tracked.step (h : Tracked r) (hc : 1 ≤ r.setting.concurrency) : Progresses r r.step := by
  obtain ⟨hlanded, hdue⟩ : Landed r (if r.isShutDown then r else r.land) ∧
      (r.isShutDown = false → ∀ f, some f ∈ (if r.isShutDown then r else r.land).flights →
        r.now < f.ends) := by
    cases r.isShutDown with
    | true => exact ⟨.refl r, nofun⟩
    | false =>
      obtain ⟨hlanded, hdue⟩ := landed_landFrom (rfl : r.flights.drop 0 = r.flights) nofun
      exact ⟨hlanded, fun _ => hdue⟩
  unfold PipeRun.step
  generalize (if r.isShutDown then r else r.land) = r₁ at hlanded hdue ⊢
  have hsame : r.isShutDown = r₁.isShutDown := by simp only [isShutDown, hlanded.setting, hlanded.now]
  rw [← hlanded.now, hsame] at hdue
  rw [← hlanded.setting] at hc
  have h₁ := hlanded.tracked h
  refine hlanded.progresses ?_
  dsimp only
  have ht := r₁.pump.turned r₁.setting.concurrency r₁.isShutDown
  have hwait : r₁.isShutDown = false → r₁.pump.turn r₁.setting.concurrency r₁.isShutDown = .wait →
      ∃ slot rest, r₁.pump.slots = slot :: rest ∧ slot.result = none := fun hs hw =>
    Pump.exists_pending_of_wait hc (hs ▸ hw)
  generalize r₁.pump.turn r₁.setting.concurrency r₁.isShutDown = t at ht hwait ⊢
  generalize hshutdown : r₁.isShutDown = shutdown at ht hdue hwait
  generalize r₁.setting.writeFault? r₁.pump.replied = fault
  cases ht with
  | stop _ => cases fault <;> exact nofun
  | unreadable _ _ _ => exact nofun
  | @settled line result rest hs =>
    cases result with
    | error e => exact h₁.settle hs _
    | ok record =>
      cases fault with
      | some message => exact nofun
      | none => exact h₁.settle hs r₁.failures
  | ended hreads _ => exact ⟨⟨h₁.length, h₁.awaited⟩, rfl, by simp [left, hreads.more, flightsLeft]⟩
  | blank _ hu _ => exact ⟨⟨h₁.length, h₁.awaited⟩, rfl, by simp [left, hu, flightsLeft]⟩
  | launched _ hu _ => exact h₁.launch _ hu
  | wait _ _ _ =>
    dsimp only
    cases hnext : r₁.nextMoment? with
    | some now => exact h₁.wait (hdue rfl) hshutdown hnext
    | none =>
      -- the oldest request is under way, so there is a next moment
      obtain ⟨slot, rest, hs, hnone⟩ := hwait rfl rfl
      obtain ⟨f, hf⟩ := h₁.awaited 0 slot (by rw [hs]; rfl) hnone
      have hmem : f.ends ∈ r₁.flights.filterMap fun f => f.map Flight.ends :=
        List.mem_filterMap.2 ⟨some f, List.mem_of_getElem? hf, rfl⟩
      rw [nextMoment?, List.min?_eq_none_iff, List.append_eq_nil_iff] at hnext
      rw [hnext.1] at hmem
      cases hmem

/-! ## Whole rehearsals -/

theorem Tracked.steps (h : Tracked r) (hc : 1 ≤ r.setting.concurrency) {fuel : Nat}
    (hfuel : r.left < fuel) : (PipeRun.steps fuel r).2 ≠ .unfinished := by
  induction fuel generalizing r with
  | zero => omega
  | succ fuel ih =>
    have hstep := h.step hc
    unfold PipeRun.steps
    generalize r.step = next at hstep
    obtain ⟨r', ending⟩ := next
    cases ending with
    | none =>
      obtain ⟨h', hsetting, hlt⟩ := hstep
      exact ih h' (hsetting ▸ hc) (by omega)
    | some ending => exact hstep

/-- A rehearsal of the pipe always comes to an end of the pump. -/
theorem run_ne_unfinished (setting : PipeSetting) (input : Bytes) (hc : 1 ≤ setting.concurrency) :
    (begin setting input).run.2 ≠ .unfinished := by
  have htracked : Tracked (begin setting input) := ⟨rfl, by simp [begin, Pump.ofInput]⟩
  refine htracked.steps hc ?_
  unfold left
  refine Nat.lt_of_le_of_lt (Nat.add_le_add_left (Bool.toNat_le _) _) ?_
  simp only [begin, Pump.ofInput, flightsLeft, List.map_nil, List.sum_nil, Bool.not_false,
    Bool.toNat_true]
  omega

end PipeRun
end ReplyStage
