import ReplyStage.Proofs.Stage.Shared
import ReplyStage.Rehearsal.Timeline
/-!
# Rehearsals of many callers are runs

A rehearsal moves a stage and its callers with a clock and with answers from scripts. It takes no
step that calls on the stage cannot take: what holds in every state that is reached holds at the end
of every rehearsal.
-/

namespace ReplyStage

open Shared

/-- What comes back for the requests of callers. -/
def Caller.respondAll (callers : List Caller) (id : Nat) (sending : Sending Transport) : Response :=
  match callers[id]? with
  | some c => c.respond sending.request
  | none => .never

namespace Timeline

/-- A rehearsal stands where steps of the calls lead to, and the results that it waits for are those
of the requests under way. -/
structure Follows (stage : Stage) (transport : Transport) (callers : List Caller) (t : Timeline) :
    Prop where
  same : t.callers = callers
  reaches : Reaches (Caller.respondAll callers)
    (Shared.begin stage Transport.headersSupported (.connected transport)) t.shared
  endings : ∀ id sending since ending, t.shared.phase id = .underway sending since →
    t.ending id = some ending →
    ending.result = (stage.conclude sending (Caller.respondAll callers id sending)).2

variable {stage : Stage} {transport : Transport} {callers : List Caller} {t : Timeline} {id : Nat}
  {c : Caller}

theorem follows_begin (stage : Stage) (transport : Transport) (callers : List Caller) :
    Follows stage transport callers (begin stage transport callers) :=
  ⟨rfl, .refl, fun _ _ _ _ hunder _ => nomatch hunder⟩

theorem Follows.stage_eq (h : Follows stage transport callers t) : t.shared.stage = stage :=
  (Reaches.stage_eq h.reaches).1

/-- A step of a call is a step of the rehearsal, unless it sets a request of the call under way. -/
theorem Follows.take {s : Shared Transport × List Nat} (h : Follows stage transport callers t)
    (hstep : Step (Caller.respondAll callers) id t.shared s.1)
    (hrest : ∀ sending since, s.1.phase id ≠ .underway sending since) :
    Follows stage transport callers (t.take id s) := by
  refine ⟨h.same, h.reaches.tail ⟨id, hstep⟩, fun i sending since ending hunder hending => ?_⟩
  obtain ⟨_, _, _, -, ht⟩ := effect_of_step hstep
  by_cases hi : i = id
  · subst hi
    exact absurd hunder (hrest sending since)
  · exact h.endings i sending since ending (ht.underway_other hi hunder) hending

theorem Follows.take_nothing (h : Follows stage transport callers t) (id : Nat) :
    Follows stage transport callers (t.take id (t.shared, [])) :=
  ⟨h.same, h.reaches, h.endings⟩

/-- A step of a call that sets its request under way is one of the rehearsal, with the result that
the caller then waits for. -/
theorem Follows.send {sending : Sending Transport} {since now : Duration} (ends millis : Nat)
    (h : Follows stage transport callers t) (hcall : ∃ call, t.shared.phase id = .admitted call)
    (hunder : (t.shared.run id now).1.phase id = .underway sending since) :
    Follows stage transport callers
      ({ t.take id (t.shared.run id now) with
        ending := fun i => if i = id then
          some ⟨ends, (stage.conclude sending (Caller.respondAll callers id sending)).2⟩
          else t.ending i }.setTimer millis id) := by
  obtain ⟨call, hcall⟩ := hcall
  have hrun : Step (Caller.respondAll callers) id t.shared (t.shared.run id now).1 :=
    .run now hcall
  obtain ⟨_, _, _, -, ht⟩ := effect_of_step hrun
  refine ⟨h.same, h.reaches.tail ⟨id, hrun⟩, fun i sending' since' ending hunder' hending => ?_⟩
  have hset : (if i = id then
      some (Ending.mk ends (stage.conclude sending (Caller.respondAll callers id sending)).2)
      else t.ending i) = some ending := hending
  by_cases hi : i = id
  · subst hi
    rw [if_pos rfl] at hset
    cases hset
    cases hunder.symm.trans hunder'
    rfl
  · rw [if_neg hi] at hset
    exact h.endings i sending' since' ending (ht.underway_other hi hunder') hset

/-- A call that ends sets no request under way. -/
theorem phase_finish_ne (s : Shared Transport) (outcome : Outcome) (sending : Sending Transport)
    (since : Duration) : (s.finish id outcome).1.phase id ≠ .underway sending since := by
  have hend : (s.finish id outcome).1.phase id = .finished outcome :=
    (takes_finish_silent outcome s.connection).phase_self rfl
  rw [hend]
  nofun

theorem respondAll_eq (hc : callers[id]? = some c) (sending : Sending Transport) :
    Caller.respondAll callers id sending = c.respond sending.request := by
  simp only [Caller.respondAll, hc]

theorem Follows.runCaller (h : Follows stage transport callers t) (hc : callers[id]? = some c) :
    Follows stage transport callers (t.runCaller id c) := by
  unfold Timeline.runCaller
  split
  · rename_i call hcall
    have hrun : Step (Caller.respondAll callers) id t.shared (t.shared.run id t.time).1 :=
      .run t.time hcall
    dsimp only
    split
    · rename_i sending since hunder
      have hstage : (t.take id (t.shared.run id t.time)).shared.stage = stage := by
        obtain ⟨_, _, _, -, ht⟩ := effect_of_step hrun
        exact ht.stage.trans h.stage_eq
      rw [hstage, ← respondAll_eq hc]
      exact h.send _ _ ⟨call, hcall⟩ hunder
    · rename_i held hclosing
      have hclose := h.take hrun fun _ _ hunder => by cases hclosing.symm.trans hunder
      refine hclose.take (.endClose hclosing) fun sending since => ?_
      simp only [endClose, hclosing]
      exact phase_finish_ne _ _ _ _
    · rename_i hnot _
      exact h.take hrun fun sending since hunder => hnot sending since hunder
  · exact h

theorem Follows.settleCaller (h : Follows stage transport callers t) (id : Nat) :
    Follows stage transport callers (t.settleCaller id) := by
  unfold Timeline.settleCaller
  split
  · rename_i ending hending
    split
    · cases hp : t.shared.phase id with
      | underway sending since =>
        have hresult := h.endings id sending since ending hp hending
        have hstep : Step (Caller.respondAll callers) id t.shared
            (t.shared.settle id t.time ending.result).1 := by
          rw [hresult, ← h.stage_eq]
          exact .settle t.time hp
        refine h.take hstep fun sending' since' => ?_
        simp only [settle, hp]
        cases ending.result with
        | ok r => exact phase_finish_ne _ _ _ _
        | error e => exact phase_finish_ne _ _ _ _
      | _ =>
        simp only [settle, hp]
        exact h.take_nothing id
    · exact h
  · exact h

theorem Follows.cancelCaller (h : Follows stage transport callers t) (id : Nat) (c : Caller) :
    Follows stage transport callers (t.cancelCaller id c) := by
  -- a call that has come and not ended is dropped
  have drops : (∀ outcome, t.shared.phase id ≠ .finished outcome) → t.shared.phase id ≠ .idle →
      t.shared.cancel id = t.shared.finish id .cancelled →
      Follows stage transport callers (t.take id (t.shared.cancel id)) := by
    intro hend hidle hfinish
    refine h.take (.cancel hend hidle) fun sending since => ?_
    rw [hfinish]
    exact phase_finish_ne _ _ _ _
  unfold Timeline.cancelCaller
  split
  · split
    · cases hp : t.shared.phase id with
      | idle | finished _ =>
        simp only [Shared.cancel, hp]
        exact h.take_nothing id
      | waiting _ | admitted _ | underway _ _ | closing _ =>
        exact drops (by rw [hp]; nofun) (by rw [hp]; nofun) (by simp only [Shared.cancel, hp])
    · exact h
  · exact h

/-! ## Whole rehearsals -/

theorem Follows.goOn (h : Follows stage transport callers t) (hc : callers[id]? = some c) :
    Follows stage transport callers (t.goOn id c) := by
  have hall := ((h.runCaller hc).settleCaller id).cancelCaller id c
  unfold Timeline.goOn noteFinished
  split
  · exact ⟨hall.same, hall.reaches, hall.endings⟩
  · exact hall

theorem Follows.come (h : Follows stage transport callers t) (hc : callers[id]? = some c)
    (hidle : t.shared.phase id = .idle) : Follows stage transport callers (t.come id c) := by
  have hcome : Follows stage transport callers (t.take id (t.shared.arrive id c.call)) := by
    refine h.take (.arrive c.call hidle) fun sending since hunder => ?_
    rcases (takes_arrive hidle c.call).phase id with he | ⟨call, -, he⟩
    · rw [hunder, move_self] at he
      cases he
    · rw [hunder] at he
      cases he
  have hgoes := hcome.goOn hc
  unfold Timeline.come
  split
  · dsimp only
    split
    · exact hgoes
    · exact ⟨hgoes.same, hgoes.reaches, hgoes.endings⟩
  · exact hgoes

theorem Follows.poll (h : Follows stage transport callers t) (id : Nat) :
    Follows stage transport callers (t.poll id) := by
  unfold Timeline.poll
  split
  · exact h
  · rename_i c hc
    rw [h.same] at hc
    split
    · rename_i hidle
      split
      · exact h.come hc hidle
      · exact ⟨h.same, h.reaches, h.endings⟩
    · exact h.goOn hc

theorem Follows.step {t' : Timeline} (h : Follows stage transport callers t)
    (hstep : t.step = some t') : Follows stage transport callers t' := by
  unfold Timeline.step at hstep
  split at hstep
  · rename_i id ready _
    cases hstep
    have hready : Follows stage transport callers { t with ready } :=
      ⟨h.same, h.reaches, h.endings⟩
    exact hready.poll id
  · split at hstep
    · cases hstep
    · cases hstep
      exact ⟨h.same, h.reaches, h.endings⟩

theorem Follows.steps (h : Follows stage transport callers t) (fuel : Nat) :
    Follows stage transport callers (steps fuel t) := by
  induction fuel generalizing t with
  | zero => exact h
  | succ fuel ih =>
    rw [Timeline.steps]
    split
    · rename_i hstep
      exact ih (h.step hstep)
    · exact h

/-- What callers come to in a rehearsal, steps of their calls can come to. -/
theorem reaches_run (stage : Stage) (transport : Transport) (callers : List Caller) :
    Reaches (Caller.respondAll callers)
      (Shared.begin stage Transport.headersSupported (.connected transport))
      (run stage transport callers).shared :=
  ((follows_begin stage transport callers).steps _).reaches

end Timeline
end ReplyStage
