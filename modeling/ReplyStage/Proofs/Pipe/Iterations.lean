import ReplyStage.Proofs.Pipe.Completion
import ReplyStage.Proofs.Pipe.Interruption
import ReplyStage.Proofs.Settings.Environment
/-!
# Iterations of the loop

How often the loop goes round. An iteration that does not end the loop takes a result, reads a line
or reads the end of the input, and each of these takes one from what is left: `turnsLeft` and the
iterations so far always add up to the same (`ReachesIn.add_turnsLeft`). So their number is bounded
by the input alone, and a loop that finishes has made exactly as many.
-/

namespace ReplyStage.PumpLoop

variable (concurrency : Nat) (answer : Nat → Except StageError Record) (mayBreakOff : Bool)

/-! ## Iterations -/

/-- The loop goes round once and goes on. -/
inductive Iterates : PumpLoop → PumpLoop → Prop
  | turn {l} : l.ending = none → l.pump.turn concurrency false ≠ .wait →
      (l.take (l.pump.turn concurrency false)).ending = none →
      Iterates l (l.take (l.pump.turn concurrency false))

/-- The states of the runs over an input, after a number of iterations that did not end the loop. -/
inductive ReachesIn (input : Bytes) : Nat → PumpLoop → Prop
  | begin : ReachesIn input 0 (begin input)
  | iterate {n l l'} : ReachesIn input n l → Iterates concurrency l l' →
      ReachesIn input (n + 1) l'
  | step {n l l'} : ReachesIn input n l → Step concurrency answer mayBreakOff l l' →
      ¬ Iterates concurrency l l' → ReachesIn input n l'

/-- The iterations left at most: each line is read, the end of the input is read, and the result of
each request under way or still to be made is taken. -/
def turnsLeft (l : PumpLoop) : Nat :=
  l.pump.unread.length + (Lines.nonEmpty l.pump.unread).length + (!l.pump.ended).toNat +
    l.pump.slots.length

variable {concurrency answer mayBreakOff} {input : Bytes} {n : Nat} {l l' : PumpLoop}

theorem Iterates.to_step (h : Iterates concurrency l l') :
    Step concurrency answer mayBreakOff l l' := by
  cases h with
  | turn hrun hne _ => exact .turn false hrun nofun hne

theorem reaches_iff_reachesIn : Reaches concurrency answer mayBreakOff input l ↔
    ∃ n, ReachesIn concurrency answer mayBreakOff input n l := by
  constructor
  · intro h
    induction h with
    | refl => exact ⟨0, .begin⟩
    | @tail l l' _ hstep ih =>
      obtain ⟨n, hn⟩ := ih
      by_cases hit : Iterates concurrency l l'
      · exact ⟨n + 1, hn.iterate hit⟩
      · exact ⟨n, hn.step hstep hit⟩
  · rintro ⟨n, h⟩
    induction h with
    | begin => exact .refl
    | iterate _ hit ih => exact ih.tail hit.to_step
    | step _ hstep _ ih => exact ih.tail hstep

/-! ## What an iteration takes from what is left -/

theorem length_nonEmpty_cons {line : Bytes} {rest : List Bytes} :
    (Lines.nonEmpty (line :: rest)).length =
      (Lines.nonEmpty [line]).length + (Lines.nonEmpty rest).length := by
  rw [← List.singleton_append, Lines.nonEmpty_append, List.length_append]

theorem Iterates.turnsLeft_eq (h : Iterates concurrency l l') :
    l.turnsLeft = l'.turnsLeft + 1 := by
  cases h with
  | turn hrun hne hgoes =>
    have ht := l.pump.turned concurrency false
    generalize l.pump.turn concurrency false = t at ht hne hgoes ⊢
    cases ht with
    | stop _ => cases hgoes
    | unreadable _ _ _ => cases hgoes
    | settled hs =>
      simp only [turnsLeft, pump_take_settled, unread_settle, ended_settle, slots_settle, hs,
        List.length_cons]
      omega
    | ended hr hu =>
      simp only [turnsLeft, take, hr.more, hu, Bool.not_false, Bool.not_true, Bool.toNat_true,
        Bool.toNat_false]
      omega
    | blank _ hu hb =>
      simp only [turnsLeft, take, hu, length_nonEmpty_cons, Lines.nonEmpty_blank hb,
        List.length_cons, List.length_nil]
      omega
    | launched _ hu hc =>
      -- the line that is read leaves its result to be taken
      simp only [turnsLeft, take, hu, length_nonEmpty_cons, Lines.nonEmpty_content hc,
        List.length_cons, List.length_nil, List.length_append]
      omega
    | wait _ _ _ => exact absurd rfl hne

/-- Other steps leave as much as there was. -/
theorem Step.turnsLeft_eq (h : Step concurrency answer mayBreakOff l l')
    (hnot : ¬ Iterates concurrency l l') : l'.turnsLeft = l.turnsLeft := by
  by_cases hgoes : l'.ending = none
  · cases h with
    | complete place _ _ _ => simp only [turnsLeft, Pump.complete, List.length_modify]
    | turn shutdown hrun _ hne =>
      cases shutdown with
      | false => exact absurd (.turn hrun hne hgoes) hnot
      | true =>
        rw [take_turn_shutdown] at hgoes
        cases hgoes
    | breaks _ _ _ _ => cases hgoes
  · obtain ⟨e, rfl⟩ := h.eq_of_ending hgoes
    rfl

/-- The iterations so far and those left are as many as the lines, the lines that are not empty and
the end of the input. -/
theorem ReachesIn.add_turnsLeft (h : ReachesIn concurrency answer mayBreakOff input n l) :
    n + l.turnsLeft = (Lines.cut input).length + (Lines.nonEmpty (Lines.cut input)).length + 1 := by
  induction h with
  | begin => simp [turnsLeft, PumpLoop.begin, Pump.ofInput]
  | iterate _ hit ih =>
    have := hit.turnsLeft_eq
    omega
  | step _ hstep hnot ih => rw [hstep.turnsLeft_eq hnot, ih]

/-! ## Progress -/

/-- A loop that is not at its end can read a line or has requests under way. -/
theorem reads_or_underway (hc : 1 ≤ concurrency)
    (h : ¬ (l.pump.ended = true ∧ l.pump.slots = [])) :
    (l.pump.ended = false ∧ l.pump.slots.length < concurrency) ∨ l.pump.slots ≠ [] := by
  by_cases hslots : l.pump.slots = []
  · have hended : l.pump.ended = false := by simpa [hslots] using h
    rw [hslots, List.length_nil]
    exact .inl ⟨hended, hc⟩
  · exact .inr hslots

/-- A loop that has taken every result and read the whole input has no iterations left. -/
theorem turnsLeft_eq_zero (hunread : l.pump.unread = []) (hended : l.pump.ended = true)
    (hslots : l.pump.slots = []) : l.turnsLeft = 0 := by
  simp [turnsLeft, hunread, hended, hslots, Lines.nonEmpty]

/-- Where a line ends the loop, it is the next one in the input. -/
theorem Reaches.unread_of_unreadable {fault : Text.Utf8.Malformed}
    (h : Reaches concurrency answer false input l) (he : l.ending = some (.unreadable fault)) :
    ∃ line rest, l.pump.unread = line :: rest ∧ Lines.read line = .error fault := by
  cases h with
  | refl => cases he
  | @tail before _ _ hstep =>
    cases hstep with
    | complete _ hrun _ _ => cases hrun.symm.trans he
    | turn shutdown hrun _ _ =>
      have ht := before.pump.turned concurrency shutdown
      generalize before.pump.turn concurrency shutdown = t at ht he ⊢
      cases ht with
      | stop _ => cases he
      | unreadable _ hu hfault =>
        cases he
        exact ⟨_, _, hu, hfault⟩
      | settled _ =>
        rw [ending_take_settled] at he
        cases hrun.symm.trans he
      | ended _ _ | blank _ _ _ | launched _ _ _ | wait _ _ _ => cases hrun.symm.trans he
    | breaks _ _ hbreak _ => cases hbreak

/-- The loop of a pipe whose settings come from an environment goes on until it ends, and it ends
after as many iterations as its input has work. -/
theorem iterations_bounded {env : Environment} {pipe : PipeSettings}
    (loads : PipeSettings.ofEnvironment env = .ok pipe)
    (answer : Nat → Except StageError Record) (mayBreakOff : Bool) (input : Bytes) :
    -- The bound on the requests under way is never zero.
    pipe.concurrency ≠ 0 ∧
    -- In no state of a run is the loop stuck: it can read or has requests under way, or it is at
    -- its end and stops.
    (∀ l, Reaches pipe.concurrency answer mayBreakOff input l → l.ending = none →
      (∃ l', Step pipe.concurrency answer mayBreakOff l l') ∧
      ((l.pump.ended = true ∧ l.pump.slots = [] ∧
          l.pump.turn pipe.concurrency false = .stop 0) ∨
        (l.pump.ended = false ∧ l.pump.slots.length < pipe.concurrency) ∨ l.pump.slots ≠ [])) ∧
    -- Each iteration that does not end the loop leaves less to do,
    (∀ l l', Iterates pipe.concurrency l l' → l'.turnsLeft < l.turnsLeft) ∧
    -- so there are not more of them than lines, lines that are not empty, and the end of the input,
    (∀ l, Reaches pipe.concurrency answer mayBreakOff input l ↔
      ∃ n, ReachesIn pipe.concurrency answer mayBreakOff input n l) ∧
    (∀ n l, ReachesIn pipe.concurrency answer mayBreakOff input n l →
      n ≤ (Lines.cut input).length + (Lines.nonEmpty (Lines.cut input)).length + 1) ∧
    -- and no run goes on for ever.
    (WellFounded fun l' l => Step pipe.concurrency answer mayBreakOff l l') ∧
    -- A run that is not broken off stops with nothing under way, after as many iterations, or at
    -- the first line that is no text.
    ∀ n l e, ReachesIn pipe.concurrency answer false input n l → l.ending = some e →
      (e = .finished 0 ∧ l.pump.slots = [] ∧
        n = (Lines.cut input).length + (Lines.nonEmpty (Lines.cut input)).length + 1) ∨
      ∃ before line after fault, Lines.cut input = before ++ line :: after ∧
        (∀ other ∈ before, ∃ content, Lines.read other = .ok content) ∧
        Lines.read line = .error fault ∧ e = .unreadable fault := by
  have hc : 1 ≤ pipe.concurrency := PipeSettings.concurrency_pos loads
  refine ⟨Nat.one_le_iff_ne_zero.mp hc, fun l _ hrun => ⟨exists_step hc hrun, ?_⟩,
    fun l l' h => ?_, fun l => reaches_iff_reachesIn, fun n l h => ?_, wellFounded_step,
    fun n l e h he => ?_⟩
  · by_cases hdone : l.pump.ended = true ∧ l.pump.slots = []
    · refine .inl ⟨hdone.1, hdone.2, ?_⟩
      rw [Pump.turn, if_pos ⟨hdone.1, by rw [hdone.2]; rfl⟩]
    · exact .inr (reads_or_underway hc hdone)
  · have := h.turnsLeft_eq
    omega
  · have := h.add_turnsLeft
    omega
  · have hreaches := reaches_iff_reachesIn.mpr ⟨n, h⟩
    have hinv := inv_of_reaches hreaches
    rcases hinv.ending rfl e he with ⟨rfl, hended, hslots⟩ | ⟨_, _, fault, rfl, _⟩
    · have hsum := h.add_turnsLeft
      rw [turnsLeft_eq_zero (hinv.ended hended) hended hslots, Nat.add_zero] at hsum
      exact .inl ⟨rfl, hslots, hsum⟩
    · obtain ⟨line, after, hunread, hfault⟩ := hreaches.unread_of_unreadable he
      obtain ⟨before, hcut, hread, -⟩ := hinv.lines
      exact .inr ⟨before, line, after, fault, hunread ▸ hcut, hread, hfault, rfl⟩

/-- For instance, at most two requests under way. -/
def twoAtATime : Environment := ⟨.ofList [("REQUEST_REPLY_CONCURRENCY", "2")]⟩

theorem ofEnvironment_twoAtATime :
    PipeSettings.ofEnvironment twoAtATime = .ok { concurrency := 2 } :=
  ok_of_toOption (by decide +kernel)

theorem iterations_bounded_two_lines :
    PipeSettings.ofEnvironment twoAtATime = .ok { concurrency := 2 } ∧
      (∀ n l, ReachesIn 2 firstAnswered true [0x61, 0x0A, 0x0A, 0x62] n l → n ≤ 6) ∧
      ∃ l, ReachesIn 2 firstAnswered false [0x61, 0x0A, 0x0A, 0x62] 6 l ∧
        l.ending = some (.finished 0) ∧ l.pump.slots = [] := by
  obtain ⟨-, -, -, -, hbound, -⟩ := iterations_bounded ofEnvironment_twoAtATime firstAnswered true
    [0x61, 0x0A, 0x0A, 0x62]
  obtain ⟨-, -, -, hreaches, -, -, hends⟩ := iterations_bounded ofEnvironment_twoAtATime
    firstAnswered false [0x61, 0x0A, 0x0A, 0x62]
  refine ⟨ofEnvironment_twoAtATime, hbound, ?_⟩
  obtain ⟨l, e, h, he⟩ := exists_ending (show 1 ≤ 2 by decide)
    (.refl : Reaches 2 firstAnswered false [0x61, 0x0A, 0x0A, 0x62] _)
  obtain ⟨n, hn⟩ := (hreaches l).mp h
  rcases hends n l e hn he with
    ⟨rfl, hslots, rfl⟩ | ⟨before, line, after, fault, hcut, -, hfault, -⟩
  · exact ⟨l, hn, he, hslots⟩
  · have hreadable : ∀ other ∈ Lines.cut [0x61, 0x0A, 0x0A, 0x62],
        (Lines.read other).toOption.isSome = true := by decide
    have hsome := hreadable line (by simp [hcut])
    rw [hfault] at hsome
    cases hsome

/-- The loop with a line that is no text in front and a request under way. -/
def beforeFault : PumpLoop where
  pump := { unread := [[0xFF, 0x0A]], slots := [⟨[0x61], none⟩] }
  requests := [.ofPayload [0x61]]

/-- At a line that is no text the loop ends with requests under way. -/
theorem underway_at_fault : PipeSettings.ofEnvironment twoAtATime = .ok { concurrency := 2 } ∧
    ¬ ∀ n l e, ReachesIn 2 firstAnswered false [0x61, 0x0A, 0xFF, 0x0A] n l →
      l.ending = some e → l.pump.slots = [] := by
  refine ⟨ofEnvironment_twoAtATime, fun hempty => ?_⟩
  have hreads : Iterates 2 (begin [0x61, 0x0A, 0xFF, 0x0A]) beforeFault := .turn rfl nofun rfl
  have hends : Step 2 firstAnswered false beforeFault
      { beforeFault with ending := some (.unreadable ⟨0, some 1⟩) } := .turn false rfl nofun nofun
  have hnot : ¬ Iterates 2 beforeFault
      { beforeFault with ending := some (.unreadable ⟨0, some 1⟩) } := fun hgoes => by
    have hlt := hgoes.turnsLeft_eq
    exact absurd hlt (by decide)
  exact absurd (hempty 1 _ _ ((ReachesIn.begin.iterate hreads).step hends hnot) rfl) nofun

end ReplyStage.PumpLoop
