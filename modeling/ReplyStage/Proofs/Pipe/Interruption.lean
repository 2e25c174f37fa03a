import ReplyStage.Proofs.Pipe.Loop
/-!
# Runs that are cut short

A shutdown or a line that cannot be read ends the loop at any of its turns, with any requests under
way. Wherever that happens, what was written are the replies to the first lines, whole and in order,
and the counts are theirs.
-/

namespace ReplyStage.PumpLoop

variable {concurrency : Nat} {answer : Nat → Except StageError Record} {mayBreakOff : Bool}
  {input : Bytes} {l : PumpLoop}

/-- The loop is over at its end. -/
theorem not_step_of_ending {l' : PumpLoop} (h : l.ending ≠ none) :
    ¬ Step concurrency answer mayBreakOff l l' := by
  intro hstep
  cases hstep with
  | complete _ hrun _ _ => exact h hrun
  | turn _ hrun _ _ => exact h hrun
  | breaks _ hrun _ _ => exact h hrun

/-- The turn that sees the shutdown ends the loop. -/
theorem take_turn_shutdown (l : PumpLoop) (concurrency : Nat) :
    l.take (l.pump.turn concurrency true) =
      { l with ending := some (.finished l.pump.slots.length) } := by
  have ht := l.pump.turned concurrency true
  generalize l.pump.turn concurrency true = t at ht ⊢
  cases ht with
  | stop _ => rfl

/-- What ends the loop does nothing else. -/
theorem Step.eq_of_ending {l' : PumpLoop} (hstep : Step concurrency answer mayBreakOff l l')
    (h : l'.ending ≠ none) : ∃ e, l' = { l with ending := some e } := by
  cases hstep with
  | complete _ hrun _ _ => exact absurd hrun h
  | turn shutdown hrun _ _ =>
    have ht := l.pump.turned concurrency shutdown
    generalize l.pump.turn concurrency shutdown = t at ht h ⊢
    cases ht with
    | stop _ => exact ⟨_, rfl⟩
    | unreadable _ _ _ => exact ⟨_, rfl⟩
    | settled _ =>
      rw [ending_take_settled] at h
      exact absurd hrun h
    | ended _ _ => exact absurd hrun h
    | blank _ _ _ => exact absurd hrun h
    | launched _ _ _ => exact absurd hrun h
    | wait _ _ _ => exact absurd hrun h
  | breaks fault _ _ _ => exact ⟨_, rfl⟩

/-- What has been written is the beginning of what a run over the same lines writes that does not
break off. -/
theorem Inv.output_append {taken rest : List Bytes} {input' : Bytes} {concurrency' dropped : Nat}
    {l' : PumpLoop} (h : Inv concurrency answer mayBreakOff input l)
    (hreq : l.requests = (Lines.nonEmpty taken).map Record.ofPayload)
    (h' : Inv concurrency' answer false input' l') (hcut : Lines.cut input' = taken ++ rest)
    (he : l'.ending = some (.finished dropped)) :
    ∃ more, l'.pump.output = l.pump.output ++ written more := by
  obtain ⟨-, -, hsettled⟩ := h'.finished he
  have hle : l.settled ≤ l'.settled := by
    have := h.settled_le
    rw [hreq, List.length_map] at this
    rw [hsettled, hcut, Lines.nonEmpty_append, List.length_append]
    omega
  obtain ⟨more, hmore⟩ := Nat.exists_eq_add_of_le hle
  refine ⟨firstResults (fun i => answer (l.settled + i)) more, ?_⟩
  rw [h'.output, h.output, hmore, firstResults_add, written_append]

/-- In every state of every run: which lines have been read, what is under way, what has been
written and counted, and what an end at this point leaves. -/
theorem reachable_state (h : Reaches concurrency answer true input l) :
    ∃ taken, Lines.cut input = taken ++ l.pump.unread ∧
      (∀ line ∈ taken, ∃ content, Lines.read line = .ok content) ∧
      -- each line read so far that is not empty has become one request, in order
      l.requests = (Lines.nonEmpty taken).map Record.ofPayload ∧
      -- the first ones are settled, the queue holds the others, no more than the bound allows
      l.settled ≤ l.requests.length ∧
      l.pump.slots.map (fun slot => Record.ofPayload slot.line) = l.requests.drop l.settled ∧
      (∀ i slot r, l.pump.slots[i]? = some slot → slot.result = some r →
        r = answer (l.settled + i)) ∧
      l.requests.length - l.settled ≤ concurrency ∧
      -- output, counts and log are those of the settled ones
      l.pump.output = written (firstResults answer l.settled) ∧
      l.pump.replied = (firstResults answer l.settled).countP Except.isOk ∧
      l.failures = errors (firstResults answer l.settled) ∧
      l.pump.failed = l.failures.length ∧
      -- the shutdown ends the loop, whatever ends it changes nothing else, and nothing follows
      l.take (l.pump.turn concurrency true) =
        { l with ending := some (.finished l.pump.slots.length) } ∧
      (∀ l', Step concurrency answer true l l' → l'.ending ≠ none →
        ∃ e, l' = { l with ending := some e }) ∧
      (l.ending ≠ none → ∀ l', ¬ Step concurrency answer true l l') ∧
      -- a run over these lines and any others that is not interrupted only writes more replies
      ∀ input' rest concurrency' l' dropped, Lines.cut input' = taken ++ rest →
        Reaches concurrency' answer false input' l' → l'.ending = some (.finished dropped) →
        ∃ more, l'.pump.output = l.pump.output ++ written more := by
  have hinv := inv_of_reaches h
  obtain ⟨taken, hcut, hok, hreq⟩ := hinv.lines
  have hbound : l.requests.length - l.settled ≤ concurrency := by
    have := hinv.length_slots
    have := hinv.room
    omega
  refine ⟨taken, hcut, hok, hreq, hinv.settled_le, hinv.slots,
    fun i slot r hs hr => hinv.results i slot hs r hr, hbound, hinv.output, hinv.replied,
    hinv.failures, hinv.failed_eq, take_turn_shutdown l concurrency,
    fun l' hstep he => hstep.eq_of_ending he, fun he l' => not_step_of_ending he, ?_⟩
  intro input' rest concurrency' l' dropped hcut' h' he
  exact hinv.output_append hreq (inv_of_reaches h') hcut' he

/-! ## A run that is shut down -/

/-- The loop after a shutdown, with the first line answered and the second result not yet taken. -/
def interrupted : PumpLoop where
  pump :=
    { unread := []
      slots := [⟨[0x62], some (.error .closed)⟩]
      output := [0x31, 0x0A]
      replied := 1 }
  requests := [.ofPayload [0x61], .ofPayload [0x62]]
  ending := some (.finished 1)

/-- Two lines with an empty one between them; the later result comes first. -/
theorem reaches_interrupted :
    Reaches 2 firstAnswered true [0x61, 0x0A, 0x0A, 0x62, 0x0A] interrupted := by
  refine .head (.turn false rfl nofun ?_) ?_
  · exact fun h => nomatch (show Turn.launched _ _ = .wait from h)
  refine .head (.turn false rfl nofun ?_) ?_
  · exact fun h => nomatch (show Turn.passed _ = .wait from h)
  refine .head (.turn false rfl nofun ?_) ?_
  · exact fun h => nomatch (show Turn.launched _ _ = .wait from h)
  refine .head (.complete 1 rfl rfl rfl) ?_
  refine .head (.complete 0 rfl rfl rfl) ?_
  refine .head (.turn false rfl nofun ?_) ?_
  · exact fun h => nomatch (show Turn.settled _ _ = .wait from h)
  refine .head (.turn true rfl (fun _ => rfl) ?_) ?_
  · exact fun h => nomatch (show Turn.stop _ = .wait from h)
  exact .refl

theorem reachable_state_interrupted :
    Reaches 2 firstAnswered true [0x61, 0x0A, 0x0A, 0x62, 0x0A] interrupted ∧
      interrupted.requests.length - interrupted.settled ≤ 2 ∧
      interrupted.pump.output = written (firstResults firstAnswered interrupted.settled) ∧
      interrupted.pump.failed = interrupted.failures.length := by
  obtain ⟨_, _, _, _, _, _, _, hbound, houtput, _, _, hfailed, _⟩ :=
    reachable_state reaches_interrupted
  exact ⟨reaches_interrupted, hbound, houtput, hfailed⟩

end ReplyStage.PumpLoop
