import ReplyStage.Proofs.Launch.Rehearsal
import ReplyStage.Proofs.Launch.SetUp
import ReplyStage.Proofs.Settings.Environment
/-!
# What the program opens it closes

The program in service can be disturbed at any moment: by a shutdown, or by reading or writing that
fails. Whatever happens, it connects only after all that can be checked before, and a connection that
it opened is closed once, after the pump. `Shows` is what a run of the program has shown and returned
so far, and `Since` what that can be once it has connected.
-/

namespace ReplyStage

namespace Launch

variable {host : Host} {env : Environment} {trace : List Milestone}
  {result : Option (Except LaunchError Unit)}

/-- What a run has shown and returned at some moment. A set-up that fails returns at once. -/
inductive Shows (host : Host) (env : Environment) :
    List Milestone → Option (Except LaunchError Unit) → Prop
  | refuses {report e} : setUp host env = (report, .error e) →
      Shows host env report.milestones (some (.error e))
  | serves {report ready s} : setUp host env = (report, .ok ready) →
      Service.Reaches true ready host.input s → Shows host env (report.milestones ++ s.trace) s.result

/-- What can have shown since a transport was connected, and been returned: requests, then the end of
the pump, then the end of the connection. Only then is it returned what the pump came to. -/
inductive Since (transport : Transport) (requests : List Request) :
    List Milestone → Option (Except LaunchError Unit) → Prop
  | pumping : Since transport requests (requests.map .sent) none
  | pumped (ending : PipeEnd) :
      Since transport requests (requests.map .sent ++ [.pumped ending]) none
  | closed (ending : PipeEnd) : Since transport requests
      (requests.map .sent ++ [.pumped ending, .closed transport]) none
  | returned (ending : PipeEnd) : Since transport requests
      (requests.map .sent ++ [.pumped ending, .closed transport]) (some ending.result)

theorem since_of_stands {ready : Ready} {s : Service} (h : Service.Stands ready s) :
    ∃ requests, Since ready.transport requests s.trace s.result := by
  rcases h with h | ⟨ending, requests, h⟩
  · obtain ⟨requests, hshown⟩ := h.shown
    refine ⟨requests, ?_⟩
    rw [hshown, h.unreturned]
    exact .pumping
  · refine ⟨requests, ?_⟩
    cases h.closing with
    | unasked _ _ htrace hresult | asked _ _ htrace hresult =>
      rw [htrace, hresult]
      exact .pumped ending
    | begun _ htrace hresult =>
      rw [htrace, hresult]
      exact .closed ending
    | completed _ htrace hresult =>
      rw [htrace]
      rcases hresult with hresult | hresult <;> rw [hresult]
      · exact .closed ending
      · exact .returned ending

theorem Since.not_connected {transport : Transport} {requests : List Request}
    (h : Since transport requests trace result) (other : Transport) : .connected other ∉ trace := by
  cases h <;> simp

/-- What a run is, by how far its set-up came. -/
theorem Shows.cases (h : Shows host env trace result) :
    ((∀ pipe config stage, ¬ Prepared host env pipe config stage) ∧
      ∃ report e, Refused host env report e ∧ trace = report.milestones ∧ result = some (.error e)) ∨
    ∃ pipe config stage, Prepared host env pipe config stage ∧
      ((∃ fault, dialed host config = .error fault ∧ trace = metricsMilestones pipe ∧
        result = some (.error (.startup fault))) ∨
      ∃ transport requests since, dialed host config = .ok transport ∧
        trace = metricsMilestones pipe ++ .connected transport :: since ∧
        Since transport requests since result) := by
  cases h with
  | refuses hsetUp =>
    rcases setUp_error hsetUp with
      ⟨hnot, hrefused⟩ | ⟨pipe, config, stage, fault, hprepared, hdial, rfl, hmilestones⟩
    · exact .inl ⟨hnot, _, _, hrefused, rfl, rfl⟩
    · exact .inr ⟨pipe, config, stage, hprepared, .inl ⟨fault, hdial, hmilestones, rfl⟩⟩
  | serves hsetUp hreach =>
    obtain ⟨pipe, config, stage, hprepared, hdial, -, hmilestones⟩ := setUp_ok hsetUp
    obtain ⟨requests, hsince⟩ := since_of_stands (Service.stands_of_reaches hreach)
    refine .inr ⟨pipe, config, stage, hprepared, .inr ⟨_, requests, _, hdial, ?_, hsince⟩⟩
    rw [hmilestones, List.append_assoc, List.singleton_append]

theorem concurrency_pos {report : LaunchReport} {ready : Ready}
    (h : setUp host env = (report, .ok ready)) : 1 ≤ ready.concurrency := by
  obtain ⟨pipe, config, stage, hprepared, -, hready, -⟩ := setUp_ok h
  rw [hready]
  exact PipeSettings.concurrency_pos hprepared.pipeLoads

/-- The program as it runs is one of these runs, to its end. -/
theorem shows_run (host : Host) (env : Environment) :
    Shows host env (run host env).milestones (some (run host env).result) := by
  obtain ⟨report, outcome, hsetUp⟩ : ∃ report outcome, setUp host env = (report, outcome) := ⟨_, _, rfl⟩
  rw [run, hsetUp]
  cases outcome with
  | error e =>
    show Shows host env report.milestones (some (.error e))
    exact .refuses hsetUp
  | ok ready =>
    obtain ⟨s, hreach, hmilestones, hresult⟩ := exists_service host report (concurrency_pos hsetUp)
    show Shows host env (pumpAndClose host ready report).milestones _
    rw [hmilestones, ← hresult]
    exact .serves hsetUp hreach

theorem result_error_iff {ending : PipeEnd} :
    (∃ e, ending.result = .error e) ↔ ∀ dropped, ending ≠ .finished dropped := by
  cases ending <;> simp [PipeEnd.result]

/-- The program returns an error exactly if it could not be prepared, the connection did not open or
the pump did not finish. -/
theorem Shows.error_iff {result : Except LaunchError Unit} (h : Shows host env trace (some result)) :
    (∃ e, result = .error e) ↔
      (∀ pipe config stage, ¬ Prepared host env pipe config stage) ∨
      (∃ pipe config stage fault, Prepared host env pipe config stage ∧
        dialed host config = .error fault) ∨
      ∃ ending, .pumped ending ∈ trace ∧ ∀ dropped, ending ≠ .finished dropped := by
  rcases h.cases with ⟨hnot, report, e, -, -, hresult⟩ | ⟨pipe, config, stage, hprepared, hrun⟩
  · cases hresult
    exact ⟨fun _ => .inl hnot, fun _ => ⟨e, rfl⟩⟩
  rcases hrun with ⟨fault, hdial, -, hresult⟩ | ⟨transport, requests, since, hdial, rfl, hsince⟩
  · cases hresult
    exact ⟨fun _ => .inr (.inl ⟨pipe, config, stage, fault, hprepared, hdial⟩), fun _ => ⟨_, rfl⟩⟩
  · cases hsince with
    | returned ending =>
      have hpumped : ∀ other, .pumped other ∈ metricsMilestones pipe ++ .connected transport ::
          (requests.map Milestone.sent ++ [.pumped ending, .closed transport]) ↔ other = ending := by
        intro other
        simp [metricsMilestones]
      rw [result_error_iff]
      constructor
      · exact fun hfails => .inr (.inr ⟨ending, (hpumped ending).2 rfl, hfails⟩)
      · rintro (hnot | ⟨pipe', config', stage', fault, hprepared', hdial'⟩ | ⟨other, hmem, hfails⟩)
        · exact absurd hprepared (hnot pipe config stage)
        · have hconfig := hprepared.configLoads.symm.trans hprepared'.configLoads
          cases hconfig
          rw [hdial] at hdial'
          cases hdial'
        · rwa [(hpumped other).1 hmem] at hfails

/-- What the program does with its connection, in every run and wherever the run stands. -/
theorem connection_closed_once (host : Host) (env : Environment) :
    -- The network is used only once both kinds of settings have loaded, metrics are served if they
    -- are asked for, and the stage builds. If one of these steps fails, it makes no difference.
    (∀ c, connectingEvent c ∈ (setUp host env).1.log →
      ∃ pipe config stage, Prepared host env pipe config stage) ∧
    ((∀ pipe config stage, ¬ Prepared host env pipe config stage) →
      ∀ surroundings, setUp { host with surroundings } env = setUp host env) ∧
    -- Since the transport was connected there were requests, then the pump ended, then the transport
    -- was closed, once, and only then the program returned what the pump came to.
    (∀ trace result transport, Shows host env trace result → .connected transport ∈ trace →
      ∃ pipe config stage, Prepared host env pipe config stage ∧
        dialed host config = .ok transport ∧ ∃ requests since,
          trace = metricsMilestones pipe ++ .connected transport :: since ∧
          Since transport requests since result) ∧
    -- It returns an error exactly if one of those steps failed, the connection did not open or the
    -- pump did not finish.
    (∀ trace result, Shows host env trace (some result) →
      ((∃ e, result = .error e) ↔
        (∀ pipe config stage, ¬ Prepared host env pipe config stage) ∨
        (∃ pipe config stage fault, Prepared host env pipe config stage ∧
          dialed host config = .error fault) ∨
        ∃ ending, .pumped ending ∈ trace ∧ ∀ dropped, ending ≠ .finished dropped)) ∧
    -- In service, a shutdown may come at any moment. No run goes on for ever, and none stands still
    -- before it has returned, also if no shutdown comes and nothing fails.
    (∀ report ready, setUp host env = (report, .ok ready) →
      (∀ s, s.ending = none → Service.Step ready.concurrency true s
        (s.endPump (.finished s.pump.slots.length))) ∧
      (WellFounded fun s' s => Service.Reaches true ready host.input s ∧
        Service.Step ready.concurrency true s s') ∧
      ∀ s, Service.Reaches true ready host.input s → s.result = none →
        ∃ s', Service.Step ready.concurrency false s s') ∧
    -- What the program shows and returns when it is run, one of these runs does.
    Shows host env (run host env).milestones (some (run host env).result) := by
  refine ⟨fun c hmem => ?_, fun hnot surroundings => ?_, fun trace result transport h hmem => ?_,
    fun trace result h => h.error_iff, fun report ready hsetUp => ⟨fun s => Service.step_shutdown,
      Subrelation.wf (fun h => ⟨Service.stands_of_reaches h.1, h.2⟩) Service.wellFounded_step,
      fun s hreach => (Service.stands_of_reaches hreach).exists_step (concurrency_pos hsetUp)⟩,
    shows_run host env⟩
  · by_cases hprepared : ∃ pipe config stage, Prepared host env pipe config stage
    · exact hprepared
    · simp only [not_exists] at hprepared
      obtain ⟨report, e, hrefused⟩ := exists_refused hprepared
      rw [hrefused.setUp_eq] at hmem
      exact absurd hmem (hrefused.silent c)
  · obtain ⟨report, e, hrefused⟩ := exists_refused hnot
    rw [hrefused.anyNetwork, hrefused.setUp_eq]
  · rcases h.cases with ⟨-, report, e, hrefused, rfl, -⟩ | ⟨pipe, config, stage, hprepared, hrun⟩
    · obtain ⟨port, hport⟩ := hrefused.milestones _ hmem
      cases hport
    · rcases hrun with ⟨fault, -, rfl, -⟩ | ⟨other, requests, since, hdial, rfl, hsince⟩
      · simp [metricsMilestones] at hmem
      · obtain rfl : transport = other := by
          simpa [metricsMilestones, hsince.not_connected] using hmem
        exact ⟨pipe, config, stage, hprepared, hdial, requests, since, rfl, hsince⟩

/-- For instance, a host with three lines of input that is told to stop after five milliseconds. Only
the first request has its reply by then. -/
def terminatedHost : Host where
  surroundings := { credentialsFault? := fun _ => none, reach := fun _ _ => .ok {} }
  serveMetrics := fun _ => .ok ()
  input := [0x61, 0x0A, 0x62, 0x0A, 0x63, 0x0A]
  respond := fun sent request =>
    if sent = 0 then .after 2 (.ok { subject := "_INBOX", payload := request.payload }) else .never
  signal := some (5, .terminate)

example :
    let env : Environment :=
      ⟨.ofList [("REQUEST_REPLY_SUBJECT", "orders"), ("METRICS_PORT", "9090")]⟩
    (run terminatedHost env).milestones = [.servedMetrics 9090, .connected {}] ++
      [[0x61], [0x62], [0x63]].map
        (fun payload => .sent { subject := "orders", payload, headers := some (.ofList []) }) ++
      [.pumped (.finished 2), .closed {}] := by decide +kernel

end Launch
end ReplyStage
