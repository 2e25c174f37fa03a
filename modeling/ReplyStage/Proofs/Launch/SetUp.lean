import ReplyStage.Launch
/-!
# Setting up

What has to work before the network is used, and what the set-up comes to then. If one of these
steps fails, the set-up is the same whatever the network is like.
-/

namespace ReplyStage.Launch

/-- What has to work before the network is used: both kinds of settings load, metrics are served if
they are asked for, and the stage builds. -/
structure Prepared (host : Host) (env : Environment) (pipe : PipeSettings) (config : StageSettings)
    (stage : Stage) : Prop where
  pipeLoads : PipeSettings.ofEnvironment env = .ok pipe
  configLoads : StageSettings.ofEnvironment env = .ok config
  metricsServed : ∀ port, pipe.metricsPort = some port → host.serveMetrics port = .ok ()
  stageBuilds : Stage.ofSettings config = .ok stage

/-- What opening the connection comes to. -/
def dialed (host : Host) (config : StageSettings) : Except StageError Transport :=
  (dial host.surroundings Transport.headersSupported config.connection).2

/-- The report at the beginning. -/
def firstReport (env : Environment) : LaunchReport :=
  { log := [startingEvent (.ofEnvironment env)] }

/-- The report once metrics are served, if they are asked for. -/
def withMetrics (pipe : PipeSettings) (before : LaunchReport) : LaunchReport :=
  match pipe.metricsPort with
  | none => before
  | some port =>
    { before with
      milestones := before.milestones ++ [.servedMetrics port]
      log := before.log ++ [metricsEvent port] }

/-- What shows before the network is used. -/
def metricsMilestones (pipe : PipeSettings) : List Milestone :=
  (pipe.metricsPort.map Milestone.servedMetrics).toList

variable {host : Host} {env : Environment} {pipe : PipeSettings} {config : StageSettings}
  {stage : Stage}

theorem milestones_withMetrics (pipe : PipeSettings) (env : Environment) :
    (withMetrics pipe (firstReport env)).milestones = metricsMilestones pipe := by
  unfold withMetrics metricsMilestones
  cases pipe.metricsPort <;> rfl

/-- The network is not mentioned at first. -/
theorem connecting_notMem_withMetrics (pipe : PipeSettings) (env : Environment)
    (c : ConnectionSettings) : connectingEvent c ∉ (withMetrics pipe (firstReport env)).log := by
  unfold withMetrics
  cases pipe.metricsPort <;>
    simp [firstReport, connectingEvent, startingEvent, metricsEvent, event]

/-! ## Step by step -/

theorem setUp_eq_startMetrics (hpipe : PipeSettings.ofEnvironment env = .ok pipe)
    (hconfig : StageSettings.ofEnvironment env = .ok config) :
    setUp host env = startMetrics host pipe config (firstReport env) := by
  rw [setUp, hpipe, hconfig]
  rfl

theorem startMetrics_of_served
    (h : ∀ port, pipe.metricsPort = some port → host.serveMetrics port = .ok ())
    (before : LaunchReport) :
    startMetrics host pipe config before = startStage host pipe config (withMetrics pipe before) := by
  unfold startMetrics withMetrics
  cases hport : pipe.metricsPort with
  | none => rfl
  | some port =>
    dsimp only
    rw [h port hport]

theorem startMetrics_of_error {port : Nat} {message : String} (hport : pipe.metricsPort = some port)
    (h : host.serveMetrics port = .error message) (before : LaunchReport) :
    startMetrics host pipe config before = (before, .error (.metrics message)) := by
  simp only [startMetrics, hport, h]

/-- A stage that does not build is reported before the network is used. -/
theorem startStage_of_error {e : StageError} (h : Stage.ofSettings config = .error e)
    (before : LaunchReport) :
    startStage host pipe config before = (before, .error (.startup e)) := by
  simp [startStage, Stage.connect, h]

theorem startStage_of_ok (h : Stage.ofSettings config = .ok stage) (before : LaunchReport) :
    ∃ log, startStage host pipe config before =
      match dialed host config with
      | .error e => ({ before with log }, .error (.startup e))
      | .ok transport =>
        ({ before with milestones := before.milestones ++ [.connected transport], log },
          .ok ⟨stage, transport, pipe.concurrency⟩) := by
  unfold startStage Stage.connect dialed
  rw [h]
  generalize dial host.surroundings Transport.headersSupported config.connection = dialing
  obtain ⟨log, opened⟩ := dialing
  cases opened <;> exact ⟨_, rfl⟩

/-! ## All of it -/

namespace Prepared

variable (h : Prepared host env pipe config stage)
include h

theorem setUp_eq : setUp host env = startStage host pipe config (withMetrics pipe (firstReport env)) := by
  rw [setUp_eq_startMetrics h.pipeLoads h.configLoads, startMetrics_of_served h.metricsServed]

/-- Once all that is prepared, the network decides. -/
theorem setUp_of_dial_error {e : StageError} (hdial : dialed host config = .error e) :
    ∃ report, setUp host env = (report, .error (.startup e)) ∧
      report.milestones = metricsMilestones pipe := by
  obtain ⟨log, hstart⟩ := startStage_of_ok h.stageBuilds
    (withMetrics pipe (firstReport env))
  rw [hdial] at hstart
  exact ⟨_, h.setUp_eq.trans hstart, milestones_withMetrics pipe env⟩

theorem setUp_of_dial_ok {transport : Transport} (hdial : dialed host config = .ok transport) :
    ∃ report, setUp host env = (report, .ok ⟨stage, transport, pipe.concurrency⟩) ∧
      report.milestones = metricsMilestones pipe ++ [.connected transport] := by
  obtain ⟨log, hstart⟩ := startStage_of_ok h.stageBuilds
    (withMetrics pipe (firstReport env))
  rw [hdial] at hstart
  refine ⟨_, h.setUp_eq.trans hstart, ?_⟩
  rw [← milestones_withMetrics pipe env]

end Prepared

/-- A set-up that fails without any use of the network. -/
structure Refused (host : Host) (env : Environment) (report : LaunchReport) (e : LaunchError) :
    Prop where
  anyNetwork : ∀ surroundings, setUp { host with surroundings } env = (report, .error e)
  silent : ∀ c, connectingEvent c ∉ report.log
  milestones : ∀ milestone ∈ report.milestones, ∃ port, milestone = .servedMetrics port

theorem Refused.setUp_eq {report : LaunchReport} {e : LaunchError}
    (h : Refused host env report e) : setUp host env = (report, .error e) :=
  h.anyNetwork host.surroundings

/-- Whatever is not prepared is refused. -/
theorem exists_refused (hnot : ∀ pipe config stage, ¬ Prepared host env pipe config stage) :
    ∃ report e, Refused host env report e := by
  have hsilent : ∀ c, connectingEvent c ∉ (firstReport env).log := by
    intro c
    simp [firstReport, connectingEvent, startingEvent, event]
  cases hpipe : PipeSettings.ofEnvironment env with
  | error e => exact ⟨_, _, fun _ => by rw [setUp, hpipe]; rfl, hsilent, nofun⟩
  | ok pipe =>
    cases hconfig : StageSettings.ofEnvironment env with
    | error e => exact ⟨_, _, fun _ => by rw [setUp, hpipe, hconfig]; rfl, hsilent, nofun⟩
    | ok config =>
      by_cases hserved : ∀ port, pipe.metricsPort = some port → host.serveMetrics port = .ok ()
      · cases hstage : Stage.ofSettings config with
        | error e =>
          refine ⟨withMetrics pipe (firstReport env), .startup e, fun surroundings => ?_,
            connecting_notMem_withMetrics pipe env, ?_⟩
          · rw [setUp_eq_startMetrics hpipe hconfig, startMetrics_of_served (by exact hserved),
              startStage_of_error hstage]
          · rw [milestones_withMetrics]
            simp [metricsMilestones]
        | ok stage => exact absurd ⟨hpipe, hconfig, hserved, hstage⟩ (hnot pipe config stage)
      · obtain ⟨port, hfails⟩ := Classical.not_forall.1 hserved
        obtain ⟨hport, hfails⟩ := Classical.not_imp.1 hfails
        cases hserve : host.serveMetrics port with
        | ok u => exact absurd hserve hfails
        | error message =>
          refine ⟨firstReport env, .metrics message, fun surroundings => ?_, hsilent, nofun⟩
          rw [setUp_eq_startMetrics hpipe hconfig, startMetrics_of_error hport (by exact hserve)]

/-- A set-up that works is prepared, and the connection opens. -/
theorem setUp_ok {report : LaunchReport} {ready : Ready}
    (h : setUp host env = (report, .ok ready)) :
    ∃ pipe config stage, Prepared host env pipe config stage ∧
      dialed host config = .ok ready.transport ∧
      ready = ⟨stage, ready.transport, pipe.concurrency⟩ ∧
      report.milestones = metricsMilestones pipe ++ [.connected ready.transport] := by
  by_cases hprepared : ∃ pipe config stage, Prepared host env pipe config stage
  · obtain ⟨pipe, config, stage, hprepared⟩ := hprepared
    cases hdial : dialed host config with
    | error e =>
      obtain ⟨_, hsetUp, -⟩ := hprepared.setUp_of_dial_error hdial
      rw [hsetUp] at h
      cases h
    | ok transport =>
      obtain ⟨_, hsetUp, hmilestones⟩ := hprepared.setUp_of_dial_ok hdial
      rw [hsetUp] at h
      cases h
      exact ⟨pipe, config, stage, hprepared, hdial, rfl, hmilestones⟩
  · simp only [not_exists] at hprepared
    obtain ⟨_, _, hrefused⟩ := exists_refused hprepared
    rw [hrefused.setUp_eq] at h
    cases h

/-- A set-up that fails was refused, or the connection does not open. -/
theorem setUp_error {report : LaunchReport} {e : LaunchError}
    (h : setUp host env = (report, .error e)) :
    ((∀ pipe config stage, ¬ Prepared host env pipe config stage) ∧ Refused host env report e) ∨
    ∃ pipe config stage fault, Prepared host env pipe config stage ∧
      dialed host config = .error fault ∧ e = .startup fault ∧
      report.milestones = metricsMilestones pipe := by
  by_cases hprepared : ∃ pipe config stage, Prepared host env pipe config stage
  · obtain ⟨pipe, config, stage, hprepared⟩ := hprepared
    cases hdial : dialed host config with
    | error fault =>
      obtain ⟨_, hsetUp, hmilestones⟩ := hprepared.setUp_of_dial_error hdial
      rw [hsetUp] at h
      cases h
      exact .inr ⟨pipe, config, stage, fault, hprepared, hdial, rfl, hmilestones⟩
    | ok transport =>
      obtain ⟨_, hsetUp, -⟩ := hprepared.setUp_of_dial_ok hdial
      rw [hsetUp] at h
      cases h
  · simp only [not_exists] at hprepared
    obtain ⟨_, _, hrefused⟩ := exists_refused hprepared
    have hsame := hrefused.setUp_eq
    rw [h] at hsame
    cases hsame
    exact .inl ⟨hprepared, hrefused⟩

end ReplyStage.Launch
