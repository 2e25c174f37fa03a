import ReplyStage.Log.Filter
import ReplyStage.Rehearsal.Pipe
import ReplyStage.Settings.Environment
import ReplyStage.Stage.Connect
/-!
# The program

The program reads its settings from the environment, serves metrics if asked to, sets up the stage
and connects it, pumps its input through the stage, and closes the stage. Each step is taken only
if those before it worked, but a stage that was connected is closed however the pump ended; what
broke the pump is reported after that.
-/

namespace ReplyStage

/-- Why the pump is told to stop. -/
inductive Signal
  | interrupt
  | terminate
  deriving DecidableEq, Repr

/-- What the program finds around it: the network and the files, whether metrics can be served on
a port, the input, what the servers answer to a request when some were sent before it, when the
pump is told to stop, what goes wrong with a write when some replies were written before it, and
what goes wrong with closing the connection. -/
structure Host where
  surroundings : Surroundings Transport
  serveMetrics : Nat → Except String Unit
  input : Bytes := []
  respond : Nat → Request → Response := fun _ _ => .never
  signal : Option (Nat × Signal) := none
  writeFault? : Nat → Option String := fun _ => none
  closeFault? : Option StageError := none

/-- Why the program fails. -/
inductive LaunchError
  | pipeSettings (e : SettingError)
  | stageSettings (e : SettingError)
  | metrics (message : String)
  | startup (e : StageError)
  | input (fault : Text.Utf8.Malformed)
  | output (message : String)
  | unfinished
  deriving DecidableEq, Repr

/-- The sentences that report a failure, from the outermost to the root of it. -/
def LaunchError.chain : LaunchError → List String
  | .pipeSettings e => ["Invalid pipe configuration", e.message]
  | .stageSettings e => ["Invalid request/reply configuration", e.message]
  | .metrics message => ["Failed to start Prometheus exporter", message]
  | .startup e => ["Failed to start request/reply stage", e.message]
  | .input fault => ["Failed to read input", fault.message]
  | .output message => [message]
  | .unfinished => ["Input was not read to its end"]

/-- The result of a program whose pump ended like this. -/
def PipeEnd.result : PipeEnd → Except LaunchError Unit
  | .finished _ => .ok ()
  | .unreadable fault => .error (.input fault)
  | .unwritable message => .error (.output message)
  | .unfinished => .error .unfinished

/-- A step of the program that shows outside. -/
inductive Milestone
  | servedMetrics (port : Nat)
  | connected (transport : Transport)
  | sent (request : Request)
  | pumped (ending : PipeEnd)
  | closed (transport : Transport)
  deriving DecidableEq, Repr

/-- What a run of the program shows. -/
structure LaunchReport where
  milestones : List Milestone := []
  log : List LogEvent := []
  output : Bytes := []
  seen : List SentAt := []
  result : Except LaunchError Unit := .ok ()

/-- What the set-up leads to: a stage that is connected, and how many of its requests may be under
way. -/
structure Ready where
  stage : Stage
  transport : Transport
  concurrency : Nat

namespace Launch

/-- An event of the program itself. -/
def event (level : LogLevel) (message : String) (fields : List (String × Json)) : LogEvent :=
  ⟨level, "request_reply", message, fields⟩

/-- A count in the log. -/
def number (n : Nat) : Json := .number (.integer n)

def startingEvent (d : Deployment) : LogEvent :=
  event .info "Starting request/reply pipe"
    [("name", .string "request_reply"), ("version", .string "0.1.0"),
      ("environment", .string d.name)]

def metricsEvent (port : Nat) : LogEvent :=
  event .info "Prometheus metrics endpoint started" [("port", number port)]

def failureEvent (e : StageError) : LogEvent :=
  event .error "Record failed" [("error", .string e.message), ("kind", .string e.kind)]

def signalEvent : Signal → LogEvent
  | .interrupt => event .info "Received Ctrl+C, initiating shutdown..." []
  | .terminate => event .info "Received SIGTERM, initiating shutdown..." []

def droppedEvent (count : Nat) : LogEvent :=
  event .warn "Dropping in-flight requests on shutdown" [("pending", number count)]

def stoppedEvent (p : Pump) : LogEvent :=
  event .info "Request/reply pipe stopped"
    [("replied", number p.replied), ("failed", number p.failed)]

/-- The events of the pump. -/
def pumpEvents (host : Host) (r : PipeRun) (ending : PipeEnd) : List LogEvent :=
  let told :=
    if r.isShutDown then (host.signal.map fun signal => signalEvent signal.2).toList else []
  let dropped :=
    match ending with
    | .finished count => if count = 0 then [] else [droppedEvent count]
    | .unreadable _ | .unwritable _ | .unfinished => []
  r.failures.map failureEvent ++ told ++ dropped

/-- Sets up the stage and connects it. -/
def startStage (host : Host) (pipe : PipeSettings) (config : StageSettings) (before : LaunchReport) :
    LaunchReport × Except LaunchError Ready :=
  match Stage.connect host.surroundings Transport.headersSupported config with
  | (log, .error e) => ({ before with log := before.log ++ log }, .error (.startup e))
  | (log, .ok (stage, transport)) =>
    ({ before with
        milestones := before.milestones ++ [.connected transport]
        log := before.log ++ log },
      .ok ⟨stage, transport, pipe.concurrency⟩)

/-- Serves metrics if asked to, and goes on. -/
def startMetrics (host : Host) (pipe : PipeSettings) (config : StageSettings)
    (before : LaunchReport) : LaunchReport × Except LaunchError Ready :=
  match pipe.metricsPort with
  | none => startStage host pipe config before
  | some port =>
    match host.serveMetrics port with
    | .error message => (before, .error (.metrics message))
    | .ok () =>
      startStage host pipe config { before with
        milestones := before.milestones ++ [.servedMetrics port]
        log := before.log ++ [metricsEvent port] }

/-- Everything before the pump. Gives what has shown so far. -/
def setUp (host : Host) (env : Environment) : LaunchReport × Except LaunchError Ready :=
  let report := { log := [startingEvent (.ofEnvironment env)] }
  match PipeSettings.ofEnvironment env with
  | .error e => (report, .error (.pipeSettings e))
  | .ok pipe =>
    match StageSettings.ofEnvironment env with
    | .error e => (report, .error (.stageSettings e))
    | .ok config => startMetrics host pipe config report

/-- The pump and what is around it. -/
def pumpSetting (host : Host) (ready : Ready) : PipeSetting where
  stage := ready.stage
  connection := .connected ready.transport
  respond := host.respond
  concurrency := ready.concurrency
  shutdown := host.signal.map Prod.fst
  writeFault? := host.writeFault?

/-- Pumps the input through a stage that is connected, and closes it. -/
def pumpAndClose (host : Host) (ready : Ready) (before : LaunchReport) : LaunchReport :=
  let (r, ending) := (PipeRun.begin (pumpSetting host ready) host.input).run
  -- the stage is closed however the pump ended
  let closed := ManagedConnection.close { connection := .connected ready.transport } host.closeFault?
  let report := { before with
    milestones := before.milestones ++ r.seen.map (fun sent => .sent sent.request) ++
      .pumped ending :: closed.released.map Milestone.closed
    log := before.log ++ pumpEvents host r ending ++ closed.log ++ [ready.stage.closedEvent]
    output := r.pump.output
    seen := r.seen
    result := ending.result }
  match ending.result with
  | .ok () => { report with log := report.log ++ [stoppedEvent r.pump] }
  | .error _ => report

/-- Runs the program. -/
def run (host : Host) (env : Environment) : LaunchReport :=
  match setUp host env with
  | (report, .error e) => { report with result := .error e }
  | (report, .ok ready) => pumpAndClose host ready report

/-- The filter of the log: the one that the environment gives, or else the one of the
deployment. -/
def logFilter (env : Environment) : LogFilter :=
  match (env.text? "RUST_LOG").bind LogFilter.ofText? with
  | some filter => filter
  | none =>
    if (Deployment.ofEnvironment env).isProduction then .upTo .info else .upTo .debug

end Launch
end ReplyStage
