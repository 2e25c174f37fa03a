import ReplyStage.Launch
/-!
# Command line

The program as a process: it takes its settings from the environment, its input from standard
input, and writes replies to standard output and its log to standard error. Lean has no sockets, so
no server is within reach of it, and a stage that is set up reports just that.
-/

namespace ReplyStage.CommandLine

/-- The variables that hold settings. -/
def settingNames : List String := [
  "APP_ENV", "RUST_LOG", "METRICS_PORT", "NATS_URLS", "NATS_URL", "NATS_CONNECTION_NAME",
  "NATS_INBOX_PREFIX", "NATS_TLS_ENABLED", "NATS_TLS_ROOT_CAS", "NATS_TLS_CLIENT_CERT",
  "NATS_TLS_CLIENT_KEY", "NATS_USER", "NATS_PASSWORD", "NATS_TOKEN", "NATS_NKEY",
  "NATS_CREDENTIALS_FILE", "REQUEST_REPLY_SUBJECT", "REQUEST_REPLY_TIMEOUT",
  "REQUEST_REPLY_HEADERS", "REQUEST_REPLY_METADATA_PREFIXES", "REQUEST_REPLY_METADATA_PATTERNS",
  "REQUEST_REPLY_MAX_REPLY_BYTES", "REQUEST_REPLY_CONCURRENCY"]

/-- Reads the variables that are set. -/
def readEnvironment : IO Environment := do
  let values ← settingNames.filterMapM fun name => do
    return (← IO.getEnv name).map fun value => (name, value)
  return ⟨.ofList values⟩

/-- What is wrong with the credentials at a path. Without a network nobody reads them further than
to see that the file is there. -/
def credentialsFault (path : String) : IO (Option CredentialsError) := do
  try
    let _ ← IO.FS.readBinFile path
    return none
  catch
    | .noFileOrDirectory .. => return some .notFound
    | _ => return some .isDirectory

/-- The host of a process that reads the credentials named in its environment. -/
def host (env : Environment) : IO Host := do
  let fault ←
    match env.optional "NATS_CREDENTIALS_FILE" with
    | some path => credentialsFault path
    | none => pure none
  return {
    surroundings := {
      credentialsFault? := fun _ => fault
      reach := fun _ _ => .error "IO error: Network is unreachable (os error 101)" }
    serveMetrics := fun _ => .ok () }

/-- An event as a line of text. -/
def line (production : Bool) (e : LogEvent) : String :=
  if production then e.json.render
  else
    let fields := e.fields.map fun (name, value) => s!" {name}={value.plainText}"
    s!"{e.level.name} {e.message}{String.join fields}"

/-- Runs the program and gives its exit code. -/
def run : IO UInt32 := do
  let env ← readEnvironment
  let report := Launch.run (← host env) env
  let production := (Deployment.ofEnvironment env).isProduction
  let stderr ← IO.getStderr
  for event in report.log.filter (Launch.logFilter env).logs do
    stderr.putStrLn (line production event)
  let stdout ← IO.getStdout
  stdout.write ⟨report.output.toArray⟩
  stdout.flush
  match report.result with
  | .ok () => return 0
  | .error e =>
    for sentence in e.chain do
      stderr.putStrLn s!"Error: {sentence}"
    return 1

end ReplyStage.CommandLine

def main : IO UInt32 := ReplyStage.CommandLine.run
