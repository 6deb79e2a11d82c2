import HostWatch.Json.Shape
import HostWatch.LogLevel
import HostWatch.Monitor.Threshold
import HostWatch.Path

/-!
# Settings

What can be set in the file of the daemon, with the standard values, as data: how settings are
read and how they are written.
-/

namespace HostWatch

/-- How requests are served. -/
structure ServerSettings where
  socketPath : String := Path.defaultSocket
  /-- How many connections may wait to be accepted. -/
  backlog : Int := 16
  timeoutMs : Nat := 5000
  requestsPerSecond : Nat := 100
  /-- The group that may use the socket; anyone may if it is not set. -/
  socketGroup : Option String := none
  deriving DecidableEq

/-- How the host is watched. -/
structure MonitorSettings where
  intervalSeconds : Nat := 300
  /-- Updates are counted in every cycle whose index is a multiple of it. -/
  updateEvery : Nat := 5
  /-- How many alerts may be in the hands of the inference backend at a time. -/
  maxTasks : Nat := 8
  deriving DecidableEq

/-- How alerts are kept. -/
structure AlertSettings where
  databasePath : String := Path.defaultDatabase
  /-- Days after which a dismissed alert is deleted; zero keeps it. -/
  retentionDays : Nat := 0
  deriving DecidableEq

/-- The kinds of inference backend. -/
inductive Backend where
  | none
  | local
  | claude
  | openai
  deriving Repr, DecidableEq, Inhabited

namespace Backend

/-- Every kind of backend. -/
def all : List Backend := [none, «local», claude, openai]

/-- The name of a kind of backend. -/
def name : Backend → String
  | none => "none"
  | «local» => "local"
  | claude => "claude"
  | openai => "openai"

/-- How a kind of backend is read. -/
def shape : Json.Shape Backend := .choice (all.map fun b => (b.name, b))

end Backend

/-- How the inference backend is asked. -/
structure InferenceSettings where
  backend : Backend := .none
  /-- The address of the backend; the usual one of its kind when empty. -/
  endpoint : String := "http://127.0.0.1:8085"
  model : String := ""
  /-- The name of the environment variable with the key. -/
  keyVariable : String := ""
  timeoutSeconds : Nat := 180
  maxTokens : Nat := 150
  temperature : Float32 := 0.3

/-- What the daemon logs. -/
structure LogSettings where
  level : String := "info"
  deriving DecidableEq

/-- All settings of the daemon. -/
structure Settings where
  server : ServerSettings := {}
  monitor : MonitorSettings := {}
  limits : Limits := {}
  alerts : AlertSettings := {}
  inference : InferenceSettings := {}
  log : LogSettings := {}

/-! ## How settings are read -/

/-- How a part of the settings is read. -/
def ServerSettings.shape : Json.Shape ServerSettings :=
  (Json.Record.ofSettings "struct ServerConfig" {} [
    .of "socket_path" .string fun v s => { s with socketPath := v },
    .of "socket_backlog" (.integer "i32" (-2147483648) 2147483647) fun v s =>
      { s with backlog := v },
    .of "request_timeout_ms" (.natural "u64" 64) fun v s => { s with timeoutMs := v },
    .of "max_requests_per_sec" (.natural "u32" 32) fun v s => { s with requestsPerSecond := v },
    .of "socket_group" (.optional .string) fun v s => { s with socketGroup := v }]).shape

@[inherit_doc ServerSettings.shape]
def MonitorSettings.shape : Json.Shape MonitorSettings :=
  (Json.Record.ofSettings "struct MonitorConfig" {} [
    .of "interval_secs" (.natural "u64" 64) fun v s => { s with intervalSeconds := v },
    .of "update_check_every" (.natural "u64" 64) fun v s => { s with updateEvery := v },
    .of "max_enrichment_tasks" (.natural "usize" 64) fun v s => { s with maxTasks := v }]).shape

@[inherit_doc ServerSettings.shape]
def AlertSettings.shape : Json.Shape AlertSettings :=
  (Json.Record.ofSettings "struct AlertsConfig" {} [
    .of "db_path" .string fun v s => { s with databasePath := v },
    .of "retention_days" (.natural "u32" 32) fun v s => { s with retentionDays := v }]).shape

@[inherit_doc ServerSettings.shape]
def InferenceSettings.shape : Json.Shape InferenceSettings :=
  (Json.Record.ofSettings "struct LlmConfig" {} [
    .of "backend" Backend.shape fun v s => { s with backend := v },
    .of "endpoint" .string fun v s => { s with endpoint := v },
    .of "model" .string fun v s => { s with model := v },
    .of "api_key_env" .string fun v s => { s with keyVariable := v },
    .of "timeout_secs" (.natural "u64" 64) fun v s => { s with timeoutSeconds := v },
    .of "max_tokens" (.natural "u32" 32) fun v s => { s with maxTokens := v },
    .of "temperature" .float32 fun v s => { s with temperature := v }]).shape

@[inherit_doc ServerSettings.shape]
def LogSettings.shape : Json.Shape LogSettings :=
  (Json.Record.ofSettings "struct LogConfig" {} [
    .of "level" .string fun v s => { s with level := v }]).shape

/-- How settings are read. -/
def Settings.shape : Json.Shape Settings :=
  (Json.Record.ofSettings "struct Config" {} [
    .of "server" ServerSettings.shape fun v s => { s with server := v },
    .of "monitor" MonitorSettings.shape fun v s => { s with monitor := v },
    .of "thresholds" Limits.shape fun v s => { s with limits := v },
    .of "alerts" AlertSettings.shape fun v s => { s with alerts := v },
    .of "llm" InferenceSettings.shape fun v s => { s with inference := v },
    .of "log" LogSettings.shape fun v s => { s with log := v }]).shape

/-! ## How settings are written -/

/-- Settings as a JSON object. -/
def Settings.toJson (s : Settings) : Json :=
  .object [
    ("server", .object ([("socket_path", .str s.server.socketPath),
        ("socket_backlog", .int s.server.backlog), ("request_timeout_ms", .int s.server.timeoutMs),
        ("max_requests_per_sec", .int s.server.requestsPerSecond)]
      ++ (s.server.socketGroup.map fun g => ("socket_group", .str g)).toList)),
    ("monitor", .object [("interval_secs", .int s.monitor.intervalSeconds),
      ("update_check_every", .int s.monitor.updateEvery),
      ("max_enrichment_tasks", .int s.monitor.maxTasks)]),
    ("thresholds", .object s.limits.members),
    ("alerts", .object [("db_path", .str s.alerts.databasePath),
      ("retention_days", .int s.alerts.retentionDays)]),
    ("llm", .object [("backend", .str s.inference.backend.name),
      ("endpoint", .str s.inference.endpoint), ("model", .str s.inference.model),
      ("api_key_env", .str s.inference.keyVariable),
      ("timeout_secs", .int s.inference.timeoutSeconds),
      ("max_tokens", .int s.inference.maxTokens),
      ("temperature", .float s.inference.temperature.toFloat)]),
    ("log", .object [("level", .str s.log.level)])]

/-- The log level that settings name; the standard one if they name none. -/
def Settings.logLevel (s : Settings) : LogLevel := (LogLevel.parse? s.log.level).getD .info

end HostWatch
