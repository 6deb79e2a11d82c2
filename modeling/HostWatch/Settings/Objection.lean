import HostWatch.Decimal.Shortest
import HostWatch.Settings.Basic

/-!
# Settings that are refused

Every rule that settings have to keep, and what is said of settings that break it. Settings are
valid when nothing is to be said; otherwise the first objection counts.
-/

namespace HostWatch

/-- A rule that settings break. -/
inductive Objection where
  | noSocketPath
  | backlogBelowOne
  | noTimeout
  | noRequests
  | intervalOutOfRange
  | noUpdateCheck
  | noDatabasePath
  | limitOutOfRange (name : String) (value : Float)
  | warningAboveCritical (resource : String)
  | temperatureOutOfRange
  | noTokens
  | unknownLogLevel (text : String)

/-- The longest interval between cycles, in seconds: a day. -/
def maxInterval : Nat := 86400

/-- An objection in words. -/
def Objection.message : Objection → String
  | .noSocketPath => "server.socket_path is empty"
  | .backlogBelowOne => "server.socket_backlog must be >= 1"
  | .noTimeout => "server.request_timeout_ms must be > 0"
  | .noRequests => "server.max_requests_per_sec must be > 0"
  | .intervalOutOfRange => "monitor.interval_secs must be within 1..=" ++ toString maxInterval
  | .noUpdateCheck => "monitor.update_check_every must be > 0"
  | .noDatabasePath => "alerts.db_path is empty"
  | .limitOutOfRange name value =>
    "thresholds." ++ name ++ " must be within 0.0..=1.0, got "
      ++ Decimal.shortestText Decimal.Layout.plain value
  | .warningAboveCritical resource =>
    "thresholds." ++ resource ++ "_warning exceeds " ++ resource ++ "_critical"
  | .temperatureOutOfRange => "llm.temperature must be within 0.0..=2.0"
  | .noTokens => "llm.max_tokens must be > 0"
  | .unknownLogLevel text =>
    "log.level '" ++ text ++ "' is not one of trace, debug, info, warn, error"

/-- The rules for limits: each one is a fraction, and no warning is above its critical level. With
each objection goes whether it applies. -/
def Limits.rules (l : Limits) : List (Bool × Objection) :=
  ([("cpu_warning", l.cpuWarning), ("cpu_critical", l.cpuCritical),
      ("memory_warning", l.memoryWarning), ("memory_critical", l.memoryCritical),
      ("disk_warning", l.diskWarning), ("disk_critical", l.diskCritical)].map
    fun (name, x) => (!(0 ≤ x ∧ x ≤ 1), .limitOutOfRange name x))
  ++ ([("cpu", l.cpuWarning, l.cpuCritical), ("memory", l.memoryWarning, l.memoryCritical),
      ("disk", l.diskWarning, l.diskCritical)].map
    fun (resource, warning, critical) => (critical < warning, .warningAboveCritical resource))

namespace Settings

/-- The rules for settings, in the order in which they count. -/
def rules (s : Settings) : List (Bool × Objection) :=
  [(Text.Str.isAllBlank s.server.socketPath, .noSocketPath),
    (s.server.backlog < 1, .backlogBelowOne),
    (s.server.timeoutMs = 0, .noTimeout),
    (s.server.requestsPerSecond = 0, .noRequests),
    (s.monitor.intervalSeconds = 0 ∨ maxInterval < s.monitor.intervalSeconds,
      .intervalOutOfRange),
    (s.monitor.updateEvery = 0, .noUpdateCheck),
    (Text.Str.isAllBlank s.alerts.databasePath, .noDatabasePath)]
  ++ s.limits.rules
  ++ [(!(0 ≤ s.inference.temperature ∧ s.inference.temperature ≤ 2), .temperatureOutOfRange),
    (s.inference.maxTokens = 0, .noTokens),
    ((LogLevel.parse? s.log.level).isNone, .unknownLogLevel s.log.level)]

/-- The first objection that applies. -/
def objection? (s : Settings) : Option Objection := (s.rules.find? (·.1)).map (·.2)

/-- No objection applies. -/
def Valid (s : Settings) : Prop := ∀ rule ∈ s.rules, rule.1 = false

instance (s : Settings) : Decidable s.Valid := by unfold Valid; infer_instance

/-- The settings if they are valid, else the first objection. -/
def validated (s : Settings) : Except Objection Settings :=
  match s.objection? with
  | none => .ok s
  | some o => .error o

end Settings

end HostWatch
