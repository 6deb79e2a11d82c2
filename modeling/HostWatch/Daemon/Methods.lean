import HostWatch.Daemon.Params
import HostWatch.Daemon.Reload

/-!
# Methods of the daemon

What the daemon answers, and what each method changes: the settings, the alert store, the loop of
the monitor, or nothing.
-/

namespace HostWatch.Daemon

open Rpc (Handler HandlerTable Refusal Request)

/-! ## The daemon itself -/

/-- The daemon is there. -/
def ping : Handler Daemon := .reading fun _ _ => .ok (.object [("pong", .bool true)])

/-- Which version it is. -/
def tellVersion : Handler Daemon :=
  .reading fun _ _ => .ok (.object [("version", .str version), ("name", .str name)])

/-- The settings in force. -/
def getSettings : Handler Daemon := .reading fun _ d => .ok d.settings.current.toJson

/-- Reads the settings again. -/
def reload (file : FileContent) : Handler Daemon := fun _ desk =>
  match reloadSettings file desk with
  | (.ok _, desk) => (.done (.object [("reloaded", .bool true)]), desk)
  | (.error e, desk) =>
    (.refused (.config ("Failed to reload configuration: " ++ e.message)), desk)

/-- Asks the daemon to shut down. -/
def askShutdown : Handler Daemon :=
  .changing fun _ d =>
    (.ok (.object [("shutdown", .str "initiated")]), { d with signal := d.signal.request })

/-! ## Health -/

/-- The health of the host. -/
def getHealth : Handler Daemon := .reading fun _ d => .ok d.health.toJson

/-- Asks for a cycle, and gives the health of the host as it is before. -/
def checkHealth : Handler Daemon :=
  .changing fun _ d =>
    (.ok d.health.toJson, d.trigger)

/-! ## Alerts -/

/-- The alerts that the parameters ask for. -/
def listAlerts : Handler Daemon :=
  .reading fun r d => do
    let filter ← r.filter
    match d.store.list filter with
    | .error e => throw (.unavailable ("Alert store unavailable: " ++ e.message))
    | .ok alerts =>
      return .object [("alerts", .arr (alerts.map Alert.toJson)), ("count", .int alerts.length)]

/-- Totals and counts of open alerts, as they were read one after the other. -/
def countsJson (counts : Counts) (opened : OpenCounts) : Json :=
  .object [("info", .int counts.info), ("warning", .int counts.warning),
    ("error", .int counts.error), ("critical", .int counts.critical),
    ("total", .int counts.total), ("active", .int opened.active),
    ("acknowledged", .int opened.acknowledged)]

/-- How many alerts there are. -/
def countAlerts : Handler Daemon :=
  .reading fun _ d => .ok (countsJson d.store.counts d.store.openCounts)

/-- Changes the alerts that the parameters name. -/
def changeAlerts (done : String) (one : Store → String → Bool × Store)
    (all : Store → Nat × Store) : Handler Daemon :=
  .changing fun r d =>
    match r.target with
    | .error e => (.error e, d)
    | .ok .all =>
      let (n, store) := all d.store
      (.ok (.object [(done, .int n)]), d.withStore store)
    | .ok (.one id) =>
      let (changed, store) := one d.store id
      (.ok (.object [(done, .bool changed), ("id", .str id)]), d.withStore store)

/-- Acknowledges alerts. -/
def acknowledge (now : Int) : Handler Daemon :=
  changeAlerts "acknowledged" (·.acknowledge now) (·.acknowledgeAll now)

/-- Dismisses alerts. -/
def dismiss (now : Int) : Handler Daemon :=
  changeAlerts "dismissed" (·.dismiss now) (·.dismissAll now)

/-! ## All together -/

/-- The methods of the daemon at a moment at which the file of settings has some content. -/
def methods (now : Int) (file : FileContent) : HandlerTable Daemon :=
  .ofList [
    ("ping", ping), ("version", tellVersion), ("config.get", getSettings),
    ("config.reload", reload file), ("shutdown", askShutdown), ("health", getHealth),
    ("health.check", checkHealth), ("alerts", listAlerts), ("alerts.counts", countAlerts),
    ("alerts.acknowledge", acknowledge now), ("alerts.dismiss", dismiss now)]

end HostWatch.Daemon
