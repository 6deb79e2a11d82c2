import HostWatch.Daemon.Methods
import HostWatch.Inference.Client

/-!
# The life of a daemon

Starting a daemon binds its socket, begins the first cycle of the monitor and opens the server. It
then serves connections and runs cycles until it is shut down, which lets a cycle that has begun
come to its end and discards what the inference backend has not answered.
-/

namespace HostWatch

/-- Why a daemon does not start. -/
inductive DaemonError where
  | settings (cause : SettingsError)
  | server (cause : Rpc.BindError)

/-- The error in words. -/
def DaemonError.message : DaemonError → String
  | .settings e => e.message
  | .server e => "IPC server: " ++ e.message

/-- What a daemon starts with. -/
structure Launch where
  settings : SettingsSource
  /-- What stands at the path of the alert database. -/
  site : Store.Site
  /-- What binding the socket finds. -/
  surroundings : Rpc.Surroundings
  /-- The steps of binding it that the system refuses. -/
  refusals : Rpc.Refusals := {}
  /-- There is a backend to ask about alerts. -/
  hasBackend : Bool
  log : LogHandle
  ids : IdSupply

namespace Daemon

/-- The settings that a daemon is given without a file. -/
def givenSettings (s : Settings) : Except DaemonError SettingsSource :=
  (s.validated.map SettingsSource.fixed).mapError fun o => .settings (.invalid o)

/-- The settings that a daemon finds in a file. -/
def settingsAt (home : Option String) (path : String) (content : FileContent) :
    Except DaemonError SettingsSource :=
  (SettingsSource.ofFile home path content).mapError .settings

/-- The daemon before its server is bound. -/
def ofLaunch (l : Launch) : Daemon where
  settings := l.settings
  watch :=
    { monitor := { hasBackend := l.hasBackend }
      store := .openOrInMemory l.settings.current.alerts.databasePath l.site
      ids := l.ids }
  log := l.log

/-- The monitor starts its loop, and with it a cycle, unless the loop is there already. -/
def startMonitor (d : Daemon) : Daemon :=
  if d.watch.monitor.looping then d
  else
    { d with
      watch.monitor := d.watch.monitor.start
      loop := ⟨some d.settings.current, false⟩ }

/-- Where the settings want the socket. -/
def socketOptions (s : ServerSettings) : Rpc.SocketOptions :=
  ⟨s.socketPath, s.backlog, s.socketGroup⟩

/-- Starts a daemon at a moment in milliseconds, and says what then stands at the path of its
socket. -/
def start (clock : Int) (l : Launch) : Except DaemonError DaemonServer × Rpc.Entry :=
  let server := l.settings.current.server
  match (socketOptions server).bind l.surroundings l.refusals with
  | (.error e, entry) => (.error (.server e), entry)
  | (.ok (), entry) =>
    (.ok {
      desk := ⟨.new clock server.requestsPerSecond, (ofLaunch l).startMonitor⟩
      timeoutMs := server.timeoutMs, running := true, entry }, entry)

/-- Runs the cycle that has begun, if there is one, beginning at a moment in milliseconds. -/
def runCycle [Sampler σ] (clock : Int) (source : σ) (d : Daemon) :
    Except CycleFault (Option Snapshot × Daemon × Int × σ) :=
  match d.loop.begun with
  | none => .ok (none, d, clock, source)
  | some settings =>
    match d.watch.cycle settings clock source with
    | .error e => .error e
    | .ok (watch, clock, source) =>
      .ok (some watch.monitor.snapshot,
        { d with watch, loop := d.loop.next d.settings.current }, clock, source)

/-- Stops the monitor: a cycle that has begun comes to its end, one that should follow does not
begin, and the backend's answers no longer count. -/
def stopMonitor [Sampler σ] (clock : Int) (source : σ) (d : Daemon) :
    Except CycleFault (Daemon × Int × σ) :=
  match runCycle clock source { d with watch := d.watch.clearRunning, loop.again := false } with
  | .error e => .error e
  | .ok (_, d, clock, source) =>
    .ok ({ d with watch := d.watch.leaveTasks.join (clock / 1000) (.failed "stopped") }, clock,
      source)

end Daemon

namespace DaemonServer

/-- Serves one connection, at a moment in milliseconds at which the file of settings has some
content. -/
def serve (clock : Int) (file : FileContent) (incoming : Rpc.Incoming) (s : DaemonServer) :
    Option String × DaemonServer :=
  Rpc.Server.serve (Daemon.methods (clock / 1000) file) clock incoming s

/-- Reloads the settings. -/
def reload (file : FileContent) (s : DaemonServer) :
    Except SettingsError Settings × DaemonServer :=
  let (result, desk) := reloadSettings file s.desk
  (result, { s with desk })

/-- Runs the cycle that has begun, if there is one. -/
def runCycle [Sampler σ] (clock : Int) (source : σ) (s : DaemonServer) :
    Except CycleFault (Option Snapshot × DaemonServer × Int × σ) :=
  (s.desk.state.runCycle clock source).map fun (snapshot, state, clock, source) =>
    (snapshot, { s with desk.state := state }, clock, source)

/-- Shuts the daemon down; a daemon that has been shut down stays as it is. -/
def shutdown [Sampler σ] (clock : Int) (source : σ) (s : DaemonServer) :
    Except CycleFault (DaemonServer × Int × σ) :=
  if s.running then
    (s.desk.state.stopMonitor clock source).map fun (state, clock, source) =>
      ({ s.stop with desk.state := state }.cleanup, clock, source)
  else .ok (s, clock, source)

end DaemonServer

end HostWatch
