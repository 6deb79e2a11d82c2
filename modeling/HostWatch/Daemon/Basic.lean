import HostWatch.Monitor.Cycle
import HostWatch.Rpc.Server
import HostWatch.Settings.File
import HostWatch.Shutdown

/-!
# The daemon

The state that the methods of the daemon work on: its settings, the monitor with the alert store,
the log, the signal to shut down, and the loop that runs the cycles of the monitor. A cycle begins
with the settings then in force and takes its measurements later; a check that is asked for
meanwhile is run after it, once, however often it was asked for.
-/

namespace HostWatch

/-- The loop that runs the cycles of the monitor. -/
structure MonitorLoop where
  /-- The settings of a cycle that has begun and has not measured yet. -/
  begun : Option Settings := none
  /-- Another cycle follows at once. -/
  again : Bool := false

namespace MonitorLoop

/-- Asks for a cycle with the settings in force. -/
def trigger (settings : Settings) (l : MonitorLoop) : MonitorLoop :=
  match l.begun with
  | none => { l with begun := some settings }
  | some _ => { l with again := true }

/-- The loop when the cycle that had begun has ended. -/
def next (settings : Settings) (l : MonitorLoop) : MonitorLoop :=
  if l.again then ⟨some settings, false⟩ else {}

end MonitorLoop

/-- The daemon. -/
structure Daemon where
  settings : SettingsSource
  watch : Watch
  log : LogHandle
  signal : ShutdownSignal := {}
  loop : MonitorLoop := {}

namespace Daemon

/-- What the daemon is called. -/
def name : String := "cortexd"

/-- The version of the daemon. -/
def version : String := "0.4.0"

/-- The alert store. -/
def store (d : Daemon) : Store := d.watch.store

/-- The daemon with another state of its store. -/
def withStore (d : Daemon) (store : Store) : Daemon := { d with watch := { d.watch with store } }

/-- Asks for a cycle. -/
def trigger (d : Daemon) : Daemon := { d with loop := d.loop.trigger d.settings.current }

/-- The published snapshot, with the counts of open alerts as they are now. -/
def health (d : Daemon) : Snapshot := d.watch.counted d.watch.monitor.snapshot

end Daemon

/-- The limiter and the daemon that it guards. -/
abbrev DaemonDesk := Rpc.Desk Daemon

/-- The server of a daemon. -/
abbrev DaemonServer := Rpc.Server Daemon

end HostWatch
