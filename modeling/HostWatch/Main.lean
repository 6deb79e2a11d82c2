import HostWatch.Console.CommandLine
import HostWatch.Console.Discovery
import HostWatch.Daemon.Station
import HostWatch.Host.Live
import Std.Time.DateTime.Timestamp

/-!
# The program

The console on the command line. A command is answered by a daemon that lives as long as the
command does: it reads its settings, measures the host twice, answers the one request and is gone.
Only this module touches the host; what is printed is decided elsewhere.
-/

namespace HostWatch.Console

/-! ## Reading the host -/

/-- What it means that a file could not be read. -/
def causeOf : IO.Error → OsError
  | .noFileOrDirectory .. => .notFound
  | .permissionDenied .. => .permissionDenied
  | .inappropriateType _ code _ => if code = 20 then .notADirectory else .isADirectory
  | _ => .invalidArgument

/-- The bytes of a file. -/
def readContent (path : String) : IO FileContent := do
  try
    return .ok (← IO.FS.readBinFile path).toList
  catch e =>
    return .error (causeOf e)

/-- The text of a file. -/
def readText (path : String) : IO FileText := do
  match ← readContent path with
  | .error cause => return .error cause
  | .ok bytes =>
    match Text.decode? bytes with
    | none => return .error .invalidText
    | some text => return .ok text

/-- The host as its kernel shows it now. Its disks and its package tools are not asked. -/
def readHost : IO Host := do
  return {
    stat := ← readText LiveHost.statPath
    memory := ← readText "/proc/meminfo"
    load := ← readText "/proc/loadavg"
    mounts := ← readText "/proc/mounts"
    size := fun _ => none
    run := fun _ => .missing }

/-- The time in milliseconds. -/
def readClock : IO Int := do
  return (← Std.Time.Timestamp.now).toMillisecondsSinceUnixEpoch.val

/-- What the console finds around it. -/
def readEnvironment : IO Environment := do
  let socket ← IO.getEnv "CORTEX_SOCKET"
  let runtimeDirectory ← IO.getEnv "XDG_RUNTIME_DIR"
  let places := Path.defaultSocket :: (userSocket? ⟨socket, runtimeDirectory, fun _ => false⟩).toList
  let found ← places.filterM fun path => return (← readContent path) matches .ok _
  return ⟨socket, runtimeDirectory, (found.contains ·)⟩

/-! ## A daemon for one command -/

/-- How long a monitor that takes its first measurement of the processor waits, in milliseconds. -/
def pause : Nat := 250

/-- What a daemon for one command starts with. -/
def launch (settings : SettingsSource) : Launch where
  settings := settings
  site := .database none
  surroundings := ⟨.ok (), .nothing, settings.current.server.socketGroup.toList⟩
  hasBackend := false
  log := .disabled
  ids := { name := toString }

/-- Runs the cycle of a daemon that has begun. A cycle that breaks off changes nothing. -/
def measured (s : DaemonStation LiveHost) : DaemonStation LiveHost :=
  match s.runCycle with
  | .ok (_, s) => s
  | .error _ => s

/-- Starts a daemon, with two measurements of the host. -/
def startDaemon (path : String) : IO (Except DaemonError (DaemonStation LiveHost)) := do
  let file ← readContent path
  match Daemon.settingsAt (← IO.getEnv "HOME") path file with
  | .error e => return .error e
  | .ok settings =>
    let clock ← readClock
    match (Daemon.start clock (launch settings)).1 with
    | .error e => return .error e
    | .ok server =>
      let first := measured ⟨clock, file, server, { host := ← readHost }⟩
      IO.sleep pause.toUInt32
      let second := { first with source.host := ← readHost, clock := ← readClock }
      return .ok (measured { second with server.desk.state := second.daemon.trigger })

/-- What a daemon answers to a request. -/
def answer (s : DaemonStation σ) (request : String) : Exchange :=
  .answered (((s.exchange [request.toUTF8.toList]).1.map (·.toUTF8.toList)).getD [])

/-! ## Words to the user -/

/-- How the program is called. -/
def usage : String :=
  "Usage: cortexctl [--socket PATH] [--json] COMMAND\n\n"
    ++ "Commands: ping, version, health, check, alerts, ack, dismiss, counts, config show,\n"
    ++ "          config reload, shutdown"

/-- What was wrong with the words, for people. -/
def Misuse.message : Misuse → String
  | helpWanted | nothingGiven => usage
  | versionWanted => "cortexctl " ++ consoleVersion
  | noCommand => "error: a command is missing"
  | unknownCommand => "error: there is no such command"
  | unknownArgument => "error: there is no such argument here"
  | valueMissing => "error: an option lacks its value"
  | valueRefused => "error: an option has a value that it does not understand"
  | valueUnwanted => "error: a flag has a value"
  | conflict => "error: two arguments do not go together"
  | targetMissing => "error: name an alert, or say --all"

/-- Prints what became of a command, and gives the status to end with. -/
def Printed.tell (p : Printed) : IO UInt32 := do
  IO.print p.out
  IO.eprint p.err
  return if p.failed then 1 else 0

/-- Says why words are no command, and gives the status to end with. -/
def Misuse.tell (m : Misuse) : IO UInt32 := do
  match m with
  | .helpWanted | .versionWanted =>
    IO.println m.message
    return 0
  | m =>
    IO.eprintln m.message
    return 2

/-- Runs what the user wants. -/
def Invocation.perform (i : Invocation) : IO UInt32 := do
  let settings := (← IO.getEnv "CORTEXD_CONFIG").getD Path.defaultSettings
  match ← startDaemon settings with
  | .error e => (Printed.failure ("failed to start with " ++ settings ++ ": " ++ e.message)).tell
  | .ok station =>
    let path := socketPath i.socket (← readEnvironment)
    (i.command.run path (← IO.getEnv "USER") (answer station) i.raw).tell

end HostWatch.Console

open HostWatch.Console in
/-- Runs the program with the words after its name. -/
def main (words : List String) : IO UInt32 :=
  match Invocation.ofWords words with
  | .error m => m.tell
  | .ok i => i.perform
