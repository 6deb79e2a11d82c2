import HostWatch.Daemon.Life

/-!
# A daemon at its station

A daemon together with what it works with: the clock, the file of its settings and its source of
measurements. This is all that changes while clients call it and its monitor runs.
-/

namespace HostWatch

/-- A daemon with its clock, in milliseconds, the content of its file of settings and its source of
measurements. -/
structure DaemonStation (σ : Type) where
  clock : Int
  file : FileContent
  server : DaemonServer
  source : σ

namespace DaemonStation

/-- The time in seconds. -/
def now (s : DaemonStation σ) : Int := s.clock / 1000

/-- The daemon. -/
def daemon (s : DaemonStation σ) : Daemon := s.server.desk.state

/-- A client writes bytes, which arrive in some portions, and gets a reply, unless it wrote
nothing. -/
def exchange (s : DaemonStation σ) (portions : List (List UInt8)) :
    Option String × DaemonStation σ :=
  let (reply, server) := s.server.serve s.clock s.file (.ofArrivals portions)
  (reply, { s with server })

/-- Runs the cycle that has begun, if there is one. -/
def runCycle [Sampler σ] (s : DaemonStation σ) :
    Except CycleFault (Option Snapshot × DaemonStation σ) :=
  (s.server.runCycle s.clock s.source).map fun (snapshot, server, clock, source) =>
    (snapshot, { s with server, clock, source })

/-- Shuts the daemon down. -/
def shutdown [Sampler σ] (s : DaemonStation σ) : Except CycleFault (DaemonStation σ) :=
  (s.server.shutdown s.clock s.source).map fun (server, clock, source) =>
    { s with server, clock, source }

/-- Starts the monitor again. -/
def startMonitor (s : DaemonStation σ) : DaemonStation σ :=
  { s with server.desk.state := s.daemon.startMonitor }

end DaemonStation

end HostWatch
