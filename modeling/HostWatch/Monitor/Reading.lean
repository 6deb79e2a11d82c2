import HostWatch.Health
import HostWatch.Host.Cpu
import HostWatch.OsError

/-!
# Readings

What a monitor cycle measures on a host, and the sources it measures with. Every measurement can
fail by itself; the others are taken all the same.
-/

namespace HostWatch

/-- Why a measurement is missing. -/
inductive SampleError where
  | unreadable (what : String) (cause : OsError)
  | unparsable (what : String)
  | unavailable (reason : String)
  deriving Repr, DecidableEq

/-- The error in words. -/
def SampleError.message : SampleError → String
  | .unreadable what cause => "cannot read " ++ what ++ ": " ++ cause.message
  | .unparsable what => "cannot parse " ++ what
  | .unavailable reason => reason

/-- Memory in bytes. -/
structure MemoryUse where
  used : Nat
  total : Nat
  deriving Repr, DecidableEq

/-- A disk, with its sizes in bytes. -/
structure DiskUse where
  mount : String
  used : Nat
  total : Nat
  deriving Repr, DecidableEq

/-- How many packages can be updated, and how many of the updates are for security. -/
structure UpdateCounts where
  pending : Nat := 0
  security : Nat := 0
  deriving Repr, DecidableEq

/-- A source of measurements. Taking one may change the source. -/
class Sampler (σ : Type) where
  cpu : σ → Except SampleError CpuCounters × σ
  cores : σ → Nat × σ
  memory : σ → Except SampleError MemoryUse × σ
  disk : σ → Except SampleError DiskUse × σ
  load : σ → Except SampleError Load × σ
  updates : σ → Except SampleError UpdateCounts × σ

/-- All that a cycle measured. -/
structure Readings where
  cpu : Except SampleError CpuCounters
  /-- A second reading, if there was no earlier one to compare the first with. -/
  cpuAgain : Option (Except SampleError CpuCounters)
  cores : Nat
  memory : Except SampleError MemoryUse
  disk : Except SampleError DiskUse
  load : Except SampleError Load
  /-- There is none in a cycle that does not count updates. -/
  updates : Option (Except SampleError UpdateCounts)

namespace Readings

/-- Time between two readings of the processor in one cycle, in milliseconds. -/
def cpuGap : Nat := 250

/-- How long the cycle waited while measuring, in milliseconds. -/
def waited (r : Readings) : Nat := if r.cpuAgain.isSome then cpuGap else 0

/-- Measures everything; the updates only when they are `due`. The processor is read twice if there
is no `earlier` reading. -/
def take [Sampler σ] (earlier : Option CpuCounters) (due : Bool) (source : σ) : Readings × σ :=
  let (cpu, source) := Sampler.cpu source
  let (cpuAgain, source) :=
    match cpu, earlier with
    | .ok _, none => let (again, source) := Sampler.cpu source; (some again, source)
    | _, _ => (none, source)
  let (cores, source) := Sampler.cores source
  let (memory, source) := Sampler.memory source
  let (disk, source) := Sampler.disk source
  let (load, source) := Sampler.load source
  let (updates, source) :=
    if due then let (updates, source) := Sampler.updates source; (some updates, source)
    else (none, source)
  ({ cpu, cpuAgain, cores, memory, disk, load, updates }, source)

/-- The two readings of the processor whose difference counts, the earlier one first. -/
def cpuSpan (earlier : Option CpuCounters) (r : Readings) : Option (CpuCounters × CpuCounters) :=
  match r.cpu, earlier, r.cpuAgain with
  | .error _, _, _ => none
  | .ok now, some earlier, _ => some (earlier, now)
  | .ok now, none, some (.ok later) => some (now, later)
  | .ok now, none, _ => some (now, now)

end Readings

/-- The snapshot that readings make. What could not be measured stays as it was. -/
def Snapshot.next (previous : Snapshot) (earlier : Option CpuCounters) (r : Readings) : Snapshot :=
  let s := previous
  let s := match r.cpuSpan earlier with
    | some (earlier, now) => { s with cpuUsage := now.usageSince earlier }
    | none => s
  let s := { s with cpuCores := r.cores }
  let s := match r.memory with
    | .ok m =>
      { s with memoryUsed := m.used, memoryTotal := m.total, memoryUsage := percent m.used m.total }
    | .error _ => s
  let s := match r.disk with
    | .ok d =>
      { s with
        diskMount := d.mount, diskUsed := d.used, diskTotal := d.total
        diskUsage := percent d.used d.total }
    | .error _ => s
  let s := match r.load with
    | .ok l => { s with load := l }
    | .error _ => s
  match r.updates with
  | some (.ok u) => { s with pendingUpdates := u.pending, securityUpdates := u.security }
  | _ => s

end HostWatch
