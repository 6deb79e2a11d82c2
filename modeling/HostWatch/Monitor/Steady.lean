import HostWatch.Monitor.Reading

/-!
# A steady host

A source of measurements that always says the same until it is told otherwise, for rehearsals. Its
processor counters advance so that every two readings in a row show the usage that was set.
-/

namespace HostWatch

/-- The values to give out; usage is in percent. -/
structure SteadyHost where
  cpu : Float
  memory : Float
  disk : Float
  cores : Nat := 4
  load : Load := {}
  updates : UpdateCounts := {}
  /-- Every measurement but the number of cores fails. -/
  failing : Bool := false
  counters : CpuCounters := {}
  /-- How often the updates were counted. -/
  updateCalls : Nat := 0

namespace SteadyHost

/-- The size of memory and disk. -/
def size : Nat := Nat.pow 2 30

/-- Ticks between two readings of the processor. -/
def ticks : Nat := 1000

/-- A measurement, which fails if everything does. -/
def attempt (what : String) (h : SteadyHost) (value : α) : Except SampleError α :=
  if h.failing then .error (.unavailable (what ++ " sampler failed")) else .ok value

/-- The part of the size that a usage in percent stands for. -/
def share (usage : Float) : Nat := (floatOfNat size * usage / 100).toUInt64.toNat

/-- The next reading of the processor. -/
def readCpu (h : SteadyHost) : Except SampleError CpuCounters × SteadyHost :=
  if h.failing then (.error (.unavailable "cpu sampler failed"), h)
  else
    let busy := (CpuCounters.clamp 0 100 h.cpu * 10).round.toUInt64.toNat
    let c := { h.counters with
      user := h.counters.user + busy, idle := h.counters.idle + (ticks - busy) }
    (.ok c, { h with counters := c })

instance : Sampler SteadyHost where
  cpu := readCpu
  cores h := (h.cores, h)
  memory h := (h.attempt "memory" ⟨share h.memory, size⟩, h)
  disk h := (h.attempt "disk" ⟨"/", share h.disk, size⟩, h)
  load h := (h.attempt "load" h.load, h)
  updates h := (h.attempt "updates" h.updates, { h with updateCalls := h.updateCalls + 1 })

end SteadyHost

end HostWatch
