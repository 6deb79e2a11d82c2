import HostWatch.Monitor.Reading

/-!
# A scripted host

A source of measurements that says what it was told to say, for rehearsals. The readings of the
processor are given one after another, and the last of them again and again.
-/

namespace HostWatch

/-- The measurements to give out; one that is missing fails. -/
structure ScriptedHost where
  cpu : List (Option CpuCounters) := [some {}]
  cores : Nat := 4
  memory : Option MemoryUse := some ⟨0, Nat.pow 2 30⟩
  disk : Option DiskUse := some ⟨"/", 0, Nat.pow 2 30⟩
  load : Option Load := some {}
  updates : Option UpdateCounts := some {}
  /-- How often the updates were counted. -/
  updateCalls : Nat := 0

namespace ScriptedHost

/-- A measurement that was given, or a failure. -/
def given (what : String) : Option α → Except SampleError α
  | some a => .ok a
  | none => .error (.unavailable what)

/-- The next reading of the processor. -/
def readCpu (h : ScriptedHost) : Except SampleError CpuCounters × ScriptedHost :=
  match h.cpu with
  | [] => (given "cpu" none, h)
  | [c] => (given "cpu" c, h)
  | c :: rest => (given "cpu" c, { h with cpu := rest })

instance : Sampler ScriptedHost where
  cpu := readCpu
  cores h := (h.cores, h)
  memory h := (given "memory" h.memory, h)
  disk h := (given "disk" h.disk, h)
  load h := (given "load" h.load, h)
  updates h := (given "updates" h.updates, { h with updateCalls := h.updateCalls + 1 })

end ScriptedHost

end HostWatch
