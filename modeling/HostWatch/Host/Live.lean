import HostWatch.Host.Files

/-!
# The live host

The source of measurements that reads the host itself. It remembers the memory table, in which a
field keeps its value until a new one is read, and the number of processors it found first.
-/

namespace HostWatch

/-- A host as its kernel and its programs show it. -/
structure Host where
  stat : FileText
  memory : FileText
  load : FileText
  mounts : FileText
  size : String → Option VolumeSize
  run : PackageTool → PackageTool.Run
  /-- How many threads can run at a time. -/
  parallelism : Nat := 1

/-- A live host, with what has been seen of it. -/
structure LiveHost where
  host : Host
  table : MemoryTable := {}
  processors : Nat := 0

namespace LiveHost

/-- Where the counters of the processors are. -/
def statPath : String := "/proc/stat"

/-- The counters of the processors. -/
def readCpu (h : LiveHost) : Except SampleError CpuCounters :=
  match h.host.stat with
  | .error cause => .error (.unreadable statPath cause)
  | .ok content =>
    match CpuCounters.parse? content with
    | some c => .ok c
    | none => .error (.unparsable statPath)

/-- The processors found first, or else as many as can run threads. -/
def countCores (h : LiveHost) : Nat × LiveHost :=
  let found := match h.host.stat with
    | .ok content => processorCount content
    | .error _ => 0
  let n := if h.processors = 0 then found else h.processors
  (if n = 0 then h.host.parallelism else n, { h with processors := n })

/-- The use of memory. -/
def readMemory (h : LiveHost) : Except SampleError MemoryUse × LiveHost :=
  let table := h.table.read h.host.memory
  (table.use, { h with table })

/-- The use of the disk that is watched. -/
def readDisk (h : LiveHost) : Except SampleError DiskUse :=
  match h.host.mounts with
  | .ok content => watchedDisk (disksOf h.host.size content)
  | .error _ => watchedDisk []

/-- The load averages; zero if the kernel does not tell them. -/
def readLoad (h : LiveHost) : Load :=
  match h.host.load with
  | .ok content => .parse content
  | .error _ => {}

instance : Sampler LiveHost where
  cpu h := (h.readCpu, h)
  cores := countCores
  memory := readMemory
  disk h := (h.readDisk, h)
  load h := (.ok h.readLoad, h)
  updates h := (PackageTool.countUpdates h.host.run PackageTool.all, h)

end LiveHost

end HostWatch
