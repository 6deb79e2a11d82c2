import HostWatch.Monitor.Shift

/-!
# The journal of a monitor

A journal is a monitor at work with a page for each cycle that has begun: what the cycle asked its
source of measurements for, what it was told, and the snapshot that it published. What a cycle goes
on from, the last reading of the processor and the last snapshot, can be told from the pages before
its own.
-/

namespace HostWatch

/-! ## What is asked for -/

/-- What a source of measurements is asked for. -/
inductive Quantity where
  | cpu
  | cores
  | memory
  | disk
  | load
  | updates
  deriving Repr, DecidableEq

/-- A source with what it was asked for, the last first. -/
structure Questioned (σ : Type) where
  source : σ
  asked : List Quantity := []

namespace Questioned

/-- Takes a measurement, and remembers that it was asked for. -/
def ask (quantity : Quantity) (measure : σ → α × σ) (q : Questioned σ) : α × Questioned σ :=
  let (answer, source) := measure q.source
  (answer, { source, asked := quantity :: q.asked })

instance [Sampler σ] : Sampler (Questioned σ) where
  cpu := ask .cpu Sampler.cpu
  cores := ask .cores Sampler.cores
  memory := ask .memory Sampler.memory
  disk := ask .disk Sampler.disk
  load := ask .load Sampler.load
  updates := ask .updates Sampler.updates

end Questioned

/-! ## Pages -/

/-- What is written down of a cycle. -/
structure Page where
  settings : Settings
  /-- What it asked its source for, the last first. -/
  asked : List Quantity
  readings : Readings
  /-- What it published. There is nothing while it is under way, nor if it breaks off. -/
  published : Option Snapshot := none

namespace Page

/-- The readings of the processor that succeeded, the last first. -/
def cpuReads (page : Page) : List CpuCounters :=
  (page.readings.cpuAgain.toList ++ [page.readings.cpu]).filterMap (·.toOption)

/-- The last reading of the processor that succeeded, of pages the last first. -/
def lastRead? (pages : List Page) : Option CpuCounters := (pages.flatMap cpuReads).head?

/-- The snapshot published last, of pages the last first; an empty one if there is none. -/
def lastSnapshot (pages : List Page) : Snapshot := (pages.filterMap (·.published)).head?.getD {}

end Page

/-! ## Journals -/

/-- A cycle begins with it. -/
def Shift.Event.Begins : Event → Prop
  | .begin .. => True
  | _ => False

/-- The next step of the cycle publishes a snapshot. -/
def Lap.publishes (lap : Lap) : Bool :=
  match lap.stage with
  | .publishing _ => true
  | _ => false

/-- The cycle that is under way publishes a snapshot with an event. -/
def Shift.publishes (s : Shift) : Event → Bool
  | .advance => s.lap.any (·.publishes)
  | _ => false

/-- A monitor at work with its pages, the last first. -/
structure Journal where
  shift : Shift
  pages : List Page := []

namespace Journal

/-- Something that happens. -/
inductive Event (σ : Type) where
  /-- A cycle begins, in the loop or for a caller: it measures with a source. -/
  | begin (byLoop : Bool) (settings : Settings) (now : Int) (source : σ)
  /-- Anything else. -/
  | other (e : Shift.Event) (goes : ¬ e.Begins)

/-- A cycle begins, and has a page from then on. There is none for a cycle that cannot begin, or
that ends there because a reading cannot be summed. -/
def begin [Sampler σ] (byLoop : Bool) (settings : Settings) (now : Int) (source : σ)
    (j : Journal) : Journal :=
  let monitor := j.shift.watch.monitor
  let (readings, q) := Readings.take monitor.earlierCpu (monitor.UpdatesDue settings)
    ({ source } : Questioned σ)
  let shift := j.shift.begin byLoop settings now readings
  if j.shift.lap.isNone ∧ shift.lap.isSome then
    { shift, pages := { settings, asked := q.asked, readings } :: j.pages }
  else { j with shift }

/-- Anything else happens. What a cycle publishes goes onto its page. -/
def other (e : Shift.Event) (j : Journal) : Journal :=
  let shift := j.shift.step e
  let write (page : Page) : Page := { page with published := some shift.watch.monitor.snapshot }
  { shift, pages := if j.shift.publishes e then j.pages.modifyHead write else j.pages }

/-- The journal after an event. -/
def step [Sampler σ] (j : Journal) : Event σ → Journal
  | .begin byLoop settings now source => j.begin byLoop settings now source
  | .other e _ => j.other e

/-- The journal after events one after another. -/
def run [Sampler σ] (j : Journal) (events : List (Event σ)) : Journal := events.foldl step j

/-- The journal of a monitor that has just been set up. -/
def fresh (store : Store) (hasBackend looping : Bool) (name : Nat → String) : Journal :=
  { shift := .fresh store hasBackend looping name }

end Journal

end HostWatch
