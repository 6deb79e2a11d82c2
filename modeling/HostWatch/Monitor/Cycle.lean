import HostWatch.Monitor.Enrichment
import HostWatch.Monitor.Reading
import HostWatch.Monitor.Threshold
import HostWatch.Store.Fresh

/-!
# Cycles of the monitor

A cycle measures the host, raises an alert for each finding that has none open, hands new alerts to
the inference backend, now and then deletes alerts dismissed long ago, and publishes a snapshot.
Enrichment tasks go on beside the cycles, a step at a time.
-/

namespace HostWatch

/-- What the monitor remembers from cycle to cycle. -/
structure Monitor where
  /-- The last reading of the processor. -/
  earlierCpu : Option CpuCounters := none
  /-- Cycles completed. -/
  cycles : Nat := 0
  /-- The published snapshot. -/
  snapshot : Snapshot := {}
  /-- Cleared by a stop: answers that come later are discarded. -/
  running : Bool := true
  /-- A thread of its own runs the cycles. -/
  looping : Bool := false
  /-- There is a backend to ask. -/
  hasBackend : Bool := false
  /-- Tasks that have not been reaped. -/
  tasks : List Enrichment := []
  /-- Tasks whose end a stop is waiting for. -/
  leaving : List Enrichment := []

/-- A monitor with the store it works on. -/
structure Watch where
  monitor : Monitor
  store : Store
  /-- Somebody besides the monitor still holds the store. -/
  storeHeld : Bool := true
  ids : IdSupply

/-- Why a cycle broke off. -/
inductive CycleFault where
  /-- The counters of the processor cannot be summed. -/
  | counterOverflow
  /-- The day before which alerts are deleted has no name. -/
  | cutoffOutOfRange
  deriving Repr, DecidableEq

namespace Monitor

/-- The next cycle counts updates. -/
def UpdatesDue (settings : Settings) (m : Monitor) : Prop :=
  m.cycles % max 1 settings.monitor.updateEvery = 0

instance (settings : Settings) (m : Monitor) : Decidable (m.UpdatesDue settings) :=
  inferInstanceAs (Decidable (_ = _))

/-- The monitor after a cycle's measurements, with the snapshot that they make. -/
def measured (now : Int) (r : Readings) (m : Monitor) : Except CycleFault (Monitor × Snapshot) :=
  let span := r.cpuSpan m.earlierCpu
  if ∀ s ∈ span, s.1.Fits ∧ s.2.Fits then
    let cycles := m.cycles + 1
    let snapshot := { m.snapshot.next m.earlierCpu r with cycle := cycles, timestamp := now }
    .ok ({ m with cycles, earlierCpu := (span.map (·.2)).or m.earlierCpu }, snapshot)
  else .error .counterOverflow

/-- Forgets the tasks that have ended. -/
def reap (m : Monitor) : Monitor := { m with tasks := m.tasks.filter fun t => !decide t.IsDone }

/-- Asks the backend about an alert, unless there is none or enough is being asked. -/
def enrich (settings : Settings) (prompt : String) (parent : Alert) (m : Monitor) : Monitor :=
  if m.hasBackend ∧ m.tasks.length < settings.monitor.maxTasks then
    { m with tasks := m.tasks ++ [⟨parent, .new settings.inference prompt, .asking⟩] }
  else m

/-- The loop is running. -/
def IsRunning (m : Monitor) : Prop := m.running = true ∧ m.looping = true

instance : DecidablePred IsRunning := fun m =>
  inferInstanceAs (Decidable (m.running = true ∧ m.looping = true))

/-- Starts the loop unless there is one. -/
def start (m : Monitor) : Monitor :=
  if m.looping then m else { m with running := true, looping := true }

end Monitor

namespace Watch

/-! ## One cycle -/

/-- What a cycle finds that the store can be told of. -/
def findings (settings : Settings) (s : Snapshot) (w : Watch) : List Finding :=
  if w.storeHeld then evaluate s settings.limits else []

/-- Stores the alert for a finding, and has it explained. -/
def report (settings : Settings) (now : Int) (w : Watch) (f : Finding) : Watch :=
  match w.store.createFresh w.ids (f.toAlert now) with
  | (.error _, store, ids) => { w with store, ids }
  | (.ok a, store, ids) =>
    { w with store, ids, monitor := w.monitor.enrich settings f.prompt a }

/-- An open alert stands for a finding. -/
def hasRaised (w : Watch) (f : Finding) : Bool :=
  w.store.hasOpen f.category f.severity Finding.source

/-- Raises the alert for a finding, unless an open one stands for it. -/
def raise (settings : Settings) (now : Int) (w : Watch) (f : Finding) : Watch :=
  if w.hasRaised f then w else w.report settings now f

/-- Raises the alerts for findings. -/
def raiseAll (settings : Settings) (now : Int) (w : Watch) (fs : List Finding) : Watch :=
  fs.foldl (raise settings now) w

/-- Every so many cycles alerts dismissed long ago are deleted. -/
def sweepEvery : Nat := 12

/-- The moment so many days ago, if it can be told. -/
def daysBefore? (now : Int) (days : Nat) : Option Int :=
  let moment := now - days * 86400
  if earliestTime ≤ moment then some moment else none

/-- Deletes alerts that were dismissed too long ago, if this cycle does. -/
def sweep (settings : Settings) (now : Int) (w : Watch) : Except CycleFault Watch :=
  if 0 < settings.alerts.retentionDays ∧ w.monitor.cycles % sweepEvery = 0 then
    match daysBefore? now settings.alerts.retentionDays with
    | none => .error .cutoffOutOfRange
    | some cutoff => .ok { w with store := (w.store.purgeDismissedBefore cutoff).2 }
  else .ok w

/-- Publishes a snapshot. -/
def publish (s : Snapshot) (w : Watch) : Watch := { w with monitor.snapshot := s }

/-- A snapshot with the counts of open alerts. -/
def counted (s : Snapshot) (w : Watch) : Snapshot :=
  let counts := w.store.openCounts
  { s with activeAlerts := counts.active, criticalAlerts := counts.critical }

/-- Ends a cycle: deletes what is to be deleted and publishes the snapshot. -/
def conclude (settings : Settings) (now : Int) (s : Snapshot) (w : Watch) :
    Except CycleFault Watch :=
  if w.storeHeld then (w.sweep settings now).map fun w => w.publish (w.counted s)
  else .ok (w.publish s)

/-- A cycle with given readings. -/
def cycleWith (settings : Settings) (now : Int) (r : Readings) (w : Watch) :
    Except CycleFault Watch :=
  match w.monitor.measured now r with
  | .error e => .error e
  | .ok (monitor, s) =>
    let w := { w with monitor := monitor.reap }
    (w.raiseAll settings now (w.findings settings s)).conclude settings now s

/-- A cycle that begins at `clock`, in milliseconds. Measuring may take time, and everything after
it happens at the moment it ends. Gives the clock and the source as they are then. -/
def cycle [Sampler σ] (settings : Settings) (clock : Int) (source : σ) (w : Watch) :
    Except CycleFault (Watch × Int × σ) :=
  let (r, source) := Readings.take w.monitor.earlierCpu (w.monitor.UpdatesDue settings) source
  let clock := clock + r.waited
  (w.cycleWith settings (clock / 1000) r).map (·, clock, source)

/-! ## Tasks -/

/-- The next step of a task that does not wait for the backend. -/
def stepTask (now : Int) (w : Watch) (t : Enrichment) : Enrichment × Watch :=
  match t.phase with
  | .answered a => ({ t with phase := if w.monitor.running then .allowed a else .done }, w)
  | .allowed a =>
    ({ t with phase := if w.storeHeld && a.success then .holding a.output else .done }, w)
  | .holding text =>
    let (_, store, ids) := w.store.createFresh w.ids (analysisOf now t.parent text)
    ({ t with phase := .done }, { w with store, ids })
  | _ => (t, w)

/-- The backend answers a task, which then goes on to its end. -/
def settle (now : Int) (a : Answer) (w : Watch) (t : Enrichment) : Enrichment × Watch :=
  let (t, w) := w.stepTask now (t.answer a)
  let (t, w) := w.stepTask now t
  w.stepTask now t

/-- The backend answers the task at an index, which then goes on to its end. -/
def finish (now : Int) (i : Nat) (a : Answer) (w : Watch) : Watch :=
  match w.monitor.tasks[i]? with
  | none => w
  | some t =>
    let (t, w) := w.settle now a t
    { w with monitor.tasks := w.monitor.tasks.set i t }

/-! ## Stopping -/

/-- A stop begins: from now on answers are discarded. -/
def clearRunning (w : Watch) : Watch := { w with monitor.running := false }

/-- The loop has ended, and its tasks are waited for. -/
def leaveTasks (w : Watch) : Watch :=
  { w with monitor := { w.monitor with
      looping := false, tasks := [], leaving := w.monitor.leaving ++ w.monitor.tasks } }

/-- Waits for the tasks, which the backend answers with `a` if it has not answered them yet. -/
def join (now : Int) (a : Answer) (w : Watch) : Watch :=
  let w := w.monitor.leaving.foldl (fun w t => (w.settle now a t).2) w
  { w with monitor.leaving := [] }

/-- Stops the monitor. -/
def stop (now : Int) (a : Answer) (w : Watch) : Watch := (w.clearRunning.leaveTasks).join now a

end Watch

end HostWatch
