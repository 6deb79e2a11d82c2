import HostWatch.Monitor.Patrol

/-!
# The monitor from its start to its end

While a cycle runs, tasks run beside it, clients work with the stored alerts, the store may be given
up, and a stop may be under way. A shift is the monitor in the middle of all this, and an event is
one step of one of them. Cycles and tasks that are using the store keep it from going away.

A shift also remembers what was stored on account of which alert.
-/

namespace HostWatch

/-! ## What is remembered -/

/-- Something that the monitor or a task has done. -/
inductive Deed where
  /-- A cycle has stored an alert. -/
  | raised (a : Alert)
  /-- A cycle has made a task for an alert. -/
  | asked (parent : Alert)
  /-- A task has stored the analysis of an alert. -/
  | analysed (parent analysis : Alert)

namespace Deed

/-- The alert that was stored. -/
def stored? : Deed → Option Alert
  | raised a | analysed _ a => some a
  | asked _ => none

/-- No alert was stored under an id. -/
def Unused (id : String) (deeds : List Deed) : Prop :=
  ∀ d ∈ deeds, ∀ a ∈ d.stored?, a.id ≠ id

end Deed

/-- The alert is an analysis of `parent`. -/
structure Alert.Analyses (a parent : Alert) : Prop where
  category : a.category = .aiAnalysis
  severity : a.severity = parent.severity
  parent? : a.parent? = some parent.id

/-- What was done, the last first, is as it should be: there is a task only for an alert that was
raised before, an analysis only from such a task, and each at most once for any alert. -/
inductive Accounted : List Deed → Prop where
  | nil : Accounted []
  | raised {deeds : List Deed} {a : Alert} (before : Accounted deeds)
      (unused : Deed.Unused a.id deeds) : Accounted (.raised a :: deeds)
  | asked {deeds : List Deed} {parent : Alert} (before : Accounted deeds)
      (raised : .raised parent ∈ deeds)
      (once : ∀ other, .asked other ∈ deeds → other.id ≠ parent.id) :
      Accounted (.asked parent :: deeds)
  | analysed {deeds : List Deed} {parent analysis : Alert} (before : Accounted deeds)
      (asked : .asked parent ∈ deeds)
      (once : ∀ other another, .analysed other another ∈ deeds → other.id ≠ parent.id)
      (unused : Deed.Unused analysis.id deeds) (linked : analysis.Analyses parent) :
      Accounted (.analysed parent analysis :: deeds)

/-! ## Tasks -/

/-- The tasks in the list of the monitor, or those that a stop has taken from it and waits for. -/
inductive Crew where
  | listed
  | leaving

namespace Monitor

/-- The tasks of a crew. -/
def crew (m : Monitor) : Crew → List Enrichment
  | .listed => m.tasks
  | .leaving => m.leaving

/-- The monitor with other tasks in a crew. -/
def withCrew (m : Monitor) (crew : Crew) (tasks : List Enrichment) : Monitor :=
  match crew with
  | .listed => { m with tasks }
  | .leaving => { m with leaving := tasks }

/-- All tasks that have not been forgotten. -/
def everyone (m : Monitor) : List Enrichment := m.tasks ++ m.leaving

end Monitor

/-- It is about to store an analysis. -/
def Enrichment.usesStore (t : Enrichment) : Bool :=
  match t.phase with
  | .holding _ => true
  | _ => false

/-! ## Cycles -/

/-- What a cycle does next. -/
inductive Lap.Stage where
  /-- It forgets the tasks that have ended. -/
  | reaping
  /-- It takes hold of the store, if it is still there. -/
  | entering
  /-- It looks for an open alert for its next finding, or deletes old alerts if there is none. -/
  | seeking (findings : List Finding)
  /-- It stores the alert for a finding that had none. -/
  | reporting (f : Finding) (later : List Finding)
  /-- It makes a task for the alert that it has stored. -/
  | asking (f : Finding) (raised : Alert) (later : List Finding)
  /-- It publishes the snapshot, with the counts of a store that it holds. -/
  | publishing (holds : Bool)

/-- A cycle that is under way. -/
structure Lap where
  settings : Settings
  now : Int
  snapshot : Snapshot
  /-- The loop runs it, and not a caller. -/
  byLoop : Bool
  stage : Lap.Stage := .reaping

namespace Lap

/-- The cycle holds the store. -/
def usesStore (lap : Lap) : Bool :=
  match lap.stage with
  | .seeking _ | .reporting .. | .asking .. => true
  | .publishing holds => holds
  | .reaping | .entering => false

end Lap

/-! ## Shifts -/

/-- How far a stop has come. -/
inductive Stopping where
  /-- There was none. -/
  | no
  /-- The flag is cleared, and the loop is waited for. -/
  | cleared
  /-- The loop has ended. -/
  | joined
  /-- The tasks are taken from the list and waited for. -/
  | waiting
  | returned
  deriving DecidableEq

/-- A monitor at work. -/
structure Shift where
  watch : Watch
  lap : Option Lap := none
  stopping : Stopping := .no
  /-- What was done, the last first. -/
  deeds : List Deed := []

namespace Shift

/-- Something that happens. -/
inductive Event where
  /-- A cycle begins, in the loop or for a caller: it measures. -/
  | begin (byLoop : Bool) (settings : Settings) (now : Int) (r : Readings)
  /-- The cycle takes its next step. -/
  | advance
  /-- A client works with the stored alerts. -/
  | handle (op : Store.Op) (handles : ¬ op.Creates)
  /-- The store is given up by those who are neither a cycle nor a task. -/
  | drop
  /-- The backend answers a task. -/
  | answer (crew : Crew) (i : Nat) (a : Answer)
  /-- A task takes its next step. -/
  | task (crew : Crew) (now : Int) (i : Nat)
  /-- A stop begins, or takes its next step. -/
  | stop

/-- Cycles that begin have this limit on the number of tasks. -/
def Event.Limits (max : Nat) : Event → Prop
  | .begin _ settings _ _ => settings.monitor.maxTasks = max
  | _ => True

instance (max : Nat) : DecidablePred (Event.Limits max)
  | .begin _ settings _ _ => inferInstanceAs (Decidable (settings.monitor.maxTasks = max))
  | .advance | .handle .. | .drop | .answer .. | .task .. | .stop => isTrue trivial

/-- Somebody holds the store. -/
def alive (s : Shift) : Bool :=
  s.watch.storeHeld || s.lap.any (·.usesStore) || s.watch.monitor.everyone.any (·.usesStore)

/-- Nothing will come of a task: it cannot get to the store, or it has nothing to store. -/
def Barred (s : Shift) (t : Enrichment) : Prop :=
  match t.phase with
  | .asking => s.watch.monitor.running = false ∨ s.alive = false
  | .answered a => s.watch.monitor.running = false ∨ s.alive = false ∨ a.success = false
  | .allowed a => s.alive = false ∨ a.success = false
  | .holding _ => False
  | .done => True

instance (s : Shift) : DecidablePred s.Barred := fun t => by
  unfold Barred; split <;> infer_instance

/-- A cycle begins unless there is one; a reading that cannot be summed ends it there. -/
def begin (byLoop : Bool) (settings : Settings) (now : Int) (r : Readings) (s : Shift) : Shift :=
  if s.lap.isSome ∨ (byLoop = true ∧ s.watch.monitor.looping = false) then s
  else
    match s.watch.monitor.measured now r with
    | .error _ => s
    | .ok (monitor, snapshot) =>
      { s with watch.monitor := monitor, lap := some { settings, now, snapshot, byLoop } }

/-- The cycle has this to do next. -/
def goOn (s : Shift) (lap : Lap) (stage : Lap.Stage) : Shift :=
  { s with lap := some { lap with stage } }

/-- The cycle is over. -/
def rest (s : Shift) : Shift := { s with lap := none }

/-- Deletes alerts dismissed long ago; a cycle that cannot tell which ones is over. -/
def sweep (s : Shift) (lap : Lap) : Shift :=
  match s.watch.sweep lap.settings lap.now with
  | .error _ => s.rest
  | .ok watch => { s with watch }.goOn lap (.publishing true)

/-- Stores the alert for a finding. -/
def report (s : Shift) (lap : Lap) (f : Finding) (later : List Finding) : Shift :=
  match s.watch.store.createFresh s.watch.ids (f.toAlert lap.now) with
  | (.error _, store, ids) =>
    { s with watch := { s.watch with store, ids } }.goOn lap (.seeking later)
  | (.ok a, store, ids) =>
    { s with watch := { s.watch with store, ids }, deeds := .raised a :: s.deeds }.goOn lap
      (.asking f a later)

/-- Makes a task for an alert, if there is a backend and room for one. -/
def ask (s : Shift) (lap : Lap) (f : Finding) (a : Alert) : Shift :=
  let monitor := s.watch.monitor.enrich lap.settings f.prompt a
  let asked := s.watch.monitor.tasks.length < monitor.tasks.length
  { s with watch.monitor := monitor, deeds := if asked then .asked a :: s.deeds else s.deeds }

/-- The next step of a cycle. -/
def advance (s : Shift) (lap : Lap) : Shift :=
  match lap.stage with
  | .reaping => { s with watch.monitor := s.watch.monitor.reap }.goOn lap .entering
  | .entering =>
    s.goOn lap
      (if s.alive then .seeking (evaluate lap.snapshot lap.settings.limits) else .publishing false)
  | .seeking [] => s.sweep lap
  | .seeking (f :: later) =>
    s.goOn lap (if s.watch.hasRaised f then .seeking later else .reporting f later)
  | .reporting f later => s.report lap f later
  | .asking f a later => (s.ask lap f a).goOn lap (.seeking later)
  | .publishing holds =>
    { s with
      watch := s.watch.publish (if holds then s.watch.counted lap.snapshot else lap.snapshot) }.rest

/-- A task in a crew has turned into another. -/
def turned (s : Shift) (crew : Crew) (i : Nat) (t : Enrichment) : Shift :=
  { s with
    watch.monitor := s.watch.monitor.withCrew crew ((s.watch.monitor.crew crew).set i t) }

/-- The backend answers a task. -/
def answer (crew : Crew) (i : Nat) (a : Answer) (s : Shift) : Shift :=
  match (s.watch.monitor.crew crew)[i]? with
  | none => s
  | some t => s.turned crew i (t.answer a)

/-- What a task does with its next step. -/
def deedsOf (now : Int) (t : Enrichment) (w : Watch) : List Deed :=
  match t.phase with
  | .holding text =>
    match (w.store.createFresh w.ids (analysisOf now t.parent text)).1 with
    | .ok a => [.analysed t.parent a]
    | .error _ => []
  | _ => []

/-- A task takes its next step; it finds the store if somebody holds it. -/
def task (crew : Crew) (now : Int) (i : Nat) (s : Shift) : Shift :=
  match (s.watch.monitor.crew crew)[i]? with
  | none => s
  | some t =>
    let (t', w) := ({ s.watch with storeHeld := s.alive } : Watch).stepTask now t
    { s with
      watch := { w with storeHeld := s.watch.storeHeld }
      deeds := deedsOf now t s.watch ++ s.deeds }.turned crew i t'

/-- The next step of a stop. It waits for a cycle of the loop, and then for one task after
another. -/
def stop (s : Shift) : Shift :=
  match s.stopping with
  | .no | .returned => { s with watch := s.watch.clearRunning, stopping := .cleared }
  | .cleared =>
    if s.lap.any (·.byLoop) then s
    else { s with watch.monitor.looping := false, stopping := .joined }
  | .joined => { s with watch := s.watch.leaveTasks, stopping := .waiting }
  | .waiting =>
    match s.watch.monitor.leaving with
    | [] => { s with stopping := .returned }
    | t :: rest => if t.IsDone then { s with watch.monitor.leaving := rest } else s

/-- Somebody who holds the store works with the stored alerts. -/
def handle (op : Store.Op) (s : Shift) : Shift :=
  if s.watch.storeHeld then { s with watch.store := op.apply s.watch.store } else s

/-- The shift after an event. An event that cannot happen changes nothing. -/
def step (s : Shift) : Event → Shift
  | .begin byLoop settings now r => s.begin byLoop settings now r
  | .advance => s.lap.elim s s.advance
  | .handle op _ => s.handle op
  | .drop => { s with watch.storeHeld := false }
  | .answer crew i a => s.answer crew i a
  | .task crew now i => s.task crew now i
  | .stop => s.stop

/-- The shift after events one after another. -/
def run (s : Shift) (events : List Event) : Shift := events.foldl step s

/-- A monitor that has just been set up on a store, with ids that nobody has got yet. Its loop may
have been started. -/
def fresh (store : Store) (hasBackend looping : Bool) (name : Nat → String) : Shift :=
  { watch := { monitor := { hasBackend, looping }, store, ids := { name } } }

end Shift

end HostWatch
