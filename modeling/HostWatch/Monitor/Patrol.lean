import HostWatch.Monitor.Cycle
import HostWatch.Store.Run

/-!
# Cycles a step at a time

A cycle keeps other cycles out but not other users of the store: between looking for an open alert
and storing a new one, alerts are acknowledged, dismissed and purged and analyses are stored, and
the process may be killed and started again. A patrol is the monitor with the cycle that it is in,
and an event is one step of the cycle, of a task, or of somebody else.
-/

namespace HostWatch

/-- The operation may store an alert. -/
def Store.Op.Creates : Op → Prop
  | .create _ _ => True
  | _ => False

/-- A cycle that is under way. -/
structure Round where
  settings : Settings
  now : Int
  snapshot : Snapshot
  /-- Findings that have not been looked up. -/
  pending : List Finding
  /-- The finding that was looked up last, if no open alert stood for it. -/
  unmatched : Option Finding := none

/-- A monitor that may be in the middle of a cycle. -/
structure Patrol where
  watch : Watch
  round : Option Round := none

namespace Patrol

/-- Something that happens. -/
inductive Event where
  /-- A cycle begins: it measures and compares. -/
  | begin (settings : Settings) (now : Int) (r : Readings)
  /-- The cycle looks for an open alert for its next finding. -/
  | lookUp
  /-- The cycle stores the alert for a finding that had none. -/
  | report
  /-- The cycle ends. -/
  | conclude
  /-- Somebody works with the stored alerts. -/
  | handle (op : Store.Op) (handles : ¬ op.Creates)
  /-- The backend answers a task. -/
  | answer (i : Nat) (a : Answer)
  /-- A task takes its next step. -/
  | task (now : Int) (i : Nat)
  /-- The monitor is stopped, and what the backend still has to say to its tasks is `a`. -/
  | stop (now : Int) (a : Answer)
  /-- The process ends wherever it is, and another one opens the same store. -/
  | restart (hasBackend : Bool)

/-- The patrol after the first step of a cycle; a reading that cannot be summed ends it there. -/
def begin (settings : Settings) (now : Int) (r : Readings) (w : Watch) : Patrol :=
  match w.monitor.measured now r with
  | .error _ => { watch := w }
  | .ok (monitor, s) =>
    let w := { w with monitor := monitor.reap }
    { watch := w, round := some { settings, now, snapshot := s, pending := w.findings settings s } }

/-- The next finding of a cycle is looked up. -/
def lookUp (w : Watch) (round : Round) : Patrol :=
  match round.unmatched, round.pending with
  | none, f :: rest =>
    { watch := w
      round := some { round with
        pending := rest, unmatched := if w.hasRaised f then none else some f } }
  | _, _ => { watch := w, round := some round }

/-- The finding that had no open alert is reported. -/
def report (w : Watch) (round : Round) : Patrol :=
  match round.unmatched with
  | none => { watch := w, round := some round }
  | some f =>
    { watch := w.report round.settings round.now f, round := some { round with unmatched := none } }

/-- The last step of a cycle, which is over even if it breaks off there. -/
def conclude (w : Watch) (round : Round) : Patrol :=
  match round.unmatched, round.pending with
  | none, [] =>
    match w.conclude round.settings round.now round.snapshot with
    | .error _ => { watch := w }
    | .ok w => { watch := w }
  | _, _ => { watch := w, round := some round }

/-- A task takes its next step. -/
def task (now : Int) (i : Nat) (w : Watch) : Watch :=
  match w.monitor.tasks[i]? with
  | none => w
  | some t =>
    let (t, w) := w.stepTask now t
    { w with monitor.tasks := w.monitor.tasks.set i t }

/-- A new process on the same store. -/
def restart (hasBackend : Bool) (w : Watch) : Watch :=
  { w with monitor := { hasBackend }, store := w.store.reopen, storeHeld := true }

/-- The patrol after an event. An event that cannot happen changes nothing. -/
def step (p : Patrol) : Event → Patrol
  | .begin settings now r => if p.round.isSome then p else begin settings now r p.watch
  | .lookUp => p.round.elim p (lookUp p.watch)
  | .report => p.round.elim p (report p.watch)
  | .conclude => p.round.elim p (conclude p.watch)
  | .handle op _ => { p with watch.store := op.apply p.watch.store }
  | .answer i a =>
    { p with watch.monitor.tasks := p.watch.monitor.tasks.modify i (·.answer a) }
  | .task now i => { p with watch := task now i p.watch }
  | .stop now a => { p with watch := p.watch.stop now a }
  | .restart hasBackend => { watch := restart hasBackend p.watch }

/-- The patrol after events one after another. -/
def run (p : Patrol) (events : List Event) : Patrol := events.foldl step p

/-- A monitor that has just been set up on an empty store, with ids that nobody has got yet. -/
def fresh (location : String) (monitor : Monitor) (name : Nat → String) : Patrol :=
  { watch := { monitor, store := .onTable location none, ids := { name } } }

/-- The steps that a cycle takes for a finding. -/
def visit : List Event := [.lookUp, .report]

/-- The steps of a cycle with so many findings. -/
def cycleSteps (settings : Settings) (now : Int) (r : Readings) (findings : Nat) : List Event :=
  .begin settings now r :: (List.replicate findings visit).flatten ++ [.conclude]

end Patrol

end HostWatch
