/-!
# The shutdown signal

Any number of tasks wait for a request to shut down, and anyone may make one. A request sets a
flag and then notifies: it wakes the task that has been parked longest, or leaves a permit for the
next one that would park. The steps are separate, so that every order of them can be followed.
-/

namespace HostWatch

/-- Where a waiting task stands. -/
inductive Waiter where
  /-- It is about to ask for a notification. -/
  | ready
  /-- It has asked for one and is about to look at the flag. -/
  | asked
  /-- It found the flag clear and is about to park. -/
  | checked
  /-- It is parked until it is woken. -/
  | parked
  /-- It has been woken and will begin anew. -/
  | woken
  /-- It has seen the flag. -/
  | done
  deriving Repr, DecidableEq

/-- The signal, everyone who waits for it, and the requests that are being made. -/
structure ShutdownSignal where
  requested : Bool := false
  /-- A notification that found nobody parked. -/
  permit : Bool := false
  waiters : List Waiter := []
  /-- Parked tasks, the one parked longest first. -/
  queue : List Nat := []
  /-- Requests that have set the flag and not notified yet. -/
  halfway : Nat := 0
  /-- Requests that have done both. -/
  completed : Nat := 0
  deriving Repr, DecidableEq

namespace ShutdownSignal

/-- A task begins to wait. -/
def enter (s : ShutdownSignal) : ShutdownSignal := { s with waiters := s.waiters ++ [.ready] }

/-- The first half of a request: the flag. -/
def setFlag (s : ShutdownSignal) : ShutdownSignal :=
  { s with requested := true, halfway := s.halfway + 1 }

/-- One task is woken, or a permit left. -/
def wakeOne (s : ShutdownSignal) : ShutdownSignal :=
  match s.queue with
  | [] => { s with permit := true }
  | i :: queue => { s with waiters := s.waiters.set i .woken, queue }

/-- The second half of a request, if there is one that has done the first. -/
def notify (s : ShutdownSignal) : ShutdownSignal :=
  match s.halfway with
  | 0 => s
  | n + 1 => { s.wakeOne with halfway := n, completed := s.completed + 1 }

/-- A whole request without interruption. -/
def request (s : ShutdownSignal) : ShutdownSignal := s.setFlag.notify

/-- The next step of a waiting task; a parked task has none. -/
def advance (s : ShutdownSignal) (i : Nat) : ShutdownSignal :=
  match s.waiters[i]? with
  | some .ready => { s with waiters := s.waiters.set i .asked }
  | some .asked => { s with waiters := s.waiters.set i (if s.requested then .done else .checked) }
  | some .checked =>
    if s.permit then { s with permit := false, waiters := s.waiters.set i .ready }
    else { s with waiters := s.waiters.set i .parked, queue := s.queue ++ [i] }
  | some .woken => { s with waiters := s.waiters.set i .ready }
  | _ => s

/-- What may happen next. -/
inductive Event where
  | enter
  | setFlag
  | notify
  | advance (waiter : Nat)
  deriving Repr, DecidableEq

/-- One event. -/
def step (s : ShutdownSignal) : Event → ShutdownSignal
  | .enter => s.enter
  | .setFlag => s.setFlag
  | .notify => s.notify
  | .advance i => s.advance i

/-- Events one after another. -/
def run (s : ShutdownSignal) (events : List Event) : ShutdownSignal := events.foldl step s

/-- A task polled once: it goes on until it is parked or done, which takes seven steps at most. -/
def poll (s : ShutdownSignal) (i : Nat) : ShutdownSignal :=
  s.run (List.replicate 7 (.advance i))

/-- Whether a task has seen the flag. -/
def IsDone (s : ShutdownSignal) (i : Nat) : Prop := s.waiters[i]? = some .done

instance (s : ShutdownSignal) (i : Nat) : Decidable (s.IsDone i) :=
  inferInstanceAs (Decidable (_ = _))

end ShutdownSignal

end HostWatch
