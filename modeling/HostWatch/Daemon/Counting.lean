import HostWatch.Daemon.Methods
import HostWatch.Store.Run

/-!
# Counting alerts while others write

The method that counts alerts reads the store twice, first all alerts by severity and then the open
ones. Each read is one step, and so is each operation that others do on the store; between the two
reads there may be any of them.
-/

namespace HostWatch

/-- A call of the method that counts alerts. -/
inductive CountsCall where
  | begun
  /-- All alerts are counted, the open ones are not. -/
  | counted (counts : Counts)
  | answered (counts : Counts) (opened : OpenCounts)
  deriving DecidableEq

namespace CountsCall

/-- The next step of a call that finds the store so. -/
def step (s : Store) : CountsCall → CountsCall
  | begun => .counted s.counts
  | counted counts => .answered counts s.openCounts
  | answered counts opened => .answered counts opened

/-- What the call has answered. -/
def answer? : CountsCall → Option Json
  | answered counts opened => some (Daemon.countsJson counts opened)
  | _ => none

end CountsCall

/-- A store and a call that counts its alerts. -/
structure Counting where
  store : Store
  call : CountsCall := .begun

namespace Counting

/-- What may happen next. -/
inductive Event where
  /-- Somebody else works on the store. -/
  | work (op : Store.Op)
  /-- The call takes its next step. -/
  | advance

/-- The event is a step of the call. -/
def Event.IsAdvance : Event → Bool
  | advance => true
  | work _ => false

/-- One event. -/
def step (s : Counting) : Event → Counting
  | .work op => { s with store := op.apply s.store }
  | .advance => { s with call := s.call.step s.store }

/-- Events one after another. -/
def run (s : Counting) (events : List Event) : Counting := events.foldl step s

end Counting

/-! ## Open alerts -/

namespace Store

/-- How many open alerts the operation adds: one if it stores an alert. -/
def Op.opened (op : Op) (s : Store) : Nat :=
  match op with
  | .create fresh a => if (s.create fresh a).1.isOk then 1 else 0
  | _ => 0

/-- How many open alerts the operation dismisses. -/
def Op.closed (op : Op) (s : Store) : Nat :=
  match op with
  | .dismiss now id => if (s.dismiss now id).1 then 1 else 0
  | .dismissAll now => (s.dismissAll now).1
  | _ => 0

/-- What operations one after another do in all. -/
def sumOf (amount : Op → Store → Nat) (s : Store) : List Op → Nat
  | [] => 0
  | op :: ops => amount op s + (op.apply s).sumOf amount ops

end Store

end HostWatch
