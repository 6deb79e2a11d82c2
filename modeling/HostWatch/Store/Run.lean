import HostWatch.Store.Basic

/-!
# Runs of the store

Everything that can be done to a store as data, so that what holds after any number of operations
can be stated.
-/

namespace HostWatch.Store

/-- Something done to a store; what is done at some moment carries the moment. -/
inductive Op where
  | create (fresh : String) (alert : Alert)
  | acknowledge (now : Int) (id : String)
  | acknowledgeAll (now : Int)
  | dismiss (now : Int) (id : String)
  | dismissAll (now : Int)
  | purgeDismissedBefore (cutoff : Int)
  | reopen

/-- The store after an operation. -/
def Op.apply (op : Op) (s : Store) : Store :=
  match op with
  | .create fresh a => (s.create fresh a).2
  | .acknowledge now id => (s.acknowledge now id).2
  | .acknowledgeAll now => (s.acknowledgeAll now).2
  | .dismiss now id => (s.dismiss now id).2
  | .dismissAll now => (s.dismissAll now).2
  | .purgeDismissedBefore cutoff => (s.purgeDismissedBefore cutoff).2
  | .reopen => s.reopen

/-- The store after operations one after another. -/
def run (s : Store) (ops : List Op) : Store := ops.foldl (fun s op => op.apply s) s

/-- The moment of an operation, or of the alert that it stores, is a time. -/
def Op.IsTimely : Op → Prop
  | .create _ a => IsTime a.createdAt
  | .acknowledge now _ | .acknowledgeAll now | .dismiss now _ | .dismissAll now => IsTime now
  | .purgeDismissedBefore _ | .reopen => True

instance : DecidablePred Op.IsTimely := fun op => by
  cases op <;> unfold Op.IsTimely <;> infer_instance

/-- A store that operations can make of an empty one. -/
def Reachable (s : Store) : Prop :=
  ∃ location, ∃ ops : List Op, (∀ op ∈ ops, op.IsTimely) ∧ run (onTable location none) ops = s

end HostWatch.Store
