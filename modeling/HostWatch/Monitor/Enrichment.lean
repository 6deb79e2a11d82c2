import HostWatch.Inference.Basic
import HostWatch.Monitor.Analysis

/-!
# Enrichment

For each alert that the monitor raises, a task may ask the inference backend for an analysis. The
task works beside everything else, in four steps: the backend answers, the task sees whether the
monitor still runs, it sees whether the store is still there, and it stores the analysis. When any
of them fails the task ends without a trace.
-/

namespace HostWatch

/-- How far a task has come. -/
inductive Enrichment.Phase where
  /-- The backend has not answered. -/
  | asking
  /-- The backend has answered. -/
  | answered (answer : Answer)
  /-- The monitor was still running. -/
  | allowed (answer : Answer)
  /-- The store was still there; the analysis is about to be stored. -/
  | holding (text : String)
  | done
  deriving Repr, DecidableEq

/-- A task that asks for the analysis of an alert. -/
structure Enrichment where
  parent : Alert
  question : Question
  phase : Enrichment.Phase := .asking

namespace Enrichment

/-- The backend answers. -/
def answer (t : Enrichment) (a : Answer) : Enrichment :=
  match t.phase with
  | .asking => { t with phase := .answered a }
  | _ => t

/-- Waits for the backend. -/
def IsAsking (t : Enrichment) : Prop := t.phase = .asking

/-- Has ended. -/
def IsDone (t : Enrichment) : Prop := t.phase = .done

instance : DecidablePred IsAsking := fun t => inferInstanceAs (Decidable (t.phase = .asking))

instance : DecidablePred IsDone := fun t => inferInstanceAs (Decidable (t.phase = .done))

end Enrichment

end HostWatch
