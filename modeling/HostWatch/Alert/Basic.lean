import HostWatch.Text.Caseless

/-!
# The words of alerts

How bad an alert is, what it is about, and where it stands in its life: active, acknowledged,
dismissed, in that order and never back.
-/

namespace HostWatch

/-- A text that names no value of a kind. -/
structure UnknownName where
  kind : String
  value : String
  deriving Repr, DecidableEq

/-- The error in words. -/
def UnknownName.message (e : UnknownName) : String := "unknown " ++ e.kind ++ ": " ++ e.value

/-- Looks a name up whatever its case. -/
def parseName (kind : String) (table : List (String × α)) (s : String) : Except UnknownName α :=
  match Text.lookupCaseless table s with
  | some a => .ok a
  | none => .error ⟨kind, s⟩

/-! ## Severity -/

/-- How bad an alert is. -/
inductive Severity where
  | info
  | warning
  | error
  | critical
  deriving Repr, DecidableEq, Inhabited

namespace Severity

/-- Every severity, from least to most severe. -/
def all : List Severity := [info, warning, error, critical]

/-- The place of a severity in the order from least to most severe. -/
def rank : Severity → Nat
  | info => 0
  | warning => 1
  | error => 2
  | critical => 3

instance : LE Severity := ⟨fun a b => a.rank ≤ b.rank⟩

instance (a b : Severity) : Decidable (a ≤ b) := inferInstanceAs (Decidable (a.rank ≤ b.rank))

/-- The name of a severity. -/
def name : Severity → String
  | info => "info"
  | warning => "warning"
  | error => "error"
  | critical => "critical"

/-- The names that data may use. -/
def names : List (String × Severity) := all.map fun s => (s.name, s)

/-- Reads a severity that someone typed. -/
def parse : String → Except UnknownName Severity :=
  parseName "severity" (names ++ [("warn", warning)])

end Severity

/-! ## Category -/

/-- What an alert is about. -/
inductive Category where
  | cpu
  | memory
  | disk
  | packages
  | vulnerability
  | service
  | system
  /-- The words of an inference backend about another alert. -/
  | aiAnalysis
  deriving Repr, DecidableEq, Inhabited

namespace Category

/-- Every category. -/
def all : List Category := [cpu, memory, disk, packages, vulnerability, service, system, aiAnalysis]

/-- The name of a category. -/
def name : Category → String
  | cpu => "cpu"
  | memory => "memory"
  | disk => "disk"
  | packages => "packages"
  | vulnerability => "vulnerability"
  | service => "service"
  | system => "system"
  | aiAnalysis => "ai-analysis"

/-- The names that data may use. -/
def names : List (String × Category) := all.map fun c => (c.name, c)

/-- Reads a category that someone typed. -/
def parse : String → Except UnknownName Category :=
  parseName "category" (names ++ [("ai_analysis", aiAnalysis)])

end Category

/-! ## Status -/

/-- Where an alert stands in its life. -/
inductive Status where
  | active
  | acknowledged
  | dismissed
  deriving Repr, DecidableEq, Inhabited

namespace Status

/-- Every status. -/
def all : List Status := [active, acknowledged, dismissed]

/-- The name of a status. -/
def name : Status → String
  | active => "active"
  | acknowledged => "acknowledged"
  | dismissed => "dismissed"

/-- The names that data may use. -/
def names : List (String × Status) := all.map fun s => (s.name, s)

/-- Reads a status that someone typed. -/
def parse : String → Except UnknownName Status :=
  parseName "status" (names ++ [("ack", acknowledged)])

/-- The moves that a life may make: forward only. -/
def CanMoveTo : Status → Status → Prop
  | active, acknowledged | active, dismissed | acknowledged, dismissed => True
  | _, _ => False

instance (a b : Status) : Decidable (a.CanMoveTo b) := by
  cases a <;> cases b <;> unfold CanMoveTo <;> infer_instance

/-- Active or acknowledged. -/
def IsOpen (s : Status) : Prop := s ≠ dismissed

instance : DecidablePred IsOpen := fun s => inferInstanceAs (Decidable (s ≠ dismissed))

end Status

end HostWatch
