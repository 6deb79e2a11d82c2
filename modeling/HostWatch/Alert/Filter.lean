import HostWatch.Alert.Alert

/-!
# Choosing and counting alerts

A filter sets any of severity, category, status and source. Dismissed alerts are left out unless
it asks for them, either as a whole or by their status.
-/

namespace HostWatch

/-- Which alerts are wanted. -/
structure Filter where
  severity : Option Severity := none
  category : Option Category := none
  status : Option Status := none
  source : Option String := none
  includeDismissed : Bool := false
  /-- Greatest number of alerts wanted. -/
  limit : Option Nat := none
  deriving Repr, DecidableEq

namespace Filter

/-- Every alert. -/
def all : Filter := { includeDismissed := true }

/-- Dismissed alerts may be among those wanted. -/
def AdmitsDismissed (f : Filter) : Prop :=
  f.includeDismissed = true ∨ f.status = some .dismissed

instance (f : Filter) : Decidable f.AdmitsDismissed :=
  inferInstanceAs (Decidable (_ ∨ _))

/-- A field that is set must have the value of the alert. -/
def Agrees [DecidableEq α] (wanted : Option α) (value : α) : Prop := ∀ w ∈ wanted, value = w

instance [DecidableEq α] (wanted : Option α) (value : α) : Decidable (Agrees wanted value) := by
  unfold Agrees; infer_instance

/-- The alerts that a filter asks for, its limit aside. -/
def Matches (f : Filter) (a : Alert) : Prop :=
  (a.status = .dismissed → f.AdmitsDismissed) ∧ Agrees f.severity a.severity
    ∧ Agrees f.category a.category ∧ Agrees f.status a.status ∧ Agrees f.source a.source

instance (f : Filter) : DecidablePred f.Matches := fun a => by
  unfold Matches; infer_instance

/-! ## Filters as JSON -/

/-- The fields of a filter as they are read. -/
structure Draft where
  severity : Option (Option Severity) := none
  category : Option (Option Category) := none
  status : Option (Option Status) := none
  source : Option (Option String) := none
  includeDismissed : Option Bool := none
  limit : Option (Option Nat) := none

/-- The record of a filter. -/
def record : Json.Record Draft Filter where
  name := "struct AlertFilter"
  fields :=
    [.of "severity" true (.optional (.choice Severity.names)) (·.severity) fun v d =>
        { d with severity := some v },
      .of "category" true (.optional (.choice Category.names)) (·.category) fun v d =>
        { d with category := some v },
      .of "status" true (.optional (.choice Status.names)) (·.status) fun v d =>
        { d with status := some v },
      .of "source" true (.optional .string) (·.source) fun v d => { d with source := some v },
      .of "include_dismissed" true .bool (·.includeDismissed) fun v d =>
        { d with includeDismissed := some v },
      .of "limit" true (.optional (.natural "usize" 64)) (·.limit) fun v d =>
        { d with limit := some v }]
  start := {}
  finish d := .ok {
    severity := d.severity.join, category := d.category.join, status := d.status.join
    source := d.source.join, includeDismissed := d.includeDismissed.getD false
    limit := d.limit.join }

/-- A member for a field that is set. -/
def fieldMember (name : String) (toJson : α → Json) : Option α → List Json.Member
  | none => []
  | some a => [(name, toJson a)]

/-- The members of a filter, in the order they are written. -/
def members (f : Filter) : List Json.Member :=
  fieldMember "severity" (fun s => .str s.name) f.severity
    ++ fieldMember "category" (fun c => .str c.name) f.category
    ++ fieldMember "status" (fun s => .str s.name) f.status
    ++ fieldMember "source" .str f.source
    ++ [("include_dismissed", .bool f.includeDismissed)]
    ++ fieldMember "limit" (fun n => .int n) f.limit

/-- The text of a filter. -/
def encode (f : Filter) : String := Json.render (.obj f.members)

end Filter

/-! ## Counting -/

/-- How many alerts there are of each severity, and altogether. -/
structure Counts where
  info : Nat := 0
  warning : Nat := 0
  error : Nat := 0
  critical : Nat := 0
  total : Nat := 0
  deriving Repr, DecidableEq

namespace Counts

/-- The count of one severity. -/
def get (c : Counts) : Severity → Nat
  | .info => c.info
  | .warning => c.warning
  | .error => c.error
  | .critical => c.critical

/-- Counts one alert more. -/
def add (c : Counts) (s : Severity) : Counts :=
  let c := { c with total := c.total + 1 }
  match s with
  | .info => { c with info := c.info + 1 }
  | .warning => { c with warning := c.warning + 1 }
  | .error => { c with error := c.error + 1 }
  | .critical => { c with critical := c.critical + 1 }

/-- Counts alerts. -/
def tally (alerts : List Alert) : Counts := alerts.foldl (fun c a => c.add a.severity) {}

/-- The counts as JSON. -/
def toJson (c : Counts) : Json :=
  .object [("info", .int c.info), ("warning", .int c.warning), ("error", .int c.error),
    ("critical", .int c.critical), ("total", .int c.total)]

end Counts

/-- How many alerts are open. -/
structure OpenCounts where
  active : Nat := 0
  acknowledged : Nat := 0
  /-- Open alerts that are critical. -/
  critical : Nat := 0
  deriving Repr, DecidableEq

end HostWatch
