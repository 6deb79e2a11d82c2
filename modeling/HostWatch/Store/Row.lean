import HostWatch.Alert.Filter

/-!
# Rows of the alert table

A row keeps an alert as text columns. Rows that the store wrote itself read back as the alert they
were made from; rows that others wrote may hold anything, and then the first bad column decides
what is wrong with them.
-/

namespace HostWatch

/-- A row of the alert table. -/
structure Row where
  id : String
  severity : String
  category : String
  source : String
  message : String
  description : String
  createdAt : Int
  status : String
  acknowledgedAt : Option Int
  dismissedAt : Option Int
  /-- A JSON object of strings. -/
  metadata : String
  deriving Repr, DecidableEq

/-- Why a row is no alert, with the number of the column at fault. -/
inductive BadColumn where
  | name (column : Nat) (unknown : UnknownName)
  | metadata (failure : Json.Failure)
  | time (column : Nat) (seconds : Int)

/-- The fault of a column in words. -/
def BadColumn.message : BadColumn → String
  | .name i e => "Conversion error from type Text at index: " ++ toString i ++ ", " ++ e.message
  | .metadata f => "Conversion error from type Text at index: 10, " ++ f.message
  | .time i t => "Integer " ++ toString t ++ " out of range at index " ++ toString i

namespace Row

/-- The text of metadata. -/
def metadataText (m : NameMap String) : String := Json.render (.obj (Alert.textMembers m))

/-- The row of an alert. -/
def ofAlert (a : Alert) : Row :=
  { id := a.id, severity := a.severity.name, category := a.category.name, source := a.source
    message := a.message, description := a.description, createdAt := a.createdAt
    status := a.status.name, acknowledgedAt := a.acknowledgedAt, dismissedAt := a.dismissedAt
    metadata := metadataText a.metadata }

/-- A column that holds a name. -/
def nameColumn (column : Nat) (read : Except UnknownName α) : Except BadColumn α :=
  read.mapError (.name column)

/-- A column that holds a time. -/
def timeColumn (column : Nat) (seconds : Int) : Except BadColumn Int :=
  if IsTime seconds then .ok seconds else .error (.time column seconds)

/-- A column that may hold a time. -/
def timeColumn? (column : Nat) : Option Int → Except BadColumn (Option Int)
  | none => .ok none
  | some t => (timeColumn column t).map some

/-- The alert of a row. -/
def toAlert (r : Row) : Except BadColumn Alert := do
  let metadata ← (Json.Shape.textMap.read (Text.utf8 r.metadata)).mapError .metadata
  let createdAt ← timeColumn 6 r.createdAt
  let severity ← nameColumn 1 (Severity.parse r.severity)
  let category ← nameColumn 2 (Category.parse r.category)
  let status ← nameColumn 7 (Status.parse r.status)
  let acknowledgedAt ← timeColumn? 8 r.acknowledgedAt
  let dismissedAt ← timeColumn? 9 r.dismissedAt
  return {
    id := r.id, severity, category, source := r.source, message := r.message
    description := r.description, createdAt, metadata, status, acknowledgedAt, dismissedAt }

/-! ## Conditions on columns

Comparisons are exact: a name in other letters than the store writes is another name. -/

/-- The status column holds that name. -/
def HasStatus (r : Row) (s : Status) : Prop := r.status = s.name

instance (s : Status) : DecidablePred (HasStatus · s) := fun r =>
  inferInstanceAs (Decidable (r.status = s.name))

/-- The status column names an open status. -/
def NamesOpen (r : Row) : Prop := r.HasStatus .active ∨ r.HasStatus .acknowledged

instance : DecidablePred NamesOpen := fun r =>
  inferInstanceAs (Decidable (r.status = Status.active.name ∨ r.status = Status.acknowledged.name))

/-- A dismissed row whose dismissal lies before the cutoff. -/
def DismissedBefore (r : Row) (cutoff : Int) : Prop :=
  r.HasStatus .dismissed ∧ ∃ t ∈ r.dismissedAt, t < cutoff

instance (cutoff : Int) : DecidablePred (DismissedBefore · cutoff) := fun r => by
  unfold DismissedBefore HasStatus; infer_instance

/-- The rows that a filter selects, its limit aside. -/
def Selected (f : Filter) (r : Row) : Prop :=
  (∀ s ∈ f.severity, r.severity = s.name) ∧ (∀ c ∈ f.category, r.category = c.name)
    ∧ (∀ s ∈ f.source, r.source = s)
    ∧ match f.status with
      | some s => r.HasStatus s
      | none => f.includeDismissed = true ∨ ¬ r.HasStatus .dismissed

instance (f : Filter) : DecidablePred (Selected f) := fun r => by
  unfold Selected HasStatus; cases f.status <;> infer_instance

end Row

end HostWatch
