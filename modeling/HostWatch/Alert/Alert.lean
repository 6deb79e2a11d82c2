import HostWatch.Alert.Basic
import HostWatch.Json.Shape

/-!
# Alerts

An alert is the lasting record of something wrong. Its times are whole seconds since the epoch.
-/

namespace HostWatch

/-- The record of something wrong. -/
structure Alert where
  /-- Empty until the store gives it one. -/
  id : String
  severity : Severity
  category : Category
  source : String
  message : String
  description : String
  createdAt : Int
  metadata : NameMap String
  status : Status
  acknowledgedAt : Option Int
  dismissedAt : Option Int
  deriving DecidableEq

namespace Alert

/-- A new active alert. -/
def new (now : Int) (severity : Severity) (category : Category) (source message : String) : Alert :=
  { id := "", severity, category, source, message, description := "", createdAt := now
    metadata := .empty, status := .active, acknowledgedAt := none, dismissedAt := none }

/-- The metadata name that links an analysis to the alert it explains. -/
def parentKey : String := "parent_alert_id"

/-- The metadata name that marks an analysis. -/
def enhancedKey : String := "ai_enhanced"

/-- Whether an inference backend wrote the alert. -/
def isEnhanced (a : Alert) : Bool := a.metadata.get? enhancedKey = some "true"

/-- The alert that this one explains. -/
def parent? (a : Alert) : Option String := a.metadata.get? parentKey

end Alert

/-! ## Times -/

/-- Earliest and latest second that a time can stand for: from the year -262143 to 262142. -/
def earliestTime : Int := -8334601228800

/-- Latest second that a time can stand for. -/
def latestTime : Int := 8210266876799

/-- Whether a number of seconds stands for a time. -/
def IsTime (seconds : Int) : Prop := earliestTime ≤ seconds ∧ seconds ≤ latestTime

instance : DecidablePred IsTime := fun t =>
  inferInstanceAs (Decidable (earliestTime ≤ t ∧ t ≤ latestTime))

/-- What a time is called in messages. -/
def timeName : String := "a unix timestamp in seconds"

/-- A time. -/
def Json.Shape.time : Json.Shape Int :=
  number timeName fun
    | .int n => if IsTime n then .ok n else .error (.illegalTime n)
    | .float x => .error (.invalidType (.float x) timeName)

/-! ## Alerts as JSON -/

namespace Alert

/-- A string as a JSON value under a name. -/
def textMembers (m : NameMap String) : List Json.Member := m.entries.map fun (k, v) => (k, .str v)

/-- A time under a name, if there is one. -/
def timeMember (name : String) : Option Int → List Json.Member
  | none => []
  | some t => [(name, .int t)]

/-- The members of an alert, in the order they are written. -/
def members (a : Alert) : List Json.Member :=
  [("id", .str a.id), ("severity", .str a.severity.name), ("category", .str a.category.name),
    ("source", .str a.source), ("message", .str a.message), ("description", .str a.description),
    ("created_at", .int a.createdAt), ("metadata", .obj (textMembers a.metadata)),
    ("status", .str a.status.name)]
    ++ timeMember "acknowledged_at" a.acknowledgedAt ++ timeMember "dismissed_at" a.dismissedAt

/-- The text of an alert. -/
def encode (a : Alert) : String := Json.render (.obj a.members)

/-- An alert as a JSON value. -/
def toJson (a : Alert) : Json := .object a.members

/-- The fields of an alert as they are read. -/
structure Draft where
  id : Option String := none
  severity : Option Severity := none
  category : Option Category := none
  source : Option String := none
  message : Option String := none
  description : Option String := none
  createdAt : Option Int := none
  metadata : Option (NameMap String) := none
  status : Option Status := none
  acknowledgedAt : Option (Option Int) := none
  dismissedAt : Option (Option Int) := none

/-- The record of an alert. -/
def record : Json.Record Draft Alert where
  name := "struct Alert"
  fields :=
    [.of "id" true .string (·.id) fun v d => { d with id := some v },
      .of "severity" false (.choice Severity.names) (·.severity) fun v d =>
        { d with severity := some v },
      .of "category" false (.choice Category.names) (·.category) fun v d =>
        { d with category := some v },
      .of "source" false .string (·.source) fun v d => { d with source := some v },
      .of "message" false .string (·.message) fun v d => { d with message := some v },
      .of "description" true .string (·.description) fun v d => { d with description := some v },
      .of "created_at" false .time (·.createdAt) fun v d => { d with createdAt := some v },
      .of "metadata" true .textMap (·.metadata) fun v d => { d with metadata := some v },
      .of "status" false (.choice Status.names) (·.status) fun v d => { d with status := some v },
      .of "acknowledged_at" true (.optional .time) (·.acknowledgedAt) fun v d =>
        { d with acknowledgedAt := some v },
      .of "dismissed_at" true (.optional .time) (·.dismissedAt) fun v d =>
        { d with dismissedAt := some v }]
  start := {}
  finish d := do
    let severity ← Json.required "severity" d.severity
    let category ← Json.required "category" d.category
    let source ← Json.required "source" d.source
    let message ← Json.required "message" d.message
    let createdAt ← Json.required "created_at" d.createdAt
    let status ← Json.required "status" d.status
    return {
      id := d.id.getD "", severity, category, source, message
      description := d.description.getD "", createdAt, metadata := d.metadata.getD .empty, status
      acknowledgedAt := d.acknowledgedAt.join, dismissedAt := d.dismissedAt.join }

/-- Reads an alert. -/
def decode (bytes : List UInt8) : Except Json.Failure Alert := record.shape.read bytes

end Alert

end HostWatch
