import HostWatch.Proofs.Json.TextMap
import HostWatch.Store.Basic

/-!
# Rows that the store wrote

The columns of a row that was made of an alert say what the alert says: the row reads back as the
alert (`toAlert_ofAlert`), and the conditions on columns by which the store finds its rows are
conditions on the alert.
-/

namespace HostWatch

/-! ## Names -/

@[simp] theorem Severity.parse_name (s : Severity) : Severity.parse s.name = .ok s := by
  cases s <;> rfl

@[simp] theorem Category.parse_name (c : Category) : Category.parse c.name = .ok c := by
  cases c <;> rfl

@[simp] theorem Status.parse_name (s : Status) : Status.parse s.name = .ok s := by
  cases s <;> rfl

theorem Severity.name_inj {a b : Severity} : a.name = b.name ↔ a = b := by
  cases a <;> cases b <;> decide

theorem Category.name_inj {a b : Category} : a.name = b.name ↔ a = b := by
  cases a <;> cases b <;> decide

theorem Status.name_inj {a b : Status} : a.name = b.name ↔ a = b := by
  cases a <;> cases b <;> decide

/-! ## Lists -/

/-- What is written of each element is read as this element. -/
theorem mapM_map_ok {f : β → Except ε α} {g : α → β} {as : List α}
    (h : ∀ a ∈ as, f (g a) = .ok a) : (as.map g).mapM f = .ok as := by
  induction as with
  | nil => rfl
  | cons a rest ih =>
    obtain ⟨first, others⟩ := List.forall_mem_cons.1 h
    rw [List.map_cons, List.mapM_cons, first, ih others]
    rfl

/-! ## Alerts in rows -/

/-- The moments of an alert are times. -/
structure Alert.IsTimely (a : Alert) : Prop where
  createdAt : IsTime a.createdAt
  acknowledgedAt : ∀ t ∈ a.acknowledgedAt, IsTime t
  dismissedAt : ∀ t ∈ a.dismissedAt, IsTime t

/-- An alert acknowledged at a moment. -/
def Alert.acknowledge (now : Int) (a : Alert) : Alert :=
  { a with status := .acknowledged, acknowledgedAt := some now }

/-- An alert dismissed at a moment. -/
def Alert.dismiss (now : Int) (a : Alert) : Alert :=
  { a with status := .dismissed, dismissedAt := some now }

/-- Dismissed before the cutoff. -/
def Alert.DismissedBefore (a : Alert) (cutoff : Int) : Prop :=
  a.status = .dismissed ∧ ∃ t ∈ a.dismissedAt, t < cutoff

instance (cutoff : Int) : DecidablePred (Alert.DismissedBefore · cutoff) := fun a => by
  unfold Alert.DismissedBefore; infer_instance

namespace Row

theorem timeColumn?_of_isTime {column : Nat} {t : Option Int} (h : ∀ x ∈ t, IsTime x) :
    timeColumn? column t = .ok t := by
  cases t with
  | none => rfl
  | some x => rw [timeColumn?, timeColumn, if_pos (h x rfl)]; rfl

/-- **Rows of alerts.** A row that was made of an alert reads back as that alert. -/
theorem toAlert_ofAlert {a : Alert} (h : a.IsTimely) : (ofAlert a).toAlert = .ok a := by
  have metadata : (Json.Shape.textMap.read (Text.utf8 (metadataText a.metadata))).mapError
      BadColumn.metadata = .ok a.metadata := by
    rw [metadataText, Json.read_textMap]
    rfl
  have createdAt : timeColumn 6 a.createdAt = .ok a.createdAt := if_pos h.createdAt
  simp only [toAlert, ofAlert, metadata, createdAt, timeColumn?_of_isTime h.acknowledgedAt,
    timeColumn?_of_isTime h.dismissedAt, nameColumn, Severity.parse_name, Category.parse_name,
    Status.parse_name]
  rfl

@[simp] theorem ofAlert_severity (a : Alert) : (ofAlert a).severity = a.severity.name := rfl

@[simp] theorem ofAlert_status (a : Alert) : (ofAlert a).status = a.status.name := rfl

@[simp] theorem hasStatus_ofAlert {a : Alert} {s : Status} :
    (ofAlert a).HasStatus s ↔ a.status = s := Status.name_inj

@[simp] theorem namesOpen_ofAlert {a : Alert} : (ofAlert a).NamesOpen ↔ a.status.IsOpen := by
  rw [NamesOpen, hasStatus_ofAlert, hasStatus_ofAlert, Status.IsOpen]
  cases a.status <;> decide

@[simp] theorem dismissedBefore_ofAlert {a : Alert} {cutoff : Int} :
    (ofAlert a).DismissedBefore cutoff ↔ a.DismissedBefore cutoff := by
  rw [DismissedBefore, hasStatus_ofAlert]
  rfl

/-- A row has one status at most. -/
theorem HasStatus.unique {r : Row} {s t : Status} (hs : r.HasStatus s) (ht : r.HasStatus t) :
    s = t := Status.name_inj.1 (hs.symm.trans ht)

theorem NamesOpen.not_dismissed {r : Row} (h : r.NamesOpen) : ¬ r.HasStatus .dismissed := by
  intro dismissed
  rcases h with active | acknowledged
  · exact absurd (active.unique dismissed) (by decide)
  · exact absurd (acknowledged.unique dismissed) (by decide)

theorem selected_all (r : Row) : r.Selected .all := by
  simp [Selected, Filter.all]

end Row

namespace Store

@[simp] theorem alertOf_ofAlert {a : Alert} (h : a.IsTimely) : alertOf (.ofAlert a) = .ok a := by
  rw [alertOf, Row.toAlert_ofAlert h]
  rfl

@[simp] theorem acknowledgeRow_ofAlert (now : Int) (a : Alert) :
    acknowledgeRow now (.ofAlert a) = .ofAlert (a.acknowledge now) := rfl

@[simp] theorem dismissRow_ofAlert (now : Int) (a : Alert) :
    dismissRow now (.ofAlert a) = .ofAlert (a.dismiss now) := rfl

theorem dismissible?_ofAlert (a : Alert) :
    dismissible? (.ofAlert a) =
      if a.status.IsOpen then some (a.status, a.severity) else none := by
  rw [dismissible?, Row.ofAlert_status, Row.ofAlert_severity, Status.parse_name,
    Severity.parse_name]
  cases a.status <;> rfl

/-- Changing rows of alerts is changing the alerts. -/
theorem updateRows_ofAlert {p : Row → Bool} {f : Row → Row} {q : Alert → Prop} [DecidablePred q]
    {g : Alert → Alert} (hp : ∀ a, p (.ofAlert a) = decide (q a))
    (hf : ∀ a, f (.ofAlert a) = .ofAlert (g a)) (alerts : List Alert) :
    updateRows p f (alerts.map .ofAlert) =
      (alerts.map fun a => if q a then g a else a).map .ofAlert := by
  rw [updateRows, List.map_map, List.map_map]
  refine List.map_congr_left fun a _ => ?_
  simp only [Function.comp_apply, hp, hf, decide_eq_true_eq]
  split <;> rfl

end Store

end HostWatch
