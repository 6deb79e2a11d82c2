import HostWatch.Monitor.Cycle
import HostWatch.Proofs.Store.History

/-!
# Open alerts of the monitor

An alert stands for a category and a severity while it is open and the monitor raised it. A store
that only the monitor and its tasks fill holds at most one such alert for each of them
(`OneEach`), because

1. nothing that happens to a stored alert makes it stand again (`OneEach.apply`);
2. an analysis has another source, so it stands for nothing (`OneEach.analysis`);
3. an alert of the monitor is stored only when none stands in its place (`OneEach.create`).

The ids come from one supply, so a new one is never taken (`OneEach.createFresh_ok`).
-/

namespace HostWatch

open Store (Op)

/-! ## Findings -/

theorem category_of_resourceFinding {category : Category} {label detail : String}
    {usage warning critical : Float} {f : Finding}
    (h : f ∈ resourceFinding category label usage warning critical detail) :
    f.category = category := by
  unfold resourceFinding at h
  obtain ⟨v, _, rfl⟩ := Option.map_eq_some_iff.1 h
  rfl

theorem category_of_securityFinding {s : Snapshot} {f : Finding} (h : f ∈ securityFinding s) :
    f.category = .vulnerability := by
  unfold securityFinding at h
  split at h
  · cases h
  · cases h
    rfl

theorem category_of_updatesFinding {s : Snapshot} {limits : Limits} {f : Finding}
    (h : f ∈ updatesFinding s limits) : f.category = .packages := by
  unfold updatesFinding at h
  split at h
  · cases h
  · cases h
    rfl

theorem sublist_of_category {found : Option Finding} {c : Category}
    (h : ∀ f ∈ found, f.category = c) : (found.toList.map (·.category)).Sublist [c] := by
  cases found with
  | none => exact List.nil_sublist _
  | some f =>
    rw [Option.toList_some, List.map_singleton, h f rfl]

/-- Findings come in a fixed order of categories, each one at most once. -/
theorem categories_evaluate (s : Snapshot) (limits : Limits) :
    ((evaluate s limits).map (·.category)).Sublist
      [.cpu, .memory, .disk, .vulnerability, .packages] := by
  unfold evaluate
  simp only [List.map_append]
  have cpu := sublist_of_category fun f (hf : f ∈ cpuFinding s limits) =>
    category_of_resourceFinding hf
  have memory := sublist_of_category fun f (hf : f ∈ memoryFinding s limits) =>
    category_of_resourceFinding hf
  have disk := sublist_of_category fun f (hf : f ∈ diskFinding s limits) =>
    category_of_resourceFinding hf
  have security := sublist_of_category fun f (hf : f ∈ securityFinding s) =>
    category_of_securityFinding hf
  have updates := sublist_of_category fun f (hf : f ∈ updatesFinding s limits) =>
    category_of_updatesFinding hf
  exact (((cpu.append memory).append disk).append security).append updates

theorem nodup_categories (s : Snapshot) (limits : Limits) :
    ((evaluate s limits).map (·.category)).Nodup :=
  (categories_evaluate s limits).nodup (by decide)

theorem length_evaluate_le (s : Snapshot) (limits : Limits) : (evaluate s limits).length ≤ 5 := by
  have := (categories_evaluate s limits).length_le
  rwa [List.length_map] at this

/-! ## Standing -/

/-- An open alert that the monitor raised, of this category and severity. -/
def Alert.StandsFor (a : Alert) (c : Category) (v : Severity) : Prop :=
  a.category = c ∧ a.severity = v ∧ a.source = Finding.source ∧ a.status.IsOpen

instance (c : Category) (v : Severity) : DecidablePred (Alert.StandsFor · c v) := fun a => by
  unfold Alert.StandsFor; infer_instance

@[inherit_doc Alert.StandsFor]
def Row.StandsFor (r : Row) (c : Category) (v : Severity) : Prop :=
  r.category = c.name ∧ r.severity = v.name ∧ r.source = Finding.source ∧ r.NamesOpen

instance (c : Category) (v : Severity) : DecidablePred (Row.StandsFor · c v) := fun r => by
  unfold Row.StandsFor; infer_instance

theorem Row.standsFor_ofAlert {a : Alert} {c : Category} {v : Severity} :
    (Row.ofAlert a).StandsFor c v ↔ a.StandsFor c v := by
  unfold Row.StandsFor Alert.StandsFor
  rw [Row.namesOpen_ofAlert, Row.ofAlert_severity, Severity.name_inj]
  show a.category.name = c.name ∧ _ ↔ _
  rw [Category.name_inj]
  rfl

theorem Store.Holds.countP_standsFor {s : Store} {alerts : List Alert} (h : s.Holds alerts)
    (c : Category) (v : Severity) :
    s.rows.countP (·.StandsFor c v) = alerts.countP (·.StandsFor c v) := by
  rw [h.rows_eq, List.countP_map]
  exact List.countP_congr fun a _ => by simp [Row.standsFor_ofAlert]

/-- What has become of an alert stands only if the alert stood. -/
theorem standsFor_of_fate {op : Op} {a b : Alert} (fate : op.fate a = some b) {c : Category}
    {v : Severity} (h : b.StandsFor c v) : a.StandsFor c v := by
  rcases Op.moves_of_fate fate with rfl | moves
  · exact h
  · obtain ⟨category, severity, source, _⟩ := h
    cases moves with
    | acknowledge now active => exact ⟨category, severity, source, by rw [active]; decide⟩
    | dismiss now wasOpen => exact ⟨category, severity, source, wasOpen⟩

theorem countP_fate_le (op : Op) (alerts : List Alert) (c : Category) (v : Severity) :
    (alerts.filterMap op.fate).countP (·.StandsFor c v) ≤ alerts.countP (·.StandsFor c v) := by
  rw [List.countP_filterMap]
  refine List.countP_mono_left fun a _ h => ?_
  cases fate : op.fate a with
  | none => rw [fate] at h; cases h
  | some b =>
    rw [fate] at h
    exact decide_eq_true (standsFor_of_fate fate (of_decide_eq_true h))

/-! ## One alert for each category and severity -/

namespace Store

/-- The store holds these alerts, all under ids that the supply has given out, and at most one of
them stands for any category and severity. -/
structure OneEach (s : Store) (ids : IdSupply) (alerts : List Alert) : Prop where
  holds : s.Holds alerts
  named : ∀ a ∈ alerts, ∃ k < ids.given, a.id = ids.name k
  once : ∀ c v, alerts.countP (·.StandsFor c v) ≤ 1

theorem oneEach_onTable_none (location : String) (name : Nat → String) :
    (onTable location none).OneEach { name } [] where
  holds := holds_onTable_none location
  named _ ha := absurd ha List.not_mem_nil
  once _ _ := Nat.zero_le _

/-- An alert without an id is refused, or it is added and uses up the next id. -/
theorem Holds.createFresh_cases {s : Store} {alerts : List Alert} (h : s.Holds alerts)
    (ids : IdSupply) {a : Alert} (unnamed : a.id = "") :
    (Op.added (.create ids.next a) alerts = [] ∧ ∃ e, s.createFresh ids a = (.error e, s, ids)) ∨
      Op.added (.create ids.next a) alerts = [prepare ids.next a] ∧
        s.createFresh ids a =
          (.ok (prepare ids.next a), (Op.create ids.next a).apply s, ids.advance) := by
  unfold createFresh
  rcases h.create_cases ids.next a with ⟨none, e, refused⟩ | ⟨one, created⟩
  · rw [refused]
    exact .inl ⟨none, e, rfl⟩
  · rw [created, unnamed]
    exact .inr ⟨one, rfl⟩

namespace OneEach

variable {s : Store} {ids : IdSupply} {alerts : List Alert} (h : s.OneEach ids alerts)

include h

/-- What is done to stored alerts leaves one of each at most. -/
theorem apply {op : Op} (added : op.added alerts = []) :
    (op.apply s).OneEach ids (op.after alerts) := by
  have after : op.after alerts = alerts.filterMap op.fate := by
    rw [Op.after, added, List.append_nil]
  refine ⟨h.holds.apply op, fun b hb => ?_, fun c v => ?_⟩
  · rw [after] at hb
    obtain ⟨a, ha, fate⟩ := List.mem_filterMap.1 hb
    rw [Op.id_of_fate fate]
    exact h.named a ha
  · rw [after]
    exact Nat.le_trans (countP_fate_le op alerts c v) (h.once c v)

/-- An alert without an id joins the others where no other stands for what it stands for. -/
theorem create {a : Alert} (unnamed : a.id = "")
    (alone : ∀ c v, (prepare ids.next a).StandsFor c v → ∀ b ∈ alerts, ¬ b.StandsFor c v) :
    (s.createFresh ids a).2.1.OneEach (s.createFresh ids a).2.2
      (Op.after (.create ids.next a) alerts) := by
  rcases h.holds.createFresh_cases ids unnamed with ⟨none, e, refused⟩ | ⟨one, stored⟩
  · rw [refused, Op.after_create, none, List.append_nil]
    exact h
  · rw [stored]
    have holds := h.holds.apply (.create ids.next a)
    refine ⟨holds, fun b hb => ?_, fun c v => ?_⟩
    · rw [Op.after_create, one, List.mem_append, List.mem_singleton] at hb
      rcases hb with hb | rfl
      · obtain ⟨k, hk, id⟩ := h.named b hb
        exact ⟨k, Nat.lt_succ_of_lt hk, id⟩
      · exact ⟨ids.given, Nat.lt_succ_self _, prepare_id unnamed _⟩
    · rw [Op.after_create, one, List.countP_append, List.countP_singleton]
      have := h.once c v
      by_cases stands : (prepare ids.next a).StandsFor c v
      · have none : alerts.countP (·.StandsFor c v) = 0 := by
          rw [List.countP_eq_zero]
          intro b hb
          simpa using alone c v stands b hb
        rw [if_pos (decide_eq_true stands)]
        omega
      · rw [if_neg (by simpa using stands)]
        omega

/-- Ids that are all different never run into each other, so only a full table refuses an alert. -/
theorem added_of_room (distinct : Function.Injective ids.name) (room : alerts.length < maxRows)
    {a : Alert} (unnamed : a.id = "") :
    Op.added (.create ids.next a) alerts = [prepare ids.next a] := by
  rw [Op.added_create, prepare_id unnamed, if_neg]
  rintro (taken | full)
  · obtain ⟨b, hb, same⟩ := List.any_eq_true.1 taken
    obtain ⟨k, hk, id⟩ := h.named b hb
    have : k = ids.given := distinct (id.symm.trans (of_decide_eq_true same))
    omega
  · omega

end OneEach

end Store

end HostWatch
