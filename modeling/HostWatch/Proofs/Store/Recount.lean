import HostWatch.Proofs.Store.Contents

/-!
# Counters and recounts

`counters_eq_recount`: however often a store was written, closed and opened again, its counters are
what counting its rows anew gives.

1. The counters are the census of the alerts (`Holds`), and a census is at most the number of alerts.
2. Whatever an operation takes off a counter was counted before, and a table runs full before a
   counter does, so no counter ever stops at an end of its range (`Op.Unclamped`).
-/

namespace HostWatch.Store

/-- No counter that the operation moves stops at an end of its range: what is taken off it is
there, and what is added to it fits. -/
def Op.Unclamped (op : Op) (s : Store) : Prop :=
  match op with
  | .create fresh a =>
    (∃ stored, (s.create fresh a).1 = .ok stored) →
      s.counts.get a.severity + 1 ≤ maxCount ∧ s.counts.total + 1 ≤ maxCount ∧
        s.openCounts.active + 1 ≤ maxCount ∧ s.openCounts.critical + 1 ≤ maxCount
  | .acknowledge now id =>
    (s.acknowledge now id).1 = true →
      1 ≤ s.openCounts.active ∧ s.openCounts.acknowledged + 1 ≤ maxCount
  | .acknowledgeAll now =>
    (s.acknowledgeAll now).1 ≤ s.openCounts.active ∧
      s.openCounts.acknowledged + (s.acknowledgeAll now).1 ≤ maxCount
  | .dismiss _ id =>
    ∀ r ∈ s.rows, r.id = id →
      (r.HasStatus .active → 1 ≤ s.openCounts.active) ∧
        (r.HasStatus .acknowledged → 1 ≤ s.openCounts.acknowledged) ∧
        (r.NamesOpen → r.severity = Severity.critical.name → 1 ≤ s.openCounts.critical)
  | .dismissAll _ => True
  | .purgeDismissedBefore cutoff =>
    let removed := s.rows.filter fun r => decide (r.DismissedBefore cutoff)
    (∀ v : Severity, removed.countP (·.severity = v.name) ≤ s.counts.get v) ∧
      removed.length ≤ s.counts.total
  | .reopen => s.rows.length ≤ maxCount

/-- The counters say what the rows say, a recount gives them again, and no operation can take them
out of their range. -/
structure CountsExactly (s : Store) : Prop where
  counts : ∃ alerts, s.list .all = .ok alerts ∧ s.counts = .tally alerts
  active : s.openCounts.active = s.rows.countP (·.HasStatus .active)
  acknowledged : s.openCounts.acknowledged = s.rows.countP (·.HasStatus .acknowledged)
  critical : s.openCounts.critical =
    s.rows.countP fun r => r.severity = Severity.critical.name ∧ ¬ r.HasStatus .dismissed
  reopened : s.reopen.counters = s.counters
  unclamped : ∀ op : Op, op.Unclamped s

/-- Only active rows are acknowledged. -/
theorem acknowledgeWhere_le (s : Store) (now : Int) (p : Row → Bool) :
    (s.acknowledgeWhere now p).1 ≤ s.rows.countP (·.HasStatus .active) := by
  rw [acknowledgeWhere, rows]
  cases s.table with
  | none => exact Nat.zero_le _
  | some rows =>
    refine List.countP_mono_left fun r _ chosen => ?_
    exact (Bool.and_eq_true_iff.1 chosen).2

/-- Open rows are acknowledged or active, and never both. -/
theorem countP_namesOpen (rows : List Row) : rows.countP (·.NamesOpen) =
    rows.countP (·.HasStatus .acknowledged) + rows.countP (·.HasStatus .active) := by
  refine countP_eq_add fun r _ => ?_
  by_cases acknowledged : r.HasStatus .acknowledged
  · have : ¬ r.HasStatus .active := fun active =>
      absurd (Status.name_inj.1 (active.symm.trans acknowledged)) (by decide)
    simp [Row.NamesOpen, acknowledged, this]
  · simp [Row.NamesOpen, acknowledged]

namespace Holds

variable {s : Store} {alerts : List Alert} (h : s.Holds alerts)

include h

/-! ## Counters in terms of rows -/

theorem countP_rows {p : Row → Bool} {q : Alert → Bool} (hp : ∀ a, p (.ofAlert a) = q a) :
    s.rows.countP p = alerts.countP q := by
  rw [h.rows_eq, List.countP_map]
  exact congrArg (alerts.countP ·) (funext hp)

theorem counts_eq : s.counts = .tally alerts := congrArg Counters.counts h.counters

theorem get_counts (v : Severity) : s.counts.get v = s.rows.countP (·.severity = v.name) := by
  rw [h.counts_eq, Counts.get_tally,
    h.countP_rows fun a => decide_eq_decide.2 (Severity.name_inj (a := a.severity))]

theorem total_counts : s.counts.total = s.rows.length := by
  rw [h.counts_eq, Counts.total_tally, h.rows_eq, List.length_map]

theorem active_eq : s.openCounts.active = s.rows.countP (·.HasStatus .active) := by
  rw [openCounts, h.counters, h.countP_rows fun a => decide_eq_decide.2 Row.hasStatus_ofAlert]
  rfl

theorem acknowledged_eq :
    s.openCounts.acknowledged = s.rows.countP (·.HasStatus .acknowledged) := by
  rw [openCounts, h.counters, h.countP_rows fun a => decide_eq_decide.2 Row.hasStatus_ofAlert]
  rfl

/-- The counters of active and of acknowledged alerts together count the open rows. -/
theorem open_eq :
    s.openCounts.active + s.openCounts.acknowledged = s.rows.countP (·.NamesOpen) := by
  rw [h.active_eq, h.acknowledged_eq, countP_namesOpen, Nat.add_comm]

theorem critical_eq : s.openCounts.critical =
    s.rows.countP fun r => r.severity = Severity.critical.name ∧ ¬ r.HasStatus .dismissed := by
  have urgent (a : Alert) : decide ((Row.ofAlert a).severity = Severity.critical.name ∧
      ¬ (Row.ofAlert a).HasStatus .dismissed) = decide a.IsUrgent := by
    rw [decide_eq_decide, Row.hasStatus_ofAlert, Row.ofAlert_severity, Severity.name_inj]
    rfl
  rw [openCounts, h.counters, h.countP_rows urgent]
  rfl

/-! ## Room -/

theorem length_rows_lt : s.rows.length < maxCount := by
  have : maxRows < maxCount := by decide
  have := h.length_le
  rw [h.rows_eq, List.length_map]
  omega

/-- What is counted among the rows can be counted once more. -/
theorem countP_rows_lt (p : Row → Bool) : s.rows.countP p + 1 ≤ maxCount :=
  Nat.lt_of_le_of_lt List.countP_le_length h.length_rows_lt

/-- Active and acknowledged rows together are some of the rows. -/
theorem acknowledged_add_active_le :
    s.rows.countP (·.HasStatus .acknowledged) + s.rows.countP (·.HasStatus .active) ≤ maxCount := by
  rw [← countP_namesOpen]
  exact Nat.le_of_lt (h.countP_rows_lt _)

theorem unclamped (op : Op) : op.Unclamped s := by
  have once (p : Row → Bool) := h.countP_rows_lt p
  cases op with
  | create fresh a =>
    intro _
    rw [h.get_counts, h.total_counts, h.active_eq, h.critical_eq]
    exact ⟨once _, h.length_rows_lt, once _, once _⟩
  | acknowledge now id =>
    intro moved
    have one : (s.acknowledgeWhere now (·.id = id)).1 = 1 := of_decide_eq_true moved
    rw [h.active_eq, h.acknowledged_eq]
    exact ⟨one ▸ s.acknowledgeWhere_le now _, once _⟩
  | acknowledgeAll now =>
    have le : (s.acknowledgeAll now).1 ≤ s.rows.countP (·.HasStatus .active) :=
      s.acknowledgeWhere_le now _
    have room := h.acknowledged_add_active_le
    rw [Op.Unclamped, h.active_eq, h.acknowledged_eq]
    omega
  | dismiss now id =>
    intro r hr _
    rw [h.active_eq, h.acknowledged_eq, h.critical_eq]
    have counted {p : Row → Bool} (hp : p r = true) : 1 ≤ s.rows.countP p :=
      List.countP_pos_iff.2 ⟨r, hr, hp⟩
    refine ⟨fun active => counted (decide_eq_true active),
      fun acknowledged => counted (decide_eq_true acknowledged), fun isOpen critical => ?_⟩
    exact counted (decide_eq_true ⟨critical, isOpen.not_dismissed⟩)
  | dismissAll now => exact trivial
  | purgeDismissedBefore cutoff =>
    refine ⟨fun v => ?_, ?_⟩
    · rw [h.get_counts]
      exact List.filter_sublist.countP_le
    · rw [h.total_counts]
      exact List.length_filter_le _ _
  | reopen => exact Nat.le_of_lt h.length_rows_lt

theorem countsExactly (times : ∀ a ∈ alerts, a.IsTimely) : s.CountsExactly where
  counts := by
    obtain ⟨listed, hlist, perm⟩ := h.list_all times
    exact ⟨listed, hlist, h.counts_eq.trans (Counts.tally_perm perm).symm⟩
  active := h.active_eq
  acknowledged := h.acknowledged_eq
  critical := h.critical_eq
  reopened := congrArg Store.counters h.reopen_eq
  unclamped := h.unclamped

end Holds

/-! ## Reachable stores -/

/-- **Counters.** After any operations on an empty store, refused ones and new openings among them,
the counters are the recount of the rows, and no further operation makes a counter stop short. -/
theorem counters_eq_recount {s : Store} (h : s.Reachable) : s.CountsExactly := by
  obtain ⟨alerts, holds, times⟩ := h.holds
  exact holds.countsExactly times

theorem counters_eq_recount_seasoned :
    seasoned.Reachable ∧ seasoned.CountsExactly ∧
      seasoned.openCounts = { active := 1 } :=
  ⟨seasoned_reachable, counters_eq_recount seasoned_reachable, by decide⟩

end HostWatch.Store
