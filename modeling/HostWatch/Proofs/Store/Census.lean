import HostWatch.Proofs.Store.Rows
import Mathlib.Data.List.Induction

/-!
# Counting alerts

The census of some alerts is what the counters of a store that holds just these alerts should be:
every alert counted anew, with nothing that could run full. Each operation on the alerts moves the
census as the store moves its counters:

* `census_concat`: one alert more, whether it has just been created or was read from the table;
* `census_acknowledge`, `census_dismiss`, `census_dismissAll`: alerts that change their status;
* `census_purge`: dismissed alerts that go away.
-/

namespace HostWatch

/-! ## Counts by severity -/

namespace Counts

theorem ext_get {a b : Counts} (h : ∀ s, a.get s = b.get s) (total : a.total = b.total) :
    a = b := by
  obtain ⟨i, w, e, c, t⟩ := a
  obtain ⟨i', w', e', c', t'⟩ := b
  obtain rfl : i = i' := h .info
  obtain rfl : w = w' := h .warning
  obtain rfl : e = e' := h .error
  obtain rfl : c = c' := h .critical
  obtain rfl : t = t' := total
  rfl

theorem get_change (c : Counts) (f : Nat → Nat) (s t : Severity) :
    (c.change f s).get t = if t = s then f (c.get t) else c.get t := by
  cases s <;> cases t <;> rfl

@[simp] theorem total_change (c : Counts) (f : Nat → Nat) (s : Severity) :
    (c.change f s).total = f c.total := by
  cases s <;> rfl

theorem get_add (c : Counts) (s t : Severity) :
    (c.add s).get t = c.get t + if t = s then 1 else 0 := by
  cases s <;> cases t <;> rfl

@[simp] theorem total_add (c : Counts) (s : Severity) : (c.add s).total = c.total + 1 := by
  cases s <;> rfl

theorem tally_concat (alerts : List Alert) (a : Alert) :
    tally (alerts ++ [a]) = (tally alerts).add a.severity := by
  rw [tally, List.foldl_append]
  rfl

theorem get_tally (alerts : List Alert) (s : Severity) :
    (tally alerts).get s = alerts.countP (·.severity = s) := by
  induction alerts using List.reverseRecOn with
  | nil => cases s <;> rfl
  | append_singleton l a ih =>
    rw [tally_concat, get_add, ih, List.countP_append, List.countP_singleton]
    simp only [decide_eq_true_eq, eq_comm (a := s)]

@[simp] theorem total_tally (alerts : List Alert) : (tally alerts).total = alerts.length := by
  induction alerts using List.reverseRecOn with
  | nil => rfl
  | append_singleton l a ih =>
    rw [tally_concat, total_add, ih, List.length_append, List.length_singleton]

/-- The counts by severity add up to the total. -/
theorem total_eq_sum (alerts : List Alert) : (tally alerts).total =
    (tally alerts).info + (tally alerts).warning + (tally alerts).error +
      (tally alerts).critical := by
  induction alerts using List.reverseRecOn with
  | nil => rfl
  | append_singleton l a ih =>
    rw [tally_concat]
    cases a.severity <;> simp only [add] <;> omega

theorem tally_map {f : Alert → Alert} (h : ∀ a, (f a).severity = a.severity)
    (alerts : List Alert) : tally (alerts.map f) = tally alerts := by
  simp only [tally, List.foldl_map, h]

theorem tally_perm {as bs : List Alert} (h : as.Perm bs) : tally as = tally bs := by
  refine ext_get (fun s => ?_) ?_
  · rw [get_tally, get_tally, h.countP_eq]
  · rw [total_tally, total_tally, h.length_eq]

end Counts

/-! ## The census -/

/-- Open and critical. -/
def Alert.IsUrgent (a : Alert) : Prop := a.severity = .critical ∧ a.status.IsOpen

instance : DecidablePred Alert.IsUrgent := fun a =>
  inferInstanceAs (Decidable (a.severity = .critical ∧ a.status.IsOpen))

/-- The counters of these alerts, each alert counted anew. -/
def census (alerts : List Alert) : Counters where
  counts := .tally alerts
  openCounts :=
    { active := alerts.countP (·.status = .active)
      acknowledged := alerts.countP (·.status = .acknowledged)
      critical := alerts.countP (·.IsUrgent) }

/-- Where one condition holds just where one of two others does, and never both, their numbers
add up. -/
theorem countP_eq_add {p q r : α → Bool} {l : List α}
    (h : ∀ a ∈ l, (if p a then 1 else 0) = (if q a then 1 else 0) + (if r a then 1 else 0 : Nat)) :
    l.countP p = l.countP q + l.countP r := by
  induction l with
  | nil => rfl
  | cons a l ih =>
    have ha := h a List.mem_cons_self
    have hl := ih fun b hb => h b (List.mem_cons_of_mem _ hb)
    rw [List.countP_cons, List.countP_cons, List.countP_cons, hl]
    omega

theorem countUp_of_lt {n : Nat} (h : n < maxCount) : countUp n 1 = n + 1 :=
  Nat.min_eq_left h

/-- The row of one alert more is counted. -/
theorem census_concat {alerts : List Alert} (h : alerts.length < maxCount) (a : Alert) :
    census (alerts ++ [a]) = (census alerts).addRow (.ofAlert a) := by
  have counts : Counts.tally (alerts ++ [a]) =
      (Counts.tally alerts).change (countUp · 1) a.severity := by
    refine Counts.ext_get (fun s => ?_) ?_
    · have le : (Counts.tally alerts).get s ≤ alerts.length := by
        rw [Counts.get_tally]
        exact List.countP_le_length
      rw [Counts.tally_concat, Counts.get_add, Counts.get_change, countUp_of_lt (by omega)]
      split <;> rfl
    · rw [Counts.total_change, Counts.total_tally, Counts.total_tally, countUp_of_lt h,
        List.length_append, List.length_singleton]
  have urgent : a.IsUrgent ↔ a.severity = .critical ∧ a.status ≠ .dismissed := Iff.rfl
  simp only [census, Counters.addRow, Row.ofAlert_severity, Row.ofAlert_status,
    Severity.parse_name, Status.parse_name, counts, List.countP_append, List.countP_singleton]
  cases hs : a.status with
  | active => simp [hs, urgent]
  | acknowledged => simp [hs, urgent]
  | dismissed => simp [hs, urgent]

theorem created_eq_addRow (c : Counters) {a : Alert} (h : a.status = .active) :
    c.created a.severity = c.addRow (.ofAlert a) := by
  simp only [Counters.created, Counters.addRow, Row.ofAlert_severity, Row.ofAlert_status,
    Severity.parse_name, Status.parse_name, h]

/-- Counting the rows of a table is counting its alerts. -/
theorem ofRows_ofAlert {alerts : List Alert} (h : alerts.length ≤ maxCount) :
    Counters.ofRows (alerts.map .ofAlert) = census alerts := by
  induction alerts using List.reverseRecOn with
  | nil => rfl
  | append_singleton l a ih =>
    rw [List.length_append, List.length_singleton] at h
    rw [census_concat (by omega), ← ih (by omega), Counters.ofRows, List.map_append,
      List.foldl_append]
    rfl

/-! ## Alerts that change their status -/

section Moves

variable (now : Int)

/-- Active alerts that are acknowledged. -/
theorem census_acknowledge (p : Alert → Prop) [DecidablePred p] (alerts : List Alert) :
    census (alerts.map fun a => if p a ∧ a.status = .active then a.acknowledge now else a) =
      (census alerts).acknowledged (alerts.countP fun a => p a ∧ a.status = .active) := by
  have counts := Counts.tally_map
    (f := fun a => if p a ∧ a.status = .active then a.acknowledge now else a)
    (fun a => by split <;> rfl) alerts
  have active : alerts.countP (·.status = .active) =
      alerts.countP (fun a =>
        (if p a ∧ a.status = .active then a.acknowledge now else a).status = .active) +
      alerts.countP (fun a => p a ∧ a.status = .active) := by
    refine countP_eq_add fun a _ => ?_
    by_cases h : p a ∧ a.status = .active
    · simp [h, Alert.acknowledge]
    · simp [h]
  have acknowledged : alerts.countP (fun a =>
        (if p a ∧ a.status = .active then a.acknowledge now else a).status = .acknowledged) =
      alerts.countP (·.status = .acknowledged) +
      alerts.countP (fun a => p a ∧ a.status = .active) := by
    refine countP_eq_add fun a _ => ?_
    by_cases h : p a ∧ a.status = .active
    · simp [h, Alert.acknowledge]
    · simp [h]
  have critical : alerts.countP (fun a =>
        (if p a ∧ a.status = .active then a.acknowledge now else a).IsUrgent) =
      alerts.countP (·.IsUrgent) := by
    refine List.countP_congr fun a _ => ?_
    by_cases h : p a ∧ a.status = .active
    · simp [h, Alert.acknowledge, Alert.IsUrgent, Status.IsOpen]
    · simp [h]
  simp only [census, Counters.acknowledged, List.countP_map, Function.comp_def, counts, critical,
    acknowledged]
  rw [active, Nat.add_sub_cancel]

/-- Open alerts that are all dismissed. -/
theorem census_dismissAll (alerts : List Alert) :
    census (alerts.map fun a => if a.status.IsOpen then a.dismiss now else a) =
      (census alerts).allDismissed := by
  have counts := Counts.tally_map
    (f := fun a => if a.status.IsOpen then a.dismiss now else a)
    (fun a => by split <;> rfl) alerts
  have closed (a : Alert) : (if a.status.IsOpen then a.dismiss now else a).status = .dismissed := by
    split
    · rfl
    · next h => exact Decidable.not_not.1 h
  have none (p : Alert → Bool) (hp : ∀ a, a.status = .dismissed → p a = false) :
      (alerts.map fun a => if a.status.IsOpen then a.dismiss now else a).countP p = 0 := by
    rw [List.countP_eq_zero]
    intro b hb
    obtain ⟨a, _, rfl⟩ := List.mem_map.1 hb
    rw [hp _ (closed a)]
    exact Bool.false_ne_true
  simp only [census, Counters.allDismissed, counts]
  rw [none _ fun a h => by simp [h], none _ fun a h => by simp [h],
    none _ fun a h => by simp [Alert.IsUrgent, Status.IsOpen, h]]

/-- Of alerts with different ids, one at most has a given id. -/
theorem countP_id {alerts : List Alert} (h : (alerts.map (·.id)).Nodup) {a : Alert}
    (ha : a ∈ alerts) (p : Alert → Prop) [DecidablePred p] :
    alerts.countP (fun b => b.id = a.id ∧ p b) = if p a then 1 else 0 := by
  induction alerts with
  | nil => exact absurd ha List.not_mem_nil
  | cons b l ih =>
    rw [List.map_cons, List.nodup_cons] at h
    rw [List.countP_cons]
    rcases List.mem_cons.1 ha with rfl | ha
    · have none : l.countP (fun b => b.id = a.id ∧ p b) = 0 := by
        rw [List.countP_eq_zero]
        intro b hb
        have ne : b.id ≠ a.id := fun same => h.1 (same ▸ List.mem_map_of_mem hb)
        simp [ne]
      rw [none]
      simp
    · have ne : b.id ≠ a.id := fun same => h.1 (same ▸ List.mem_map_of_mem ha)
      rw [ih h.2 ha]
      simp [ne]

/-- One open alert that is dismissed. -/
theorem census_dismiss {alerts : List Alert} (h : (alerts.map (·.id)).Nodup) {a : Alert}
    (ha : a ∈ alerts) (hopen : a.status.IsOpen) :
    census (alerts.map fun b => if b.id = a.id ∧ b.status.IsOpen then b.dismiss now else b) =
      (census alerts).dismissed a.status a.severity := by
  have counts := Counts.tally_map
    (f := fun b => if b.id = a.id ∧ b.status.IsOpen then b.dismiss now else b)
    (fun b => by split <;> rfl) alerts
  -- what holds of open alerts only stops holding of `a`, and of no other alert
  have fewer (p : Alert → Prop) [DecidablePred p] (hp : ∀ b, p b → b.status.IsOpen) :
      (alerts.map fun b => if b.id = a.id ∧ b.status.IsOpen then b.dismiss now else b).countP p =
        alerts.countP p - if p a then 1 else 0 := by
    have split : alerts.countP p =
        alerts.countP (fun b =>
          p (if b.id = a.id ∧ b.status.IsOpen then b.dismiss now else b)) +
        alerts.countP (fun b => b.id = a.id ∧ p b) := by
      refine countP_eq_add fun b _ => ?_
      have gone : ¬ p (b.dismiss now) := fun hb => hp _ hb rfl
      by_cases hb : b.id = a.id ∧ b.status.IsOpen
      · simp [hb, gone]
      · have : ¬ (b.id = a.id ∧ p b) := fun hx => hb ⟨hx.1, hp b hx.2⟩
        simp [hb, this]
    rw [List.countP_map, split, countP_id h ha p, Nat.add_sub_cancel]
    rfl
  simp only [census, Counters.dismissed, counts]
  rw [fewer (·.status = .active) fun b hb => by rw [hb]; decide,
    fewer (·.status = .acknowledged) fun b hb => by rw [hb]; decide,
    fewer (·.IsUrgent) fun b hb => hb.2]
  simp only [Alert.IsUrgent, hopen, and_true]
  cases hs : a.status with
  | active => simp
  | acknowledged => simp
  | dismissed => exact absurd hs hopen

end Moves

/-! ## Alerts that go away -/

theorem foldl_purged (severities : List Severity) (c : Counters) :
    (severities.foldl Counters.purged c).openCounts = c.openCounts ∧
      (∀ s, (severities.foldl Counters.purged c).counts.get s =
        c.counts.get s - severities.count s) ∧
      (severities.foldl Counters.purged c).counts.total = c.counts.total - severities.length := by
  induction severities generalizing c with
  | nil => exact ⟨rfl, fun _ => rfl, rfl⟩
  | cons s rest ih =>
    obtain ⟨o, g, t⟩ := ih (c.purged s)
    refine ⟨o, fun x => ?_, ?_⟩
    · rw [List.foldl_cons, g, Counters.purged, Counts.get_change, List.count_cons]
      by_cases h : x = s
      · subst h
        simp
        omega
      · simp [h, Ne.symm h]
    · rw [List.foldl_cons, t, Counters.purged, Counts.total_change, List.length_cons]
      omega

/-- Dismissed alerts that go away. -/
theorem census_purge (p : Alert → Prop) [DecidablePred p] (hp : ∀ a, p a → a.status = .dismissed)
    (alerts : List Alert) :
    census (alerts.filter fun a => !decide (p a)) =
      ((alerts.filter fun a => decide (p a)).map (·.severity)).foldl Counters.purged
        (census alerts) := by
  obtain ⟨openCounts, get, total⟩ :=
    foldl_purged ((alerts.filter fun a => decide (p a)).map (·.severity)) (census alerts)
  have kept (q : Alert → Prop) [DecidablePred q] (hq : ∀ a, q a → a.status ≠ .dismissed) :
      (alerts.filter fun a => !decide (p a)).countP q = alerts.countP q := by
    rw [List.countP_filter]
    refine List.countP_congr fun a _ => ?_
    have : q a → ¬ p a := fun ha hpa => hq a ha (hp a hpa)
    simpa using this
  have splits (q : Alert → Bool) : alerts.countP q =
      (alerts.filter fun a => decide (p a)).countP q +
        (alerts.filter fun a => !decide (p a)).countP q := by
    rw [List.countP_filter, List.countP_filter]
    refine countP_eq_add fun a _ => ?_
    by_cases h : p a <;> simp [h]
  have counts : Counts.tally (alerts.filter fun a => !decide (p a)) =
      (((alerts.filter fun a => decide (p a)).map (·.severity)).foldl Counters.purged
        (census alerts)).counts := by
    refine Counts.ext_get (fun s => ?_) ?_
    · rw [get, Counts.get_tally, census, Counts.get_tally, splits, List.count, List.countP_map,
        Function.comp_def]
      simp only [beq_eq_decide, Nat.add_sub_cancel_left]
    · have lengths := splits fun _ => true
      simp only [List.countP_true] at lengths
      rw [total, Counts.total_tally, census, Counts.total_tally, List.length_map, lengths,
        Nat.add_sub_cancel_left]
  -- only dismissed alerts go, so whatever holds of open ones only is counted as before
  have active := kept (·.status = .active) fun a h => by rw [h]; decide
  have acknowledged := kept (·.status = .acknowledged) fun a h => by rw [h]; decide
  have critical := kept Alert.IsUrgent fun a h => h.2
  rw [census, counts, active, acknowledged, critical]
  change Counters.mk _ (census alerts).openCounts = _
  rw [← openCounts]

end HostWatch
