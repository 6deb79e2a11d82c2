import HostWatch.Proofs.Store.History

/-!
# All at once and one by one

`all_eq_each`: acknowledging or dismissing all alerts at once leaves the store that is left when
every stored id is acknowledged or dismissed for itself, in any order, and answers how many of these
calls moved an alert.

1. What is done under one id moves the alert with this id, if it may move, and says whether it did
   (`MovesNamed`): `movesNamed_acknowledge`, `movesNamed_dismiss`.
2. A moved alert may not move again, so that moving under one id after another moves every alert
   that is named and may move, once (`MovesNamed.each_eq`).
3. Where all stored ids are named, these are all alerts that may move (`MovesNamed.each_all`).
-/

namespace HostWatch.Store

/-- Does something under one id after another, and counts how often it answers true. -/
def each (f : Store → String → Bool × Store) : List String → Store → Nat × Store
  | [], s => (0, s)
  | id :: ids, s =>
    let (done, s) := f s id
    let (n, s) := each f ids s
    (n + done.toNat, s)

/-- The store with these alerts instead of its own, each of them counted. -/
def withAlerts (s : Store) (alerts : List Alert) : Store :=
  { s with table := some (alerts.map .ofAlert), counters := census alerts }

theorem Holds.withAlerts_eq {s : Store} {alerts : List Alert} (h : s.Holds alerts) :
    s.withAlerts alerts = s := by
  rw [withAlerts, ← h.table, ← h.counters]

/-! ## Moving under ids -/

/-- An alert moved if its id is among these and it may move. -/
def moveNamed (may : Alert → Prop) [DecidablePred may] (move : Alert → Alert) (ids : List String)
    (a : Alert) : Alert :=
  if a.id ∈ ids ∧ may a then move a else a

theorem moveNamed_singleton (may : Alert → Prop) [DecidablePred may] (move : Alert → Alert)
    (id : String) :
    moveNamed may move [id] = fun a => if a.id = id ∧ may a then move a else a := by
  funext a
  simp only [moveNamed, List.mem_singleton]

/-- Done under an id, `f` moves the alert with this id, if it may move, and says whether it did; a
moved alert may not move again. -/
structure MovesNamed (f : Store → String → Bool × Store) (may : Alert → Prop) [DecidablePred may]
    (move : Alert → Alert) : Prop where
  done_iff : ∀ {s : Store} {alerts}, s.Holds alerts → ∀ id,
    ((f s id).1 = true ↔ ∃ a ∈ alerts, a.id = id ∧ may a)
  holds : ∀ {s : Store} {alerts}, s.Holds alerts → ∀ id,
    (f s id).2.Holds (alerts.map (moveNamed may move [id]))
  location : ∀ s id, (f s id).2.location = s.location
  once : ∀ a, ¬ may (move a)

/-- Of alerts with different ids, one at most is named by an id. -/
theorem toNat_exists_id {alerts : List Alert} (ids : (alerts.map (·.id)).Nodup) (id : String)
    (may : Alert → Prop) [DecidablePred may] :
    (decide (∃ a ∈ alerts, a.id = id ∧ may a)).toNat =
      alerts.countP fun a => a.id = id ∧ may a := by
  by_cases h : ∃ a ∈ alerts, a.id = id ∧ may a
  · obtain ⟨a, ha, rfl, hm⟩ := h
    rw [countP_id ids ha may, if_pos hm, decide_eq_true ⟨a, ha, rfl, hm⟩]
    rfl
  · rw [decide_eq_false h, List.countP_eq_zero.2 fun a ha chosen =>
      h ⟨a, ha, of_decide_eq_true chosen⟩]
    rfl

namespace MovesNamed

variable {f : Store → String → Bool × Store} {may : Alert → Prop} [DecidablePred may]
  {move : Alert → Alert} (m : MovesNamed f may move)

include m

/-- Moving under one id and then under others is moving under all of them, and each alert is moved
by one of the two at most. -/
theorem moveNamed_cons (id : String) (ids : List String) (a : Alert) :
    let b := moveNamed may move [id] a
    moveNamed may move ids b = moveNamed may move (id :: ids) a ∧
      (if a.id ∈ id :: ids ∧ may a then 1 else 0) =
        (if b.id ∈ ids ∧ may b then 1 else 0) + (if a.id = id ∧ may a then 1 else 0) := by
  by_cases named : a.id = id ∧ may a
  · simp [moveNamed, named, m.once]
  · by_cases hm : may a
    · have other : a.id ≠ id := fun same => named ⟨same, hm⟩
      simp [moveNamed, other, hm]
    · simp [moveNamed, hm]

/-- Done under one id after another, it moves all that are named and may move, and counts them. -/
theorem each_eq {s : Store} {alerts : List Alert} (h : s.Holds alerts) (ids : List String) :
    each f ids s = (alerts.countP fun a => a.id ∈ ids ∧ may a,
      s.withAlerts (alerts.map (moveNamed may move ids))) := by
  induction ids generalizing s alerts with
  | nil =>
    have same : alerts.map (moveNamed may move []) = alerts :=
      (List.map_congr_left fun a _ => if_neg (by simp)).trans alerts.map_id
    rw [same, h.withAlerts_eq]
    simp [each]
  | cons id ids ih =>
    have others := ih (m.holds h id)
    have alike (alerts : List Alert) : (f s id).2.withAlerts alerts = s.withAlerts alerts := by
      rw [withAlerts, withAlerts, m.location]
    have twice : (alerts.map (moveNamed may move [id])).map (moveNamed may move ids) =
        alerts.map (moveNamed may move (id :: ids)) := by
      rw [List.map_map]
      exact List.map_congr_left fun a _ => (m.moveNamed_cons id ids a).1
    have number : alerts.countP (fun a => a.id ∈ id :: ids ∧ may a) =
        (alerts.map (moveNamed may move [id])).countP (fun a => a.id ∈ ids ∧ may a) +
          alerts.countP (fun a => a.id = id ∧ may a) := by
      rw [List.countP_map]
      refine countP_eq_add fun a _ => ?_
      simpa using (m.moveNamed_cons id ids a).2
    have done : (f s id).1 = decide (∃ a ∈ alerts, a.id = id ∧ may a) :=
      Bool.eq_iff_iff.2 ((m.done_iff h id).trans decide_eq_true_iff.symm)
    rw [alike, twice] at others
    rw [number, ← toNat_exists_id h.ids, ← done]
    simp only [each, others]

/-- Done under all stored ids in any order, it moves all that may move. -/
theorem each_all {s : Store} {alerts : List Alert} (h : s.Holds alerts) {ids : List String}
    (all : ids.Perm s.ids) :
    each f ids s = (alerts.countP fun a => may a,
      s.withAlerts (alerts.map fun a => if may a then move a else a)) := by
  have named : ∀ a ∈ alerts, (a.id ∈ ids ∧ may a ↔ may a) := fun a ha => by
    rw [all.mem_iff, h.ids_eq]
    exact and_iff_right (List.mem_map_of_mem ha)
  have number : alerts.countP (fun a => a.id ∈ ids ∧ may a) = alerts.countP fun a => may a :=
    List.countP_congr fun a ha => by simp [named a ha]
  have moved : alerts.map (moveNamed may move ids) =
      alerts.map fun a => if may a then move a else a :=
    List.map_congr_left fun a ha => by simp only [moveNamed, named a ha]
  rw [m.each_eq h, number, moved]

end MovesNamed

/-! ## Acknowledging and dismissing -/

theorem movesNamed_acknowledge (now : Int) :
    MovesNamed (fun s id => s.acknowledge now id) (·.status = .active) (.acknowledge now) where
  done_iff h id := h.acknowledge_iff now id
  holds h id := by
    have after := h.apply (.acknowledge now id)
    rwa [Op.after_of_map (fun _ => rfl) rfl, ← moveNamed_singleton] at after
  location s id := by
    rw [acknowledge, acknowledgeWhere]
    cases s.table <;> rfl
  once _ := by simp [Alert.acknowledge]

theorem movesNamed_dismiss (now : Int) :
    MovesNamed (fun s id => s.dismiss now id) (·.status.IsOpen) (.dismiss now) where
  done_iff h id := h.dismiss_iff now id
  holds h id := by
    have after := h.apply (.dismiss now id)
    rwa [Op.after_of_map (fun _ => rfl) rfl, ← moveNamed_singleton] at after
  location s id := by
    rw [dismiss]
    cases s.table with
    | none => rfl
    | some rows => dsimp only; split <;> rfl
  once _ := by simp [Alert.dismiss, Status.IsOpen]

/-- **Bulk operations.** On a reachable store, acknowledging all alerts at once is acknowledging
every stored id for itself, in any order: the rows and the counters are the same, and what it
answers is how often the single calls answer true. So it is with dismissing. -/
theorem all_eq_each {s : Store} (h : s.Reachable) (now : Int) {ids : List String}
    (all : ids.Perm s.ids) :
    s.acknowledgeAll now = each (fun s id => s.acknowledge now id) ids s ∧
      s.dismissAll now = each (fun s id => s.dismiss now id) ids s := by
  obtain ⟨alerts, h, -⟩ := h.holds
  refine ⟨?_, ?_⟩
  · rw [(movesNamed_acknowledge now).each_all h all, acknowledgeAll,
      h.acknowledgeWhere_eq now (q := fun _ => True) fun _ => rfl]
    simp only [true_and, withAlerts]
  · rw [(movesNamed_dismiss now).each_all h all, h.dismissAll_eq]
    rfl

/-- A store with a critical alert that was acknowledged earlier, another that is active, an active
warning and a dismissed alert. -/
def mixed : Store :=
  run (onTable "alerts.db" none)
    [.create "a" (.new 1700000000 .critical .disk "system_monitor" "disk full"),
      .create "b" (.new 1700000060 .warning .cpu "system_monitor" "cpu busy"),
      .acknowledge 1700000120 "a",
      .create "c" (.new 1700000180 .critical .memory "system_monitor" "memory full"),
      .create "d" (.new 1700000240 .info .system "tests" "noted"), .dismiss 1700000300 "d"]

theorem all_eq_each_mixed :
    mixed.Reachable ∧ ["d", "b", "a", "c"].Perm mixed.ids ∧
      mixed.acknowledgeAll 1700000360 =
        each (fun s id => s.acknowledge 1700000360 id) ["d", "b", "a", "c"] mixed ∧
      mixed.dismissAll 1700000360 =
        each (fun s id => s.dismiss 1700000360 id) ["d", "b", "a", "c"] mixed ∧
      (mixed.acknowledgeAll 1700000360).1 = 2 ∧ (mixed.dismissAll 1700000360).1 = 3 := by
  have reachable : mixed.Reachable := ⟨"alerts.db", _, by decide, rfl⟩
  have all : ["d", "b", "a", "c"].Perm mixed.ids := by decide
  obtain ⟨acknowledged, dismissed⟩ := all_eq_each reachable 1700000360 all
  exact ⟨reachable, all, acknowledged, dismissed, by decide, by decide⟩

end HostWatch.Store
