import HostWatch.Proofs.Monitor.Completion
import HostWatch.Proofs.Monitor.Standing

/-!
# Alerts that a cycle raises

A cycle that nobody disturbs stores one new alert for each finding that no open alert stood for
(`raised`), in the order of the findings, and touches no other row than those that its sweep
deletes.

1. Reporting a finding is creating its alert under the next id (`report_eq`).
2. Findings of one cycle have different categories, so an alert raised for one of them stands for
   no other, and which findings are unmatched can be told before the first one is raised.
3. The sweep deletes dismissed rows only, so the new alerts and all that stand outlast it.
-/

namespace HostWatch

open Store (Op)

/-- The alerts for findings, under the next ids of a supply. -/
def raised (now : Int) (ids : IdSupply) : List Finding → List Alert
  | [] => []
  | f :: fs => { f.toAlert now with id := ids.next } :: raised now ids.advance fs

theorem prepare_toAlert (fresh : String) (now : Int) (f : Finding) :
    Store.prepare fresh (f.toAlert now) = { f.toAlert now with id := fresh } := rfl

theorem standsFor_prepare_toAlert {fresh : String} {now : Int} {f : Finding} {c : Category}
    {v : Severity} :
    (Store.prepare fresh (f.toAlert now)).StandsFor c v ↔ f.category = c ∧ f.severity = v := by
  have isOpen : Status.IsOpen .active := by decide
  exact ⟨fun h => ⟨h.1, h.2.1⟩, fun h => ⟨h.1, h.2, rfl, isOpen⟩⟩

/-- A raised alert is active. -/
theorem active_of_mem_raised {now : Int} {ids : IdSupply} {fs : List Finding} {a : Alert}
    (h : a ∈ raised now ids fs) : a.status = .active := by
  induction fs generalizing ids with
  | nil => exact absurd h List.not_mem_nil
  | cons f fs ih =>
    rw [raised, List.mem_cons] at h
    rcases h with rfl | h
    · rfl
    · exact ih h

/-- For each finding there is a raised alert that stands for it. -/
theorem exists_raised (now : Int) (ids : IdSupply) {fs : List Finding} {f : Finding}
    (h : f ∈ fs) : ∃ a ∈ raised now ids fs, a.StandsFor f.category f.severity := by
  induction fs generalizing ids with
  | nil => exact absurd h List.not_mem_nil
  | cons g fs ih =>
    rw [raised]
    rcases List.mem_cons.1 h with rfl | h
    · have stands : (Store.prepare ids.next (f.toAlert now)).StandsFor f.category f.severity :=
        standsFor_prepare_toAlert.2 ⟨rfl, rfl⟩
      exact ⟨_, List.mem_cons_self, stands⟩
    · obtain ⟨a, ha, stands⟩ := ih ids.advance h
      exact ⟨a, List.mem_cons_of_mem _ ha, stands⟩

namespace Watch

theorem hasRaised_eq {w : Watch} {alerts : List Alert} (h : w.store.Holds alerts) (f : Finding) :
    w.hasRaised f = alerts.any (·.StandsFor f.category f.severity) :=
  h.hasOpen_eq f.category f.severity Finding.source

section Report

variable {w : Watch} {alerts : List Alert} (h : w.store.OneEach w.ids alerts)
  (settings : Settings) (now : Int)

theorem report_store (w : Watch) (settings : Settings) (now : Int) (f : Finding) :
    (w.report settings now f).store = (w.store.createFresh w.ids (f.toAlert now)).2.1 ∧
      (w.report settings now f).ids = (w.store.createFresh w.ids (f.toAlert now)).2.2 := by
  unfold report
  split
  · next e store ids result => exact ⟨congrArg (·.2.1) result.symm, congrArg (·.2.2) result.symm⟩
  · next a store ids result => exact ⟨congrArg (·.2.1) result.symm, congrArg (·.2.2) result.symm⟩

include h

/-- Reporting a finding that nothing stands for leaves one of each at most. -/
theorem oneEach_report {f : Finding} (unmatched : w.hasRaised f = false) :
    (w.report settings now f).store.OneEach (w.report settings now f).ids
      (Op.after (.create w.ids.next (f.toAlert now)) alerts) := by
  rw [(report_store w settings now f).1, (report_store w settings now f).2]
  refine h.create rfl fun c v stands b hb => ?_
  obtain ⟨rfl, rfl⟩ := standsFor_prepare_toAlert.1 stands
  rw [hasRaised_eq h.holds, List.any_eq_false] at unmatched
  simpa using unmatched b hb

/-- With room in the table the report adds the alert under the next id. -/
theorem report_eq (distinct : Function.Injective w.ids.name) (room : alerts.length < Store.maxRows)
    {f : Finding} (unmatched : w.hasRaised f = false) :
    (w.report settings now f).store.OneEach w.ids.advance
        (alerts ++ [{ f.toAlert now with id := w.ids.next }]) ∧
      (w.report settings now f).ids = w.ids.advance := by
  have one : Op.added (.create w.ids.next (f.toAlert now)) alerts = _ :=
    h.added_of_room distinct room rfl
  have ids : (w.report settings now f).ids = w.ids.advance := by
    rw [(report_store w settings now f).2]
    have unnamed : (f.toAlert now).id = "" := rfl
    rcases h.holds.createFresh_cases w.ids unnamed with ⟨none, _⟩ | ⟨_, stored⟩
    · rw [none] at one
      cases one
    · rw [stored]
  have each := oneEach_report h settings now unmatched
  rw [Op.after_create, one, prepare_toAlert, ids] at each
  exact ⟨each, ids⟩

end Report

/-! ## All findings of a cycle -/

/-- The findings that no open alert stands for. -/
def unmatched (w : Watch) (fs : List Finding) : List Finding := fs.filter fun f => !w.hasRaised f

/-- Findings of different categories are raised as if each were the only one. -/
theorem raiseAll_eq (settings : Settings) (now : Int) {fs : List Finding}
    (different : (fs.map (·.category)).Nodup) {w : Watch} {alerts : List Alert}
    (h : w.store.OneEach w.ids alerts) (distinct : Function.Injective w.ids.name)
    (room : alerts.length + fs.length ≤ Store.maxRows) :
    (w.raiseAll settings now fs).store.OneEach (w.raiseAll settings now fs).ids
      (alerts ++ raised now w.ids (w.unmatched fs)) := by
  induction fs generalizing w alerts with
  | nil =>
    unfold unmatched
    rw [List.filter_nil, raised, List.append_nil]
    exact h
  | cons f fs ih =>
    rw [List.map_cons, List.nodup_cons] at different
    rw [List.length_cons] at room
    have cons : w.raiseAll settings now (f :: fs) =
        (w.raise settings now f).raiseAll settings now fs := rfl
    rw [cons]
    by_cases matched : w.hasRaised f = true
    · have skipped : w.unmatched (f :: fs) = w.unmatched fs :=
        List.filter_cons_of_neg (by simpa using matched)
      have same : w.raise settings now f = w := if_pos matched
      rw [skipped, same]
      exact ih different.2 h distinct (by omega)
    · have new : w.unmatched (f :: fs) = f :: w.unmatched fs :=
        List.filter_cons_of_pos (by simpa using matched)
      have reported : w.raise settings now f = w.report settings now f := if_neg matched
      obtain ⟨each, ids⟩ := report_eq h settings now distinct (by omega) (by simpa using matched)
      -- the new alert stands for no other finding, so the others are matched as before
      have others : (w.report settings now f).unmatched fs = w.unmatched fs := by
        refine List.filter_congr fun g hg => ?_
        rw [hasRaised_eq each.holds, hasRaised_eq h.holds, List.any_append]
        have apart : ¬ (Store.prepare w.ids.next (f.toAlert now)).StandsFor g.category
            g.severity := by
          rw [standsFor_prepare_toAlert]
          exact fun same => different.1 (same.1 ▸ List.mem_map_of_mem hg)
        rw [prepare_toAlert] at apart
        simp [apart]
      rw [reported, new, raised]
      have later := ih different.2 (ids ▸ each) (by rw [ids]; exact distinct) (by
        rw [List.length_append, List.length_singleton]
        omega)
      rw [others, ids, List.append_assoc] at later
      exact later

/-! ## The sweep -/

/-- The sweep of a cycle deletes the row. -/
def Sweeps (settings : Settings) (now : Int) (cycles : Nat) (r : Row) : Prop :=
  SweepDue settings cycles ∧ earliestTime ≤ cutoff settings now ∧
    r.DismissedBefore (cutoff settings now)

instance (settings : Settings) (now : Int) (cycles : Nat) :
    DecidablePred (Sweeps settings now cycles) := fun r =>
  inferInstanceAs (Decidable (_ ∧ _ ∧ r.DismissedBefore (cutoff settings now)))

/-- The rows that the sweep of a cycle leaves. -/
def unswept (settings : Settings) (now : Int) (cycles : Nat) (rows : List Row) : List Row :=
  rows.filter fun r => !decide (Sweeps settings now cycles r)

section Sweep

variable (settings : Settings) (now : Int) (cycles : Nat)

theorem unswept_eq_self (h : ¬ (SweepDue settings cycles ∧ earliestTime ≤ cutoff settings now))
    (rows : List Row) : unswept settings now cycles rows = rows := by
  refine List.filter_eq_self.2 fun r _ => ?_
  have : ¬ Sweeps settings now cycles r := fun swept => h ⟨swept.1, swept.2.1⟩
  simpa using this

/-- A sweep leaves new alerts alone. -/
theorem unswept_append_raised (rows : List Row) (ids : IdSupply) (fs : List Finding) :
    unswept settings now cycles (rows ++ (raised now ids fs).map .ofAlert) =
      unswept settings now cycles rows ++ (raised now ids fs).map .ofAlert := by
  unfold unswept
  rw [List.filter_append]
  congr 1
  refine List.filter_eq_self.2 fun r hr => ?_
  obtain ⟨a, ha, rfl⟩ := List.mem_map.1 hr
  have active := active_of_mem_raised ha
  simp [Sweeps, Alert.DismissedBefore, active]

/-- A sweep leaves open alerts alone. -/
theorem countP_standsFor_unswept (rows : List Row) (c : Category) (v : Severity) :
    (unswept settings now cycles rows).countP (·.StandsFor c v) =
      rows.countP (·.StandsFor c v) := by
  unfold unswept
  rw [List.countP_filter]
  refine List.countP_congr fun r _ => ?_
  have keeps : r.StandsFor c v → ¬ Sweeps settings now cycles r := fun stands swept =>
    stands.2.2.2.not_dismissed swept.2.2.1
  simpa using keeps

end Sweep

/-- The end of a cycle takes the swept rows away, and if it breaks off it takes none. -/
theorem conclude_cases {settings : Settings} {now : Int} (s : Snapshot) {w : Watch}
    {alerts : List Alert} (h : w.store.OneEach w.ids alerts) (held : w.storeHeld = true) :
    (w.conclude settings now s = .error .cutoffOutOfRange ∧
      unswept settings now w.monitor.cycles w.store.rows = w.store.rows) ∨
    ∃ w', w.conclude settings now s = .ok w' ∧ w.Keeps w' ∧
      (∃ left, w'.store.OneEach w'.ids left) ∧
      w'.store.rows = unswept settings now w.monitor.cycles w.store.rows := by
  by_cases range : InRange settings now w.monitor.cycles
  · right
    unfold conclude
    rw [if_pos held, sweep_eq]
    by_cases due : SweepDue settings w.monitor.cycles
    · rw [if_pos due, if_pos (range due)]
      have none : Op.added (.purgeDismissedBefore (cutoff settings now)) alerts = [] := rfl
      have each := h.apply none
      refine ⟨_, rfl, ⟨rfl, rfl, rfl, rfl⟩, ⟨_, each⟩, ?_⟩
      show (Op.apply (.purgeDismissedBefore (cutoff settings now)) w.store).rows = _
      rw [each.holds.rows_eq, Op.after_purge, h.holds.rows_eq, unswept, List.filter_map]
      congr 1
      refine List.filter_congr fun a _ => ?_
      simp [Sweeps, due, range due]
    · rw [if_neg due]
      exact ⟨_, rfl, ⟨rfl, rfl, rfl, rfl⟩, ⟨_, h⟩,
        (unswept_eq_self settings now w.monitor.cycles (fun swept => due swept.1) _).symm⟩
  · refine .inl ⟨conclude_error held range, unswept_eq_self settings now _ (fun swept => ?_) _⟩
    exact range fun _ => swept.2

/-! ## The whole cycle -/

/-- Between the two a cycle with this snapshot has stored a new alert for each finding that no open
alert stood for, and but for what its sweep deleted nothing else has happened to the table; and
exactly one open alert stands for each finding. -/
structure RaisedEach (settings : Settings) (now : Int) (s : Snapshot) (w w' : Watch) : Prop where
  rows : w'.store.rows =
    unswept settings now (w.monitor.cycles + 1) w.store.rows ++
      (raised now w.ids (w.unmatched (evaluate s settings.limits))).map .ofAlert
  ids : (w'.store.rows.map (·.id)).Nodup
  one : ∀ f ∈ evaluate s settings.limits,
    w'.store.rows.countP (·.StandsFor f.category f.severity) = 1

/-- Where the rows are those after raising and at most one stands for each kind, exactly one stands
for each finding. -/
theorem raisedEach_of_rows {settings : Settings} {now : Int} {s : Snapshot} {w w' : Watch}
    {alerts left : List Alert} (h : w.store.OneEach w.ids alerts)
    (h' : w'.store.OneEach w'.ids left)
    (rows : w'.store.rows =
      unswept settings now (w.monitor.cycles + 1) w.store.rows ++
        (raised now w.ids (w.unmatched (evaluate s settings.limits))).map .ofAlert) :
    RaisedEach settings now s w w' where
  rows := rows
  ids := by
    have ids := h'.holds.ids
    rw [h'.holds.rows_eq, List.map_map]
    exact ids
  one f hf := by
    have most : w'.store.rows.countP (·.StandsFor f.category f.severity) ≤ 1 := by
      rw [h'.holds.countP_standsFor]
      exact h'.once f.category f.severity
    have least : 0 < w'.store.rows.countP (·.StandsFor f.category f.severity) := by
      rw [rows, List.countP_append, countP_standsFor_unswept, h.holds.countP_standsFor]
      by_cases matched : w.hasRaised f = true
      · rw [hasRaised_eq h.holds, List.any_eq_true] at matched
        exact Nat.add_pos_left (List.countP_pos_iff.2 matched) _
      · have unmatched : f ∈ w.unmatched (evaluate s settings.limits) :=
          List.mem_filter.2 ⟨hf, by simpa using matched⟩
        obtain ⟨a, ha, stands⟩ := exists_raised now w.ids unmatched
        refine Nat.add_pos_right _ (List.countP_pos_iff.2 ⟨_, List.mem_map_of_mem ha, ?_⟩)
        exact decide_eq_true (Row.standsFor_ofAlert.2 stands)
    omega

end Watch

end HostWatch
