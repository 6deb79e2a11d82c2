import HostWatch.Daemon.Counting
import HostWatch.Monitor.Patrol
import HostWatch.Proofs.Store.History
import HostWatch.Proofs.Store.Recount

/-!
# Counts of two moments

`counts_of_two_moments`: what a call that counts alerts answers, however its two reads and the work
of others are interleaved. The counts by severity are those of the first read and add up to its
total, the counts of open alerts are those of the second read. There are no more open alerts than
alerts just if no more alerts came between the reads than were dismissed then or before.
`counts_apart`: with one alert that comes between the reads, one alert is open of none.

1. An alert is open from when it is stored until it is dismissed, so that an operation moves the
   number of open alerts by those that it adds and those that it dismisses (`Holds.open_apply`,
   `Holds.open_run`).
2. A schedule in which the call was answered splits at its two reads (`Schedule.run`).
-/

namespace HostWatch

/-! ## Open alerts under operations -/

namespace Store

/-- The operation dismisses the alert. -/
def Op.Closes : Op → Alert → Prop
  | .dismiss _ id, a => a.id = id ∧ a.status.IsOpen
  | .dismissAll _, a => a.status.IsOpen
  | _, _ => False

instance : (op : Op) → DecidablePred op.Closes
  | .dismiss _ id => fun a => inferInstanceAs (Decidable (a.id = id ∧ a.status.IsOpen))
  | .dismissAll _ => fun a => inferInstanceAs (Decidable a.status.IsOpen)
  | .create .. | .acknowledge .. | .acknowledgeAll _ | .purgeDismissedBefore _ | .reopen =>
    fun _ => isFalse id

/-- An open alert stays open unless the operation dismisses it, and no other becomes open. -/
theorem Op.isOpen_fate (op : Op) (a : Alert) : (if a.status.IsOpen then 1 else 0) =
    (if ((op.fate a).map fun b => decide b.status.IsOpen).getD false then 1 else 0) +
      (if op.Closes a then 1 else 0 : Nat) := by
  have closed (now : Int) : ¬ (a.dismiss now).status.IsOpen := fun isOpen => isOpen rfl
  cases op with
  | create | reopen => simp [fate, Closes]
  | acknowledge now id =>
    by_cases chosen : a.id = id ∧ a.status = .active
    · simp [fate, Closes, chosen, Alert.acknowledge, Status.IsOpen]
    · simp [fate, Closes, chosen]
  | acknowledgeAll now =>
    by_cases active : a.status = .active
    · simp [fate, Closes, active, Alert.acknowledge, Status.IsOpen]
    · simp [fate, Closes, active]
  | dismiss now id =>
    by_cases chosen : a.id = id ∧ a.status.IsOpen
    · simp [fate, Closes, chosen, closed]
    · simp [fate, Closes, chosen]
  | dismissAll now =>
    by_cases isOpen : a.status.IsOpen
    · simp [fate, Closes, isOpen, closed]
    · simp [fate, Closes, isOpen]
  | purgeDismissedBefore cutoff =>
    by_cases old : a.DismissedBefore cutoff
    · simp [fate, Closes, old, old.1, Status.IsOpen]
    · simp [fate, Closes, old]

/-- Every alert that is added is open. -/
theorem Op.isOpen_added (op : Op) (alerts : List Alert) :
    (op.added alerts).countP (·.status.IsOpen) = (op.added alerts).length := by
  rcases op.added_cases alerts with none | ⟨fresh, a, one, -⟩
  · rw [none]
    rfl
  · rw [one]
    rfl

namespace Holds

variable {s : Store} {alerts : List Alert} (h : s.Holds alerts)

include h

theorem opened_eq (op : Op) : op.opened s = (op.added alerts).length := by
  cases op with
  | create fresh a =>
    rcases h.create_cases fresh a with ⟨none, e, refused⟩ | ⟨one, stored⟩
    · rw [Op.opened, none, refused]
      rfl
    · rw [Op.opened, one, stored]
      rfl
  | _ => rfl

theorem closed_eq (op : Op) : op.closed s = alerts.countP (op.Closes ·) := by
  cases op with
  | dismiss now id =>
    show (if (s.dismiss now id).1 then 1 else 0) =
      alerts.countP fun a => a.id = id ∧ a.status.IsOpen
    simp only [h.dismiss_iff]
    by_cases e : ∃ a ∈ alerts, a.id = id ∧ a.status.IsOpen
    · rw [if_pos e]
      obtain ⟨a, ha, rfl, isOpen⟩ := e
      rw [countP_id h.ids ha (·.status.IsOpen), if_pos isOpen]
    · rw [if_neg e, eq_comm, List.countP_eq_zero]
      intro a ha chosen
      exact e ⟨a, ha, of_decide_eq_true chosen⟩
  | dismissAll now => exact congrArg Prod.fst (h.dismissAll_eq now)
  | _ => exact (List.countP_eq_zero.2 fun a _ => Bool.false_ne_true).symm

/-- **Step.** An operation moves the number of open alerts by those that it adds and those that it
dismisses. -/
theorem open_apply (op : Op) : (op.apply s).rows.countP (·.NamesOpen) + op.closed s =
    s.rows.countP (·.NamesOpen) + op.opened s := by
  have isOpen (a : Alert) : decide (Row.ofAlert a).NamesOpen = decide a.status.IsOpen :=
    decide_eq_decide.2 Row.namesOpen_ofAlert
  have fates : alerts.countP (·.status.IsOpen) =
      (alerts.filterMap op.fate).countP (·.status.IsOpen) + alerts.countP (op.Closes ·) := by
    rw [List.countP_filterMap]
    refine countP_eq_add fun a _ => ?_
    simpa only [decide_eq_true_eq] using op.isOpen_fate a
  rw [(h.apply op).countP_rows isOpen, h.countP_rows isOpen, h.opened_eq, h.closed_eq, Op.after,
    List.countP_append, Op.isOpen_added, fates]
  omega

end Holds

/-- **Runs.** So do operations one after another. -/
theorem Holds.open_run {s : Store} {alerts : List Alert} (h : s.Holds alerts) (ops : List Op) :
    (s.run ops).rows.countP (·.NamesOpen) + s.sumOf Op.closed ops =
      s.rows.countP (·.NamesOpen) + s.sumOf Op.opened ops := by
  induction ops generalizing s alerts with
  | nil => rfl
  | cons op ops ih =>
    have step := h.open_apply op
    have rest := ih (h.apply op)
    rw [sumOf, sumOf, show s.run (op :: ops) = (op.apply s).run ops from rfl]
    omega

theorem sumOf_opened_eq_zero {ops : List Op} (h : ∀ op ∈ ops, ¬ op.Creates) (s : Store) :
    s.sumOf Op.opened ops = 0 := by
  induction ops generalizing s with
  | nil => rfl
  | cons op ops ih =>
    rw [sumOf, ih fun o ho => h o (List.mem_cons_of_mem _ ho)]
    cases op with
    | create fresh a => exact absurd trivial (h _ List.mem_cons_self)
    | _ => rfl

/-- What is stored is open or dismissed. -/
theorem Holds.length_rows {s : Store} {alerts : List Alert} (h : s.Holds alerts) :
    s.rows.length = s.rows.countP (·.NamesOpen) + s.rows.countP (·.HasStatus .dismissed) := by
  have isOpen (a : Alert) : decide (Row.ofAlert a).NamesOpen = decide a.status.IsOpen :=
    decide_eq_decide.2 Row.namesOpen_ofAlert
  have dismissed (a : Alert) :
      decide ((Row.ofAlert a).HasStatus .dismissed) = decide ¬ a.status.IsOpen :=
    decide_eq_decide.2 (Row.hasStatus_ofAlert.trans Decidable.not_not.symm)
  rw [h.countP_rows isOpen, h.countP_rows dismissed, h.rows_eq, List.length_map,
    List.length_eq_countP_add_countP fun a : Alert => decide a.status.IsOpen]
  simp only [decide_eq_true_eq]

end Store

/-! ## Schedules -/

namespace Counting

open CountsCall

/-- A call that is interleaved with work on a store: how the events split at its reads, and what it
has read. -/
inductive Schedule (start : Store) : List Event → Counting → Prop where
  | begun (before : List Store.Op) :
    Schedule start (before.map .work) ⟨start.run before, .begun⟩
  | counted (before between : List Store.Op) :
    Schedule start (before.map .work ++ .advance :: between.map .work)
      ⟨(start.run before).run between, .counted (start.run before).counts⟩
  | answered (before between : List Store.Op) (after : List Event) (store : Store) :
    Schedule start (before.map .work ++ .advance :: between.map .work ++ .advance :: after)
      ⟨store, .answered (start.run before).counts ((start.run before).run between).openCounts⟩

/-- **Step.** The next event goes on with the schedule. -/
theorem Schedule.step {start : Store} {events : List Event} {s : Counting}
    (h : Schedule start events s) (e : Event) : Schedule start (events ++ [e]) (s.step e) := by
  have work (ops : List Store.Op) (op : Store.Op) :
      ops.map Event.work ++ [.work op] = (ops ++ [op]).map .work := by
    rw [List.map_append]
    rfl
  cases h with
  | begun before =>
    cases e with
    | work op =>
      have next : start.run (before ++ [op]) = op.apply (start.run before) :=
        Store.run_append start before [op]
      rw [work, Counting.step, ← next]
      exact .begun (before ++ [op])
    | advance => exact .counted before []
  | counted before between =>
    cases e with
    | work op =>
      have next : (start.run before).run (between ++ [op]) =
          op.apply ((start.run before).run between) :=
        Store.run_append (start.run before) between [op]
      rw [List.append_assoc, List.cons_append, work, Counting.step, ← next]
      exact .counted before (between ++ [op])
    | advance => exact .answered before between [] _
  | answered before between after store =>
    rw [List.append_assoc, List.cons_append]
    cases e with
    | work op => exact .answered before between _ _
    | advance => exact .answered before between _ _

/-- **Runs.** Every run follows a schedule. -/
theorem schedule_run (start : Store) (events : List Event) :
    Schedule start events (run ⟨start, .begun⟩ events) := by
  induction events using List.reverseRecOn with
  | nil => exact .begun []
  | append_singleton events e ih =>
    rw [run, List.foldl_append]
    exact ih.step e

theorem advances_map_work (ops : List Store.Op) :
    (ops.map Event.work).countP Event.IsAdvance = 0 := by
  rw [List.countP_eq_zero]
  intro e he
  obtain ⟨op, -, rfl⟩ := List.mem_map.1 he
  exact Bool.false_ne_true

/-- A call that took two steps has read twice, and is answered. -/
theorem Schedule.of_two_steps {start : Store} {events : List Event} {s : Counting}
    (h : Schedule start events s) (two : 2 ≤ events.countP Event.IsAdvance) :
    ∃ before between after,
      events = before.map .work ++ .advance :: between.map .work ++ .advance :: after ∧
        s.call = .answered (start.run before).counts
          ((start.run before).run between).openCounts := by
  cases h with
  | begun before =>
    rw [advances_map_work] at two
    omega
  | counted before between =>
    rw [List.countP_append, List.countP_cons, advances_map_work, advances_map_work] at two
    simp [Event.IsAdvance] at two
  | answered before between after => exact ⟨before, between, after, rfl, rfl⟩

/-! ## Answers -/

/-- The method that counts alerts takes both steps at once. -/
theorem countAlerts_eq (r : Rpc.Request) (d : DaemonDesk) :
    (run ⟨d.state.store, .begun⟩ [.advance, .advance]).call.answer? =
        some (Daemon.countsJson d.state.store.counts d.state.store.openCounts) ∧
      Daemon.countAlerts r d =
        (.done (Daemon.countsJson d.state.store.counts d.state.store.openCounts), d) := ⟨rfl, rfl⟩

/-- **Answers.** A call that takes its two steps among any operations on a reachable store answers
with the counts by severity of the first step, which add up to the alerts that were then stored, and
with the open alerts of the second. It counts more open alerts than alerts just if more alerts were
added between its steps than were dismissed between or before them; so it does not if none were
added. -/
theorem counts_of_two_moments {start : Store} (stored : start.Reachable) {events : List Event}
    (two : 2 ≤ events.countP Event.IsAdvance) :
    ∃ before between after,
      events = before.map .work ++ .advance :: between.map .work ++ .advance :: after ∧
      let first := start.run before
      let second := first.run between
      let counts := first.counts
      let opened := second.openCounts
      (run ⟨start, .begun⟩ events).call.answer? = some (Daemon.countsJson counts opened) ∧
        counts.total = counts.info + counts.warning + counts.error + counts.critical ∧
        counts.total = first.rows.length ∧
        opened.active + opened.acknowledged = second.rows.countP (·.NamesOpen) ∧
        (opened.active + opened.acknowledged ≤ counts.total ↔
          first.sumOf Store.Op.opened between ≤
            first.rows.countP (·.HasStatus .dismissed) + first.sumOf Store.Op.closed between) ∧
        ((∀ op ∈ between, ¬ op.Creates) → opened.active + opened.acknowledged ≤ counts.total) := by
  obtain ⟨before, between, after, split, answered⟩ := (schedule_run start events).of_two_steps two
  obtain ⟨alerts, holds, -⟩ := stored.holds
  have first := holds.run before
  have second := first.run between
  have total : (start.run before).counts.total = (start.run before).rows.length :=
    first.total_counts
  have opened := second.open_eq
  have moved := first.open_run between
  have parts := first.length_rows
  refine ⟨before, between, after, split, congrArg answer? answered, ?_, total, opened, ?_, ?_⟩
  · rw [first.counts_eq]
    exact Counts.total_eq_sum _
  · rw [opened, total]
    omega
  · intro none
    have := Store.sumOf_opened_eq_zero none (start.run before)
    rw [opened, total]
    omega

/-- While a call counts, an alert is dismissed and purged and another one comes. -/
theorem counts_of_two_moments_busy :
    let disk : Alert := .new 1700000600 .critical .disk "system_monitor" "disk full"
    let events : List Event :=
      [.work (.acknowledge 1700000600 "e"), .advance, .work (.dismiss 1700000660 "e"),
        .work (.purgeDismissedBefore 1700000661), .work (.create "f" disk), .advance]
    let s := run ⟨.seasoned, .begun⟩ events
    Store.seasoned.Reachable ∧ 2 ≤ events.countP Event.IsAdvance ∧
      ∃ counts opened, s.call.answer? = some (Daemon.countsJson counts opened) ∧
        counts.total = counts.info + counts.warning + counts.error + counts.critical ∧
        s.call = .answered ⟨1, 1, 1, 1, 4⟩ ⟨1, 0, 1⟩ := by
  intro disk events s
  have two : 2 ≤ events.countP Event.IsAdvance := by decide
  obtain ⟨before, between, -, -, answered, sum, -⟩ :=
    counts_of_two_moments Store.seasoned_reachable two
  exact ⟨Store.seasoned_reachable, two, _, _, answered, sum, by decide +kernel⟩

/-- The first alert of all comes between the reads: one alert is active of none. -/
theorem counts_apart :
    let disk : Alert := .new 1700000000 .critical .disk "system_monitor" "disk full"
    let start : Store := .onTable "alerts.db" none
    let s := run ⟨start, .begun⟩ [.advance, .work (.create "a" disk), .advance]
    start.Reachable ∧ ∃ counts opened, s.call = .answered counts opened ∧ counts.total = 0 ∧
      opened.active = 1 ∧ ¬ opened.active + opened.acknowledged ≤ counts.total := by
  intro disk start s
  have stored : start.Reachable := ⟨"alerts.db", [], List.forall_mem_nil _, rfl⟩
  have answered : s.call = .answered ⟨0, 0, 0, 0, 0⟩ ⟨1, 0, 1⟩ := by decide +kernel
  exact ⟨stored, _, _, answered, rfl, rfl, by decide⟩

end Counting

end HostWatch
