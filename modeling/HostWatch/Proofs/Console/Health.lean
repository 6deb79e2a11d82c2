import HostWatch.Proofs.Console.Alerts
import HostWatch.Proofs.Health.Documents
import HostWatch.Proofs.Store.Recount

/-!
# What the console shows of open alerts

`health_shows_active`: the console that asks a daemon for its health shows, as the number of open
alerts, how many are active, and as the number of critical ones, how many of all that are not
dismissed are critical. So the first is the number of open alerts just if none is acknowledged, and
the second may exceed it. `critical_of_none_open`: one critical alert of no open one is shown.

1. The daemon replies with the snapshot and the two counters (`answer_health`), which the console
   reads back but for the last digits of doubles (`run_health`).
2. Its report has a line for alerts that hangs on the two numbers alone (`healthReport_alerts`).
3. The counters are recounts of the rows (`Store.Holds.active_eq`, `Store.Holds.critical_eq`), and a
   row that is open is active or acknowledged (`critical_le_active_iff`).
-/

namespace HostWatch

open Rpc (Request Response)

/-! ## The health of a daemon -/

namespace Daemon

theorem get?_methods_health (now : Int) (file : FileContent) :
    (methods now file).get? "health" = some getHealth := by
  unfold methods NameMap.ofList NameMap.get?
  dsimp only
  rw [lookup_putEntries]
  rfl

/-- The snapshot of a daemon fits with the counts of its store as it did before. -/
theorem fits_health {d : Daemon} (stored : d.store.Reachable)
    (fits : d.watch.monitor.snapshot.Fits) : d.health.Fits := by
  obtain ⟨alerts, holds, -⟩ := stored.holds
  have counted (p : Row → Bool) : d.store.rows.countP p < Nat.pow 2 64 :=
    Nat.lt_of_lt_of_le (holds.countP_rows_lt p) (Nat.sub_le _ _)
  have active : d.store.openCounts.active < Nat.pow 2 64 := holds.active_eq ▸ counted _
  have critical : d.store.openCounts.critical < Nat.pow 2 64 := holds.critical_eq ▸ counted _
  have counts := fits.counts
  simp only [List.forall_mem_cons] at counts
  obtain ⟨cores, memoryUsed, memoryTotal, diskUsed, diskTotal, -, -, cycle, none⟩ := counts
  refine ⟨⟨fits.timestamp, ?_, fits.updates⟩, fits.usages, fits.load⟩
  simp only [List.forall_mem_cons]
  exact ⟨cores, memoryUsed, memoryTotal, diskUsed, diskTotal, active, critical, cycle, none⟩

end Daemon

namespace DaemonStation

variable {s : DaemonStation σ}

/-- **Answers.** The daemon answers with its snapshot and the counts of its store. -/
theorem answer_health (s : DaemonStation σ) :
    s.answer Console.Command.health.request = .ok s.now s.daemon.health.toJson := by
  have found : (Daemon.methods s.now s.file).get? Console.Command.health.request.method =
      some Daemon.getHealth := Daemon.get?_methods_health s.now s.file
  rw [answer, Rpc.answer_of_found found]
  rfl

end DaemonStation

/-- Critical alerts that are not dismissed are no more than the active ones just if at most as many
of them are acknowledged as others are active. -/
theorem Store.Holds.critical_le_active_iff {s : Store} {alerts : List Alert} (h : s.Holds alerts) :
    (s.rows.countP fun r => r.severity = Severity.critical.name ∧ ¬ r.HasStatus .dismissed) ≤
        s.rows.countP (·.HasStatus .active) ↔
      (s.rows.countP fun r => r.severity = Severity.critical.name ∧ r.HasStatus .acknowledged) ≤
        s.rows.countP fun r => r.severity ≠ Severity.critical.name ∧ r.HasStatus .active := by
  have critical : (s.rows.countP fun r =>
        r.severity = Severity.critical.name ∧ ¬ r.HasStatus .dismissed) =
      (s.rows.countP fun r => r.severity = Severity.critical.name ∧ r.HasStatus .acknowledged) +
        s.rows.countP fun r => r.severity = Severity.critical.name ∧ r.HasStatus .active := by
    refine countP_eq_add fun r hr => ?_
    rw [h.rows_eq] at hr
    obtain ⟨a, -, rfl⟩ := List.mem_map.1 hr
    simp only [Row.ofAlert_severity, Row.hasStatus_ofAlert]
    by_cases urgent : a.severity.name = Severity.critical.name
    · cases a.status <;> simp [urgent]
    · simp [urgent]
  have active : s.rows.countP (·.HasStatus .active) =
      (s.rows.countP fun r => r.severity = Severity.critical.name ∧ r.HasStatus .active) +
        s.rows.countP fun r => r.severity ≠ Severity.critical.name ∧ r.HasStatus .active := by
    refine countP_eq_add fun r _ => ?_
    by_cases urgent : r.severity = Severity.critical.name <;> simp [urgent]
  omega

/-! ## Reports -/

namespace Console

/-- The line for alerts in a report. -/
def alertsLine (active critical : Nat) : String :=
  entryLine "alerts" (openText { activeAlerts := active, criticalAlerts := critical })

/-- The line for alerts in the report of a snapshot hangs on two of its numbers. -/
theorem healthReport_alerts {t : Snapshot} (populated : t.IsPopulated) :
    ∃ before after, healthReport t =
      before ++ alertsLine t.activeAlerts t.criticalAlerts ++ after := by
  unfold healthReport
  rw [if_pos populated, ← String.append_assoc, ← String.append_assoc]
  exact ⟨_, _, rfl⟩

/-- **Reports.** The console shows what the daemon knows, if it reads the reply to its end. -/
theorem run_health {s : DaemonStation σ} (stored : s.daemon.store.Reachable)
    (fits : s.daemon.watch.monitor.snapshot.Fits)
    (time : -(Int.pow 2 63) ≤ s.now ∧ s.now ≤ Int.pow 2 63 - 1)
    {portions : String → List (List UInt8)}
    (whole : ∀ text, (portions text).flatten = Text.utf8 text) {path : String}
    (address : addressFault? path = none) (timeout : s.server.timeoutMs ≠ 0)
    (granted : s.server.desk.Grants s.clock)
    (short : (Text.utf8 (Response.ok s.now s.daemon.health.toJson).encode).length ≤ maxReply)
    (user : Option String) :
    Command.health.run path user (exchangeWith s portions) false =
      .text (healthReport s.daemon.health.reread) := by
  have healthy := Daemon.fits_health stored fits
  have brief : ¬ Rpc.maxRequest < (Text.utf8 Command.health.request.encode).length := by
    decide +kernel
  have reply : (s.exchange (portions Command.health.request.encode)).1 =
      some (Response.ok s.now s.daemon.health.toJson).encode := by
    rw [DaemonStation.exchange_granted (c := .health) trivial timeout (whole _) granted,
      if_neg brief, DaemonStation.answer_health]
  have read : s.unread (portions Command.health.request.encode) = [] :=
    DaemonStation.unread_request (c := .health) trivial timeout (whole _) (Nat.le_of_not_lt brief)
  have called : call path user (exchangeWith s portions) Command.health.request.method
      Command.health.request.params = .ok (Json.reread s.daemon.health.toJson) :=
    result_reread address (exchangeWith_eq read reply)
      (Snapshot.canCarry_toJson healthy.toInFields) time short
  unfold Command.run
  rw [called]
  dsimp only
  rw [if_neg Bool.false_ne_true]
  unfold Command.present
  dsimp only
  rw [Snapshot.ofJson_reread healthy]
  exact congrArg Printed.text (String.empty_append)

/-- **Health at the console.** For a daemon with a reachable store, whose snapshot is that of some
cycle and fits its fields, the console shows the report of this snapshot. Its line for alerts has as
the number of open alerts the number of active ones, which is the number of all that are open just
if none is acknowledged. As the number of critical ones it has those that are critical and not
dismissed, which are no more than the active ones just if at most as many critical alerts are
acknowledged as others are active. -/
theorem health_shows_active {s : DaemonStation σ} (stored : s.daemon.store.Reachable)
    (fits : s.daemon.watch.monitor.snapshot.Fits)
    (populated : s.daemon.watch.monitor.snapshot.IsPopulated)
    (time : -(Int.pow 2 63) ≤ s.now ∧ s.now ≤ Int.pow 2 63 - 1)
    {portions : String → List (List UInt8)}
    (whole : ∀ text, (portions text).flatten = Text.utf8 text) {path : String}
    (address : addressFault? path = none) (timeout : s.server.timeoutMs ≠ 0)
    (granted : s.server.desk.Grants s.clock)
    (short : (Text.utf8 (Response.ok s.now s.daemon.health.toJson).encode).length ≤ maxReply)
    (user : Option String) :
    let rows := s.daemon.store.rows
    let active := rows.countP (·.HasStatus .active)
    let critical := rows.countP fun r =>
      r.severity = Severity.critical.name ∧ ¬ r.HasStatus .dismissed
    ∃ t before after,
      Command.health.run path user (exchangeWith s portions) false = .text (healthReport t) ∧
      healthReport t = before ++ alertsLine active critical ++ after ∧
      t.activeAlerts = active ∧ t.criticalAlerts = critical ∧
      rows.countP (·.NamesOpen) = active + rows.countP (·.HasStatus .acknowledged) ∧
      (active = rows.countP (·.NamesOpen) ↔ ∀ r ∈ rows, ¬ r.HasStatus .acknowledged) ∧
      (critical ≤ active ↔
        (rows.countP fun r => r.severity = Severity.critical.name ∧ r.HasStatus .acknowledged) ≤
          rows.countP fun r => r.severity ≠ Severity.critical.name ∧ r.HasStatus .active) := by
  intro rows active critical
  obtain ⟨alerts, holds, -⟩ := stored.holds
  let t := s.daemon.health.reread
  have shown := run_health stored fits time whole address timeout granted short user
  have isActive : t.activeAlerts = active := holds.active_eq
  have isCritical : t.criticalAlerts = critical := holds.critical_eq
  have isOpen : rows.countP (·.NamesOpen) = active + rows.countP (·.HasStatus .acknowledged) := by
    rw [Store.countP_namesOpen, Nat.add_comm]
  obtain ⟨before, after, line⟩ := healthReport_alerts (t := t) populated
  rw [isActive, isCritical] at line
  refine ⟨t, before, after, shown, line, isActive, isCritical, isOpen, ?_,
    holds.critical_le_active_iff⟩
  have none : (∀ r ∈ rows, ¬ r.HasStatus .acknowledged) ↔
      rows.countP (·.HasStatus .acknowledged) = 0 := by
    rw [List.countP_eq_zero]
    simp only [decide_eq_true_eq]
  rw [none, isOpen]
  omega

/-- The snapshot of a first cycle on an idle host. -/
def firstSnapshot : Snapshot :=
  { timestamp := 1700000000, cpuCores := 4, diskMount := "/", cycle := 1 }

theorem fits_firstSnapshot : firstSnapshot.Fits where
  timestamp := by decide
  counts := by decide
  updates := by decide
  usages := by decide +kernel
  load := show ∀ x ∈ [_, _, _], IsFinite x by decide +kernel

/-- A standard daemon after one cycle, whose store has seen some operations. -/
def watchedStation (ops : List Store.Op) : DaemonStation Unit :=
  let standard := DaemonDesk.standard
  let watch :=
    { standard.state.watch with
      monitor.snapshot := firstSnapshot
      store := .run (.onTable "alerts.db" none) ops }
  { clock := 1700000000000
    file := .error .notFound
    server :=
      { desk := { standard with state := { standard.state with watch } }
        timeoutMs := 5000
        entry := .socket Rpc.openMode }
    source := () }

theorem reachable_watched {ops : List Store.Op} (times : ∀ op ∈ ops, op.IsTimely) :
    (watchedStation ops).daemon.store.Reachable := ⟨"alerts.db", ops, times, rfl⟩

/-- A critical alert that is acknowledged. -/
def acknowledgedCritical : List Store.Op :=
  [.create "a" (.new 1700000000 .critical .disk "system_monitor" "disk full"),
    .acknowledge 1700000060 "a"]

/-- Beside it a warning: two alerts are open, and one is shown to be. -/
theorem health_shows_active_warned :
    let s := watchedStation (acknowledgedCritical ++
      [.create "b" (.new 1700000120 .warning .cpu "system_monitor" "cpu busy")])
    s.daemon.store.Reachable ∧ s.daemon.watch.monitor.snapshot.Fits ∧
      s.daemon.watch.monitor.snapshot.IsPopulated ∧ s.server.desk.Grants s.clock ∧
      s.daemon.store.rows.countP (·.NamesOpen) = 2 ∧
      ∃ t, Command.health.run "/run/cortex/cortex.sock" none (exchangeWith s inOnePortion) false =
          .text (healthReport t) ∧ t.activeAlerts = 1 ∧ t.criticalAlerts = 1 := by
  intro s
  have stored : s.daemon.store.Reachable := reachable_watched (by decide)
  have address : addressFault? "/run/cortex/cortex.sock" = none := by decide
  obtain ⟨t, -, -, shown, -, active, critical, -⟩ :=
    health_shows_active (s := s) stored fits_firstSnapshot (by decide) (by decide)
      flatten_inOnePortion address (by decide) rfl (by decide +kernel) none
  exact ⟨stored, fits_firstSnapshot, by decide, rfl, by decide +kernel, t, shown,
    active.trans (by decide +kernel), critical.trans (by decide +kernel)⟩

/-- One open alert is shown as none, of which one is critical. -/
theorem critical_of_none_open :
    let s := watchedStation acknowledgedCritical
    s.daemon.store.Reachable ∧ s.daemon.store.rows.countP (·.NamesOpen) = 1 ∧
      ∃ t before after,
        Command.health.run "/run/cortex/cortex.sock" none (exchangeWith s inOnePortion) false =
          .text (healthReport t) ∧
        healthReport t = before ++ alertsLine 0 1 ++ after ∧
        alertsLine 0 1 =
          "  alerts           0 open, " ++ Style.brightRed.paint "1" ++ " critical\n" := by
  intro s
  have stored : s.daemon.store.Reachable := reachable_watched (by decide)
  have address : addressFault? "/run/cortex/cortex.sock" = none := by decide
  have shown := run_health (s := s) stored fits_firstSnapshot (by decide) flatten_inOnePortion
    address (by decide) rfl (by decide +kernel) none
  obtain ⟨before, after, line⟩ := healthReport_alerts (t := s.daemon.health.reread) (by decide)
  exact ⟨stored, by decide +kernel, _, before, after, shown, line, by decide +kernel⟩

end Console

end HostWatch
