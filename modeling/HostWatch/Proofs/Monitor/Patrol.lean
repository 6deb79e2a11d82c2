import HostWatch.Monitor.Patrol
import HostWatch.Proofs.Monitor.Raising

/-!
# One open alert of each kind

`one_open_alert_each`: however the steps of cycles, of tasks, of other users of the store and of new
processes follow each other, at most one open alert of the monitor stands for any category and
severity; and a cycle that nobody disturbs leaves exactly one for each of its findings.

1. Between looking a finding up and reporting it, nobody raises an alert that stands for it
   (`Orderly.unmatched`), so the report cannot be the second one.
2. Every event keeps the patrol orderly (`Orderly.step`), hence every run does (`Orderly.run`).
3. The steps of an undisturbed cycle are the cycle (`run_cycleSteps`), which `cycleWith_raises`
   describes.
-/

namespace HostWatch

open Store (Op)

/-! ## Analyses -/

/-- An analysis stands for nothing: it is not the monitor that raised it. -/
theorem not_standsFor_analysis (fresh : String) (now : Int) (parent : Alert) (text : String)
    (c : Category) (v : Severity) :
    ¬ (Store.prepare fresh (analysisOf now parent text)).StandsFor c v := by
  rintro ⟨_, _, source, _⟩
  exact absurd source (show ¬ analysisSource = Finding.source by decide)

/-- Where no added alert stands for something, only what stood before stands for it. -/
theorem standsFor_of_mem_after {op : Op} {alerts : List Alert} {c : Category} {v : Severity}
    (added : ∀ a ∈ op.added alerts, ¬ a.StandsFor c v) {b : Alert} (hb : b ∈ op.after alerts)
    (stands : b.StandsFor c v) : ∃ a ∈ alerts, a.StandsFor c v := by
  rcases List.mem_append.1 hb with hb | hb
  · obtain ⟨a, ha, fate⟩ := List.mem_filterMap.1 hb
    exact ⟨a, ha, standsFor_of_fate fate stands⟩
  · exact absurd stands (added b hb)

theorem Store.Op.added_of_not_creates {op : Op} (h : ¬ op.Creates) (alerts : List Alert) :
    op.added alerts = [] := by
  cases op with
  | create fresh a => exact absurd trivial h
  | _ => rfl

namespace Patrol

/-! ## Orderly patrols -/

/-- The store of the patrol holds these alerts, one of each kind at most, and nothing stands for the
finding that the cycle is about to report. -/
structure Orderly (name : Nat → String) (p : Patrol) (alerts : List Alert) : Prop where
  each : p.watch.store.OneEach p.watch.ids alerts
  unmatched : ∀ round ∈ p.round, ∀ f ∈ round.unmatched, ∀ a ∈ alerts,
    ¬ a.StandsFor f.category f.severity
  held : p.watch.storeHeld = true
  names : p.watch.ids.name = name

theorem orderly_fresh (location : String) (monitor : Monitor) (name : Nat → String) :
    (fresh location monitor name).Orderly name [] where
  each := Store.oneEach_onTable_none location name
  unmatched _ _ _ _ _ ha := absurd ha List.not_mem_nil
  held := rfl
  names := rfl

section Idle

variable {name : Nat → String} {w : Watch} {alerts : List Alert}
  (each : w.store.OneEach w.ids alerts) (held : w.storeHeld = true) (names : w.ids.name = name)

include each held names

/-- Between two cycles nothing is about to be reported. -/
theorem orderly_resting : Orderly name { watch := w } alerts where
  each := each
  unmatched _ hround := absurd hround (Option.not_mem_none _)
  held := held
  names := names

/-- Nor is anything where no finding was found to be unmatched. -/
theorem orderly_idle {round : Round} (idle : round.unmatched = none) :
    Orderly name { watch := w, round := some round } alerts where
  each := each
  unmatched round' hround f hf := by
    obtain rfl : round = round' := Option.some.inj hround
    rw [idle] at hf
    cases hf
  held := held
  names := names

end Idle

namespace Orderly

variable {name : Nat → String} {p : Patrol} {alerts : List Alert} (h : p.Orderly name alerts)

include h

theorem begin (settings : Settings) (now : Int) (r : Readings) :
    (begin settings now r p.watch).Orderly name alerts := by
  unfold Patrol.begin
  split
  · exact orderly_resting h.each h.held h.names
  · next m s _ =>
    exact orderly_idle (w := { p.watch with monitor := m.reap }) h.each h.held h.names rfl

/-- The patrol is as orderly with its cycle in it as it was. -/
theorem going {round : Round} (hround : round ∈ p.round) :
    Orderly name { watch := p.watch, round := some round } alerts where
  each := h.each
  unmatched round' hround' := by
    obtain rfl : round = round' := Option.some.inj hround'
    exact h.unmatched round hround
  held := h.held
  names := h.names

/-- A finding that was looked up and found to be unmatched has nothing that stands for it. -/
theorem lookUp {round : Round} (hround : round ∈ p.round) :
    (lookUp p.watch round).Orderly name alerts := by
  unfold Patrol.lookUp
  split
  · next f rest _ _ =>
    by_cases raised : p.watch.hasRaised f = true
    · exact orderly_idle h.each h.held h.names (if_pos raised)
    · rw [if_neg raised]
      refine ⟨h.each, fun round' hround' g hg => ?_, h.held, h.names⟩
      obtain rfl := Option.some.inj hround'
      obtain rfl : f = g := Option.some.inj hg
      intro a ha
      rw [Watch.hasRaised_eq h.each.holds, Bool.not_eq_true, List.any_eq_false] at raised
      simpa using raised a ha
  · exact h.going hround

theorem report {round : Round} (hround : round ∈ p.round) :
    ∃ alerts, (report p.watch round).Orderly name alerts := by
  unfold Patrol.report
  split
  · exact ⟨alerts, h.going hround⟩
  · next f unmatched =>
    -- whatever came between the look-up and now, nothing has come to stand for the finding
    have free := h.unmatched round hround f unmatched
    have unraised : p.watch.hasRaised f = false := by
      rw [Watch.hasRaised_eq h.each.holds, List.any_eq_false]
      intro a ha
      simpa using free a ha
    have each := Watch.oneEach_report h.each round.settings round.now unraised
    have kept := Watch.keeps_report round.settings round.now p.watch f
    refine ⟨_, orderly_idle each (kept.storeHeld.trans h.held) (kept.idNames.trans h.names) ?_⟩
    rfl

theorem conclude {round : Round} (hround : round ∈ p.round) :
    ∃ alerts, (conclude p.watch round).Orderly name alerts := by
  unfold Patrol.conclude
  split
  · rcases Watch.conclude_cases round.snapshot h.each h.held with
      ⟨brokenOff, _⟩ | ⟨w, concluded, kept, ⟨left, each⟩, _⟩
    · rw [brokenOff]
      exact ⟨alerts, orderly_resting h.each h.held h.names⟩
    · rw [concluded]
      exact ⟨left, orderly_resting each (kept.storeHeld.trans h.held)
        (kept.idNames.trans h.names)⟩
  · exact ⟨alerts, h.going hround⟩

/-- Whoever handles stored alerts raises none. -/
theorem handle {op : Op} (handles : ¬ op.Creates) :
    { p with watch.store := op.apply p.watch.store }.Orderly name (op.after alerts) where
  each := h.each.apply (Op.added_of_not_creates handles alerts)
  unmatched round hround f hf b hb stands := by
    obtain ⟨a, ha, stood⟩ := standsFor_of_mem_after (fun a ha => by
      rw [Op.added_of_not_creates handles alerts] at ha
      exact absurd ha List.not_mem_nil) hb stands
    exact h.unmatched round hround f hf a ha stood
  held := h.held
  names := h.names

/-- A task stores an analysis at most. -/
theorem stepTask (now : Int) (t : Enrichment) :
    ∃ alerts', Orderly name { p with watch := (p.watch.stepTask now t).2 } alerts' := by
  unfold Watch.stepTask
  split
  · exact ⟨alerts, h⟩
  · exact ⟨alerts, h⟩
  · next text phase =>
    have each := h.each.create (a := analysisOf now t.parent text) rfl fun c v stands =>
      absurd stands (not_standsFor_analysis _ _ _ _ _ _)
    refine ⟨_, each, ?_, h.held, ?_⟩
    · intro round hround f hf b hb stands
      obtain ⟨a, ha, stood⟩ := standsFor_of_mem_after (fun a ha => by
        rw [Op.eq_of_mem_added ha]
        exact not_standsFor_analysis _ _ _ _ _ _) hb stands
      exact h.unmatched round hround f hf a ha stood
    · exact (Store.name_createFresh _ _ _).trans h.names
  · exact ⟨alerts, h⟩

theorem task (now : Int) (i : Nat) :
    ∃ alerts', Orderly name { p with watch := task now i p.watch } alerts' := by
  unfold Patrol.task
  split
  · exact ⟨alerts, h⟩
  · next t _ =>
    obtain ⟨alerts', each, unmatched, held, names⟩ := h.stepTask now t
    exact ⟨alerts', each, unmatched, held, names⟩

/-- A stop lets every task that is left come to its end. -/
theorem settleAll (now : Int) (a : Answer) (tasks : List Enrichment) :
    ∃ alerts', Orderly name
      { p with watch := tasks.foldl (fun w t => (w.settle now a t).2) p.watch } alerts' := by
  induction tasks generalizing p alerts with
  | nil => exact ⟨alerts, h⟩
  | cons t tasks ih =>
    obtain ⟨alerts₁, h₁⟩ := h.stepTask now (t.answer a)
    obtain ⟨alerts₂, h₂⟩ := h₁.stepTask now (p.watch.stepTask now (t.answer a)).1
    obtain ⟨alerts₃, h₃⟩ := h₂.stepTask now
      ((p.watch.stepTask now (t.answer a)).2.stepTask now (p.watch.stepTask now (t.answer a)).1).1
    exact ih h₃

theorem stop (now : Int) (a : Answer) :
    ∃ alerts', Orderly name { p with watch := p.watch.stop now a } alerts' := by
  have left : Orderly name { p with watch := p.watch.clearRunning.leaveTasks } alerts :=
    ⟨h.each, h.unmatched, h.held, h.names⟩
  obtain ⟨alerts', each, unmatched, held, names⟩ :=
    left.settleAll now a p.watch.clearRunning.leaveTasks.monitor.leaving
  exact ⟨alerts', each, unmatched, held, names⟩

theorem restart (hasBackend : Bool) :
    Orderly name { watch := restart hasBackend p.watch } alerts := by
  have same : (p.watch.store.reopen) = p.watch.store := h.each.holds.reopen_eq
  refine orderly_resting ?_ rfl h.names
  show p.watch.store.reopen.OneEach p.watch.ids alerts
  rw [same]
  exact h.each

/-- A step of the cycle that is under way, if there is one. -/
theorem elim {f : Watch → Round → Patrol}
    (hf : ∀ round ∈ p.round, ∃ alerts, (f p.watch round).Orderly name alerts) :
    ∃ alerts, (p.round.elim p (f p.watch)).Orderly name alerts := by
  cases hround : p.round with
  | none => exact ⟨alerts, h⟩
  | some round => exact hf round hround

/-- **Step.** Whatever happens, the patrol stays orderly. -/
theorem step (e : Event) : ∃ alerts, (p.step e).Orderly name alerts := by
  cases e with
  | begin settings now r =>
    by_cases busy : p.round.isSome = true
    · rw [show p.step (.begin settings now r) = p from if_pos busy]
      exact ⟨alerts, h⟩
    · rw [show p.step (.begin settings now r) = Patrol.begin settings now r p.watch from
        if_neg busy]
      exact ⟨alerts, h.begin settings now r⟩
  | lookUp => exact h.elim fun round hround => ⟨alerts, h.lookUp hround⟩
  | report => exact h.elim fun round hround => h.report hround
  | conclude => exact h.elim fun round hround => h.conclude hround
  | handle op handles => exact ⟨_, h.handle handles⟩
  | answer i a => exact ⟨alerts, h.each, h.unmatched, h.held, h.names⟩
  | task now i => exact h.task now i
  | stop now a => exact h.stop now a
  | restart hasBackend => exact ⟨alerts, h.restart hasBackend⟩

/-- **Runs.** However much happens, the patrol stays orderly. -/
theorem run (events : List Event) : ∃ alerts, (p.run events).Orderly name alerts := by
  induction events generalizing p alerts with
  | nil => exact ⟨alerts, h⟩
  | cons e events ih =>
    obtain ⟨alerts', h'⟩ := h.step e
    exact ih h'

end Orderly

/-! ## Undisturbed cycles -/

theorem run_append (p : Patrol) (events more : List Event) :
    p.run (events ++ more) = (p.run events).run more := List.foldl_append

/-- Looking a finding up and then reporting it, if it is to be reported, raises it. -/
theorem run_visit (w : Watch) (round : Round) (idle : round.unmatched = none) {f : Finding}
    {rest : List Finding} (pending : round.pending = f :: rest) :
    Patrol.run { watch := w, round := some round } visit =
      { watch := w.raise round.settings round.now f
        round := some { round with pending := rest } } := by
  obtain ⟨settings, now, snapshot, _, _⟩ := round
  obtain rfl := idle
  obtain rfl := pending
  show report w { settings, now, snapshot, pending := rest
                  unmatched := if w.hasRaised f then none else some f } = _
  unfold Watch.raise
  by_cases raised : w.hasRaised f = true
  · rw [if_pos raised, if_pos raised]
    rfl
  · rw [if_neg raised, if_neg raised]
    rfl

/-- One visit for each finding raises them all. -/
theorem run_visits (w : Watch) (round : Round) (idle : round.unmatched = none) :
    Patrol.run { watch := w, round := some round }
        (List.replicate round.pending.length visit).flatten =
      { watch := w.raiseAll round.settings round.now round.pending
        round := some { round with pending := [] } } := by
  generalize hfs : round.pending = fs
  induction fs generalizing w round with
  | nil =>
    obtain ⟨settings, now, snapshot, _, unmatched⟩ := round
    obtain rfl := hfs
    rfl
  | cons f fs ih =>
    rw [List.length_cons, List.replicate_succ, List.flatten_cons, run_append,
      run_visit w round idle hfs]
    exact ih (w.raise round.settings round.now f) { round with pending := fs } idle rfl

theorem conclude_of_ok {settings : Settings} {now : Int} {s : Snapshot} {w w' : Watch}
    (h : w.conclude settings now s = .ok w') :
    conclude w { settings, now, snapshot := s, pending := [] } = { watch := w' } := by
  unfold conclude
  rw [h]

theorem conclude_of_error {settings : Settings} {now : Int} {s : Snapshot} {w : Watch}
    {e : CycleFault} (h : w.conclude settings now s = .error e) :
    conclude w { settings, now, snapshot := s, pending := [] } = { watch := w } := by
  unfold conclude
  rw [h]

/-- The steps of a cycle without anything between them end it after raising its findings. -/
theorem run_cycleSteps {settings : Settings} {now : Int} {r : Readings} {w : Watch} {m : Monitor}
    {s : Snapshot} (measured : w.monitor.measured now r = .ok (m, s)) :
    let w₁ : Watch := { w with monitor := m.reap }
    let fs := w₁.findings settings s
    Patrol.run { watch := w } (cycleSteps settings now r fs.length) =
      conclude (w₁.raiseAll settings now fs) { settings, now, snapshot := s, pending := [] } := by
  intro w₁ fs
  let round : Round := { settings, now, snapshot := s, pending := fs }
  have began : begin settings now r w = { watch := w₁, round := some round } := by
    unfold begin
    rw [measured]
  calc Patrol.run { watch := w } (cycleSteps settings now r fs.length)
      = ((begin settings now r w).run
          (List.replicate round.pending.length visit).flatten).run [.conclude] :=
        run_append (begin settings now r w) _ _
    _ = Patrol.run
          { watch := w₁.raiseAll settings now fs
            round := some { round with pending := [] } } [.conclude] := by
        rw [began, run_visits w₁ round rfl]

/-- **Cycles.** Where a cycle completes, its steps without anything between them are the cycle. -/
theorem cycleWith_eq_ok {settings : Settings} {now : Int} {r : Readings} {w : Watch} {m : Monitor}
    {s : Snapshot} (measured : w.monitor.measured now r = .ok (m, s))
    (range : Watch.InRange settings now (w.monitor.cycles + 1)) :
    w.cycleWith settings now r = .ok
      (Patrol.run { watch := w }
        (cycleSteps settings now r (w.findings settings s).length)).watch := by
  let w₁ : Watch := { w with monitor := m.reap }
  have kept := Watch.keeps_raiseAll settings now w₁ (w₁.findings settings s)
  have counted : m.cycles = w.monitor.cycles + 1 := Monitor.cycles_of_measured measured
  have cycles : (w₁.raiseAll settings now (w₁.findings settings s)).monitor.cycles =
      w.monitor.cycles + 1 := kept.cycles.trans counted
  obtain ⟨w', concluded, _⟩ := Watch.keeps_conclude (s := s) (cycles ▸ range)
  have steps : Patrol.run { watch := w }
      (cycleSteps settings now r (w.findings settings s).length) = { watch := w' } :=
    (run_cycleSteps measured).trans (conclude_of_ok concluded)
  unfold Watch.cycleWith
  rw [measured, steps]
  exact concluded

/-- What the steps of an undisturbed cycle do to an orderly patrol. -/
theorem Orderly.raisedEach {name : Nat → String} {w : Watch} {alerts : List Alert}
    (h : Orderly name { watch := w } alerts) (distinct : Function.Injective name)
    (room : alerts.length + 5 ≤ Store.maxRows) (settings : Settings) {now : Int} {r : Readings}
    {m : Monitor} {s : Snapshot} (measured : w.monitor.measured now r = .ok (m, s)) :
    let q := Patrol.run { watch := w } (cycleSteps settings now r (w.findings settings s).length)
    q.round = none ∧ Watch.RaisedEach settings now s w q.watch := by
  intro q
  let w₁ : Watch := { w with monitor := m.reap }
  have held : w.storeHeld = true := h.held
  have findings : w₁.findings settings s = evaluate s settings.limits := if_pos held
  have steps : q = Patrol.conclude (w₁.raiseAll settings now (evaluate s settings.limits))
      { settings, now, snapshot := s, pending := [] } := by
    rw [← findings]
    exact run_cycleSteps measured
  have kept := Watch.keeps_raiseAll settings now w₁ (evaluate s settings.limits)
  have counted : m.cycles = w.monitor.cycles + 1 := Monitor.cycles_of_measured measured
  have cycles : (w₁.raiseAll settings now (evaluate s settings.limits)).monitor.cycles =
      w.monitor.cycles + 1 := kept.cycles.trans counted
  have each : w₁.store.OneEach w₁.ids alerts := h.each
  have length := length_evaluate_le s settings.limits
  have all := Watch.raiseAll_eq settings now (nodup_categories s settings.limits) each
    (show Function.Injective w.ids.name from h.names ▸ distinct) (by omega)
  have rows := all.holds.rows_eq
  rw [List.map_append, ← each.holds.rows_eq] at rows
  rcases Watch.conclude_cases s all (kept.storeHeld.trans held) with
    ⟨brokenOff, none⟩ | ⟨w', concluded, _, ⟨left, each'⟩, swept⟩
  · rw [steps, conclude_of_error brokenOff]
    refine ⟨rfl, Watch.raisedEach_of_rows h.each all ?_⟩
    rw [← none, cycles, rows, Watch.unswept_append_raised]
    rfl
  · rw [steps, conclude_of_ok concluded]
    refine ⟨rfl, Watch.raisedEach_of_rows h.each each' ?_⟩
    rw [swept, cycles, rows, Watch.unswept_append_raised]
    rfl

/-! ## All runs -/

/-- **One of each.** From an empty store on, at most one open alert of the monitor stands for any
category and severity after any events. And where no cycle is under way, ids are never given twice
and the table has room for five more rows, a cycle whose steps nothing comes between raises each of
its findings once. -/
theorem one_open_alert_each (location : String) (monitor : Monitor) (name : Nat → String)
    (events : List Event) :
    let p := (fresh location monitor name).run events
    (∀ c v, p.watch.store.rows.countP (·.StandsFor c v) ≤ 1) ∧
      (Function.Injective name → p.round = none →
        p.watch.store.rows.length + 5 ≤ Store.maxRows →
        ∀ settings now r m s, p.watch.monitor.measured now r = .ok (m, s) →
          let q := p.run (cycleSteps settings now r (evaluate s settings.limits).length)
          q.round = none ∧ Watch.RaisedEach settings now s p.watch q.watch ∧
            (Watch.InRange settings now (p.watch.monitor.cycles + 1) →
              p.watch.cycleWith settings now r = .ok q.watch)) := by
  intro p
  obtain ⟨alerts, h⟩ : ∃ alerts, p.Orderly name alerts :=
    (orderly_fresh location monitor name).run events
  refine ⟨fun c v => ?_, fun distinct resting room settings now r m s measured => ?_⟩
  · rw [h.each.holds.countP_standsFor]
    exact h.each.once c v
  · have alone : p = { watch := p.watch } := by rw [← resting]
    have findings : p.watch.findings settings s = evaluate s settings.limits := if_pos h.held
    rw [h.each.holds.rows_eq, List.length_map] at room
    rw [alone] at h
    obtain ⟨ended, raised⟩ := h.raisedEach distinct room settings measured
    rw [findings, ← alone] at ended raised
    refine ⟨ended, raised, fun range => ?_⟩
    have ok := cycleWith_eq_ok measured range
    rwa [findings, ← alone] at ok

/-- Readings of a host whose memory is used up. -/
def exhausted : Readings := { Watch.unreadable with memory := .ok { used := 1024, total := 1024 } }

theorem exhausted_fits : exhausted.Fits :=
  ⟨Watch.unreadable_fits.cpu, Watch.unreadable_fits.cpuAgain⟩

/-- Ids of different lengths. -/
def tally (n : Nat) : String := String.ofList (List.replicate n 'i')

theorem tally_injective : Function.Injective tally := by
  intro m n h
  have := congrArg String.length h
  simpa [tally] using this

theorem one_open_alert_each_exhausted :
    let p := (fresh "alerts.db" {} tally).run (cycleSteps {} 1700000000 exhausted 1)
    Function.Injective tally ∧ p.round = none ∧
      p.watch.store.rows.map (·.severity) = ["critical"] ∧
      ∃ m s, p.watch.monitor.measured 1700000300 exhausted = .ok (m, s) ∧
        Watch.RaisedEach {} 1700000300 s p.watch
          (p.run (cycleSteps {} 1700000300 exhausted
            (evaluate s ({} : Settings).limits).length)).watch := by
  intro p
  have resting : p.round = none := Option.isNone_iff_eq_none.1 (by decide +kernel)
  have rows : p.watch.store.rows.map (·.severity) = ["critical"] := by decide +kernel
  have room : p.watch.store.rows.length + 5 ≤ Store.maxRows := by decide +kernel
  have fits : p.watch.monitor.Fits := by
    have earlier : p.watch.monitor.earlierCpu = none := by decide +kernel
    intro c hc
    rw [earlier] at hc
    cases hc
  obtain ⟨m, s, measured, _⟩ := Monitor.measured_ok fits exhausted_fits 1700000300
  obtain ⟨_, undisturbed⟩ := one_open_alert_each "alerts.db" {} tally
    (cycleSteps {} 1700000000 exhausted 1)
  have raised := (undisturbed tally_injective resting room {} 1700000300 exhausted m s measured).2.1
  exact ⟨tally_injective, resting, rows, m, s, measured, raised⟩

end Patrol

end HostWatch
