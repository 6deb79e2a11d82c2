import HostWatch.Proofs.Monitor.Ledger

/-!
# Analyses in the life of a monitor

`analyses_accounted`: however cycles, tasks, clients, the end of the store and stops follow each
other step by step, the list of tasks keeps its limit, every analysis in the store comes from the
one task of an alert that was raised before, tasks leave every other alert as it is, and nothing
comes of a task that sees the monitor stopped, gets no answer or finds the store gone, nor of any
task after a stop has returned.
-/

namespace HostWatch

open Store (Op)

namespace Shift

variable {s s' : Shift}

/-! ## Silent alerts -/

/-- Nothing will come of the task that was made for the alert with this id. -/
structure Silent (s : Shift) (id : String) : Prop where
  asked : ∃ q, .asked q ∈ s.deeds ∧ q.id = id
  barred : ∀ t ∈ s.everyone, t.parent.id = id → s.Barred t

namespace Silent

variable {id : String} {max : Nat} {old alerts : List Alert} (h : s.Silent id)

include h

/-- **Step.** The alert stays silent: its task stays barred, and it does not get another one. -/
theorem step (sound : s.Sound max old alerts) (e : Event) :
    (s.step e).Silent id ∧
      ∀ p b, .analysed p b ∈ (s.step e).deeds → p.id = id → .analysed p b ∈ s.deeds := by
  have follows := Follows.step s e
  obtain ⟨q, asked, same⟩ := h.asked
  refine ⟨⟨⟨q, (s.step_frame e).2 asked, same⟩, ?_⟩, ?_⟩
  · intro t' mem parent
    rcases follows.everyone mem with ⟨t, before, turns⟩ | ⟨-, lap, here, f, later, stage⟩
    · exact (h.barred t before (turns.parent ▸ parent)).turns follows turns
    · exact absurd (same.trans parent.symm) (((sound.lap lap here).next f _ later stage).2 q asked)
  · intro p b deed parent
    rcases follows.analysed p b deed with before | ⟨t, task, rfl, uses⟩
    · exact before
    · rw [(h.barred t task parent).usesStore] at uses
      cases uses

/-- **Runs.** So it stays. -/
theorem run (sound : s.Sound max old alerts) {events : List Event}
    (limits : ∀ e ∈ events, e.Limits max) :
    ∀ p b, .analysed p b ∈ (s.run events).deeds → p.id = id → .analysed p b ∈ s.deeds := by
  induction events generalizing s alerts with
  | nil => exact fun _ _ deed _ => deed
  | cons e events ih =>
    obtain ⟨silent, none⟩ := h.step sound e
    obtain ⟨alerts', sound'⟩ := sound.step (limits e List.mem_cons_self)
    intro p b deed parent
    have limits' (e' : Event) (mem : e' ∈ events) := limits e' (List.mem_cons_of_mem _ mem)
    exact none p b (ih silent sound' limits' p b deed parent) parent

end Silent

/-! ## All runs -/

theorem sound_fresh {store : Store} {initial : List Alert} (held : store.Holds initial)
    {name : Nat → String} (distinct : Function.Injective name) (hasBackend looping : Bool)
    (max : Nat) : (fresh store hasBackend looping name).Sound max initial initial where
  ledger := ⟨held, .nil, fun _ mem => absurd mem List.not_mem_nil,
    fun a mem category => .inl ⟨a, mem, category, rfl⟩⟩
  distinct := distinct
  crews := ⟨List.forall_mem_nil _, List.nodup_nil, List.forall_mem_nil _⟩
  lap _ mem := absurd mem (Option.not_mem_none _)
  few := Nat.zero_le _

theorem halting_fresh (store : Store) (hasBackend looping : Bool) (name : Nat → String) :
    (fresh store hasBackend looping name).Halting where
  cleared begun := absurd rfl begun
  waiting other := by cases other
  returned other := by cases other

theorem Halting.run (h : s.Halting) (events : List Event) : (s.run events).Halting := by
  induction events generalizing s with
  | nil => exact h
  | cons e events ih => exact ih (h.step e)

/-- The analyses that were not there at the start were stored by one task each. -/
theorem Sound.source {max : Nat} {old alerts : List Alert} (h : s.Sound max old alerts)
    {c : Alert} (mem : c ∈ alerts) (category : c.category = .aiAnalysis) :
    (∃ a ∈ old, a.category = .aiAnalysis ∧ c.id = a.id) ∨
      ∃ p b, .analysed p b ∈ s.deeds ∧ c.id = b.id ∧ c.Analyses p ∧
        ∀ q d, .analysed q d ∈ s.deeds → c.id = d.id → q = p := by
  rcases h.ledger.recorded c mem category with before | ⟨p, b, deed, id, analyses⟩
  · exact .inl before
  · refine .inr ⟨p, b, deed, id, analyses, fun q d deed' id' => ?_⟩
    exact h.ledger.accounted.eq_of_id deed' deed (id'.symm.trans id)

/-- The alert of a task that is barred before its end has no analysis, and never gets one. -/
theorem Sound.unwritten {max : Nat} {old alerts : List Alert} (h : s.Sound max old alerts)
    {t : Enrichment} (mem : t ∈ s.everyone) (going : t.phase ≠ .done) (barred : s.Barred t)
    {events : List Event} (limits : ∀ e ∈ events, e.Limits max) :
    ∀ p b, .analysed p b ∈ (s.run events).deeds → p.id ≠ t.parent.id := by
  intro p b deed parent
  have silent : s.Silent t.parent.id := by
    refine ⟨⟨t.parent, h.crews.asked t mem, rfl⟩, fun u member same => ?_⟩
    obtain rfl : u = t := h.crews.eq_of_parent member mem same
    exact barred
  exact h.crews.unwritten t mem going p b (silent.run h limits p b deed parent) parent

/-- A step of a task adds to the rows what it is remembered for, and changes no other. -/
theorem Sound.rows_task {max : Nat} {old alerts : List Alert} (h : s.Sound max old alerts)
    {crew : Crew} {i : Nat} {t : Enrichment} (now : Int)
    (here : (s.watch.monitor.crew crew)[i]? = some t) :
    ∃ written : List Alert, written.length ≤ 1 ∧
      (s.task crew now i).deeds = written.map (.analysed t.parent) ++ s.deeds ∧
      (s.task crew now i).watch.store.rows = s.watch.store.rows ++ written.map .ofAlert := by
  rcases task_cases now here with ⟨t', -, same⟩ | ⟨text, holding, same⟩
  · rw [same]
    exact ⟨[], Nat.zero_le _, rfl, (List.append_nil _).symm⟩
  · rw [same]
    rcases h.ledger.holds.createFresh_cases s.watch.ids (a := analysisOf now t.parent text) rfl with
      ⟨-, e, refused⟩ | ⟨one, stored⟩
    · simp only [deedsOf, holding, refused]
      exact ⟨[], Nat.zero_le _, rfl, (List.append_nil _).symm⟩
    · simp only [deedsOf, holding, stored]
      refine ⟨[_], Nat.le_refl _, rfl, ?_⟩
      have after := (h.ledger.holds.apply (.create s.watch.ids.next
        (analysisOf now t.parent text))).rows_eq
      rw [Op.after_create, one, List.map_append, ← h.ledger.holds.rows_eq] at after
      exact after

/-- From a monitor on any store, whose ids are never given twice and whose cycles all have one limit
on the number of tasks, any events lead to where

* the list of tasks keeps the limit;
* every analysis in the store, unless it was there at the start, was stored by the one task of an
  alert that was raised before, and names it and has its severity, and no alert has two;
* a task that cannot get to the store, or has nothing to store, stores nothing whatever follows;
* when a stop has returned, no task stores anything whatever follows;
* a step of a task adds the analysis that it is remembered for to the rows, and changes no other. -/
theorem analyses_accounted {store : Store} {initial : List Alert} (held : store.Holds initial)
    {name : Nat → String} (distinct : Function.Injective name) (hasBackend looping : Bool)
    {max : Nat} {events : List Event} (limits : ∀ e ∈ events, e.Limits max) :
    let s := (fresh store hasBackend looping name).run events
    s.watch.monitor.tasks.length ≤ max ∧
    (Accounted s.deeds ∧ ∃ alerts, s.watch.store.Holds alerts ∧
      ∀ c ∈ alerts, c.category = .aiAnalysis →
        (∃ a ∈ initial, a.category = .aiAnalysis ∧ c.id = a.id) ∨
          ∃ p b, .analysed p b ∈ s.deeds ∧ c.id = b.id ∧ c.Analyses p ∧
            ∀ q d, .analysed q d ∈ s.deeds → c.id = d.id → q = p) ∧
    (∀ t ∈ s.everyone, t.phase ≠ .done → s.Barred t →
      ∀ more : List Event, (∀ e ∈ more, e.Limits max) →
        ∀ p b, .analysed p b ∈ (s.run more).deeds → p.id ≠ t.parent.id) ∧
    (s.stopping = .returned →
      ∀ more p b, .analysed p b ∈ (s.run more).deeds → .analysed p b ∈ s.deeds) ∧
    (∀ crew i a, (s.answer crew i a).watch.store = s.watch.store) ∧
    (∀ crew now i t, (s.watch.monitor.crew crew)[i]? = some t →
      ∃ written : List Alert, written.length ≤ 1 ∧
        (s.task crew now i).deeds = written.map (.analysed t.parent) ++ s.deeds ∧
        (s.task crew now i).watch.store.rows =
          s.watch.store.rows ++ written.map .ofAlert) := by
  intro s
  obtain ⟨alerts, sound⟩ : ∃ alerts, s.Sound max initial alerts :=
    (sound_fresh held distinct hasBackend looping max).run limits
  have halting : s.Halting := (halting_fresh store hasBackend looping name).run events
  refine ⟨sound.few, ⟨sound.ledger.accounted, alerts, sound.ledger.holds, ?_⟩, ?_, ?_, ?_, ?_⟩
  · exact fun c mem category => sound.source mem category
  · exact fun t mem going barred more limits' => sound.unwritten mem going barred limits'
  · intro returned more p b
    have quiet : s.Quiet :=
      ⟨halting.cleared (by rw [returned]; simp), halting.returned returned⟩
    exact quiet.run more p b
  · intro crew i a
    unfold answer
    split <;> rfl
  · exact fun crew now i t here => sound.rows_task now here

/-- A monitor whose loop finds memory and disk used up, and gets an answer about the memory; a stop
that begins then waits for the task of the disk. -/
def halfAnswered : List Event :=
  [.begin true {} 1700000000 { Patrol.exhausted with disk := .ok ⟨"/", 1024, 1024⟩ }]
    ++ List.replicate 8 .advance
    ++ [.answer .listed 0 (.ok "Close a program."), .task .listed 1700000060 0,
      .task .listed 1700000060 0, .task .listed 1700000060 0, .advance, .advance]
    ++ List.replicate 4 .stop

/-- The analysis of the memory is stored. The disk will have none, though its task goes on. -/
theorem analyses_accounted_halfAnswered :
    let s := (fresh (.onTable "alerts.db" none) true true Patrol.tally).run halfAnswered
    (Store.onTable "alerts.db" none).Holds [] ∧ Function.Injective Patrol.tally ∧
      (∀ e ∈ halfAnswered, e.Limits 8) ∧ s.stopping = .waiting ∧
      s.watch.store.rows.map (·.category) = ["memory", "disk", "ai-analysis"] ∧
      s.watch.monitor.tasks.length ≤ 8 ∧
      ∃ t ∈ s.everyone, t.parent.category = .disk ∧ t.phase = .asking ∧
        ∀ more : List Event, (∀ e ∈ more, e.Limits 8) →
          ∀ p b, .analysed p b ∈ (s.run more).deeds → p.id ≠ t.parent.id := by
  intro s
  have held : (Store.onTable "alerts.db" none).Holds [] := Store.holds_onTable_none _
  have limits : ∀ e ∈ halfAnswered, e.Limits 8 := by decide +kernel
  obtain ⟨waiting, rows, t, mem, disk, asking, barred⟩ :
      s.stopping = .waiting ∧
        s.watch.store.rows.map (·.category) = ["memory", "disk", "ai-analysis"] ∧
        ∃ t ∈ s.everyone, t.parent.category = .disk ∧ t.phase = .asking ∧ s.Barred t := by
    decide +kernel
  obtain ⟨few, -, silent, -⟩ :=
    analyses_accounted held Patrol.tally_injective true true limits
  -- from here on nothing should run the events again
  have reached :
      s = (fresh (.onTable "alerts.db" none) true true Patrol.tally).run halfAnswered := rfl
  rw [← reached] at few silent
  clear_value s
  exact ⟨held, Patrol.tally_injective, limits, waiting, rows, few, t, mem, disk, asking,
    silent t mem (by simp [asking]) barred⟩

end Shift

end HostWatch
