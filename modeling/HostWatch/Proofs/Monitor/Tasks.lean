import HostWatch.Monitor.Shift
import HostWatch.Proofs.Monitor.Completion
import Mathlib.Data.List.Induction
import Mathlib.Data.List.Perm.Basic

/-!
# What becomes of tasks

Whatever happens, a task turns only as its own next step turns it, and tasks are made only by
cycles (`Follows`, `follows_step`). So a task that has been barred from the store stays barred and
stores nothing (`Silent.step`), and after a stop has returned every task there is or will be is
barred (`Halting.step`, `Quiet.step`).
-/

namespace HostWatch

/-! ## Tasks in their crews -/

namespace Monitor

variable {m : Monitor} {crew : Crew} {i : Nat} {t t' : Enrichment}

theorem mem_everyone_of_crew (h : (m.crew crew)[i]? = some t) : t ∈ m.everyone := by
  have mem := List.mem_of_getElem? h
  cases crew with
  | listed => exact List.mem_append_left _ mem
  | leaving => exact List.mem_append_right _ mem

/-- A task that is replaced in its crew is replaced among all tasks. -/
theorem everyone_withCrew_set (h : (m.crew crew)[i]? = some t) (t' : Enrichment) :
    ∃ k, m.everyone[k]? = some t ∧
      (m.withCrew crew ((m.crew crew).set i t')).everyone = m.everyone.set k t' := by
  obtain ⟨i_lt, -⟩ := List.getElem?_eq_some_iff.1 h
  cases crew with
  | listed =>
    have i_lt : i < m.tasks.length := i_lt
    refine ⟨i, (List.getElem?_append_left i_lt).trans h, ?_⟩
    exact (List.set_append_left i t' i_lt).symm
  | leaving =>
    have beyond : m.tasks.length ≤ m.tasks.length + i := Nat.le_add_right _ _
    refine ⟨m.tasks.length + i, ?_, ?_⟩
    · rw [everyone, List.getElem?_append_right beyond, Nat.add_sub_cancel_left]
      exact h
    · rw [everyone, everyone, List.set_append_right _ _ beyond, Nat.add_sub_cancel_left]
      rfl

theorem mem_everyone_withCrew_set (h : (m.crew crew)[i]? = some t) {u : Enrichment}
    (mem : u ∈ (m.withCrew crew ((m.crew crew).set i t')).everyone) :
    u = t' ∨ u ∈ m.everyone := by
  obtain ⟨k, -, same⟩ := everyone_withCrew_set h t'
  rw [same] at mem
  exact (List.mem_or_eq_of_mem_set mem).symm

/-- So the other tasks stay as they are. -/
theorem everyone_withCrew_perm (h : (m.crew crew)[i]? = some t) (t' : Enrichment) :
    ∃ others, m.everyone.Perm (t :: others) ∧
      (m.withCrew crew ((m.crew crew).set i t')).everyone.Perm (t' :: others) := by
  obtain ⟨k, at_k, same⟩ := everyone_withCrew_set h t'
  obtain ⟨k_lt, rfl⟩ := List.getElem?_eq_some_iff.1 at_k
  refine ⟨m.everyone.eraseIdx k, (List.getElem_cons_eraseIdx_perm k_lt).symm, ?_⟩
  rw [same]
  exact List.set_perm_cons_eraseIdx k_lt t'

theorem length_tasks_withCrew_set (m : Monitor) (crew : Crew) (i : Nat) (t : Enrichment) :
    (m.withCrew crew ((m.crew crew).set i t)).tasks.length = m.tasks.length := by
  cases crew with
  | listed => exact List.length_set
  | leaving => rfl

theorem everyone_reap_sublist (m : Monitor) : m.reap.everyone.Sublist m.everyone :=
  List.filter_sublist.append_right _

theorem of_measured {now : Int} {r : Readings} {m' : Monitor} {snapshot : Snapshot}
    (h : m.measured now r = .ok (m', snapshot)) :
    ∃ cycles cpu, m' = { m with cycles, earlierCpu := cpu } := ⟨_, _, (eq_of_measured h).1⟩

/-- The backend is asked about an alert, or nothing changes. -/
theorem enrich_cases (settings : Settings) (prompt : String) (parent : Alert) (m : Monitor) :
    m.enrich settings prompt parent = m ∨
      m.tasks.length < settings.monitor.maxTasks ∧
        ∃ question, m.enrich settings prompt parent =
          { m with tasks := m.tasks ++ [⟨parent, question, .asking⟩] } := by
  unfold enrich
  split
  · next free => exact .inr ⟨free.2, _, rfl⟩
  · exact .inl rfl

end Monitor

theorem Watch.of_sweep {settings : Settings} {now : Int} {w w' : Watch}
    (h : w.sweep settings now = .ok w') :
    w' = w ∨
      ∃ cutoff, w' = { w with store := (Store.Op.purgeDismissedBefore cutoff).apply w.store } := by
  unfold sweep at h
  split at h
  · split at h
    · cases h
    · cases h
      exact .inr ⟨_, rfl⟩
  · cases h
    exact .inl rfl

namespace Shift

/-- All tasks that have not been forgotten. -/
abbrev everyone (s : Shift) : List Enrichment := s.watch.monitor.everyone

/-! ## What a step can do -/

/-- What a task can turn into. -/
inductive Turns (s : Shift) (t : Enrichment) : Enrichment → Prop where
  | stays : Turns s t t
  | answered (a : Answer) (asking : t.phase = .asking) : Turns s t { t with phase := .answered a }
  | allowed (a : Answer) (answered : t.phase = .answered a)
      (running : s.watch.monitor.running = true) : Turns s t { t with phase := .allowed a }
  | holding (a : Answer) (allowed : t.phase = .allowed a) (alive : s.alive = true)
      (success : a.success = true) : Turns s t { t with phase := .holding a.output }
  | ended : Turns s t { t with phase := .done }

/-- A cycle is about to make this task. -/
def Makes (s : Shift) (t : Enrichment) : Prop :=
  t.phase = .asking ∧ ∃ lap ∈ s.lap, ∃ f rest, lap.stage = .asking f t.parent rest

/-- What can come next, as far as tasks are concerned. -/
structure Follows (s s' : Shift) : Prop where
  listed : ∀ t' ∈ s'.watch.monitor.tasks,
    (∃ t ∈ s.watch.monitor.tasks, s.Turns t t') ∨ s.Makes t'
  leaving : ∀ t' ∈ s'.watch.monitor.leaving, ∃ t ∈ s.everyone, s.Turns t t'
  running : s'.watch.monitor.running = true → s.watch.monitor.running = true
  alive : s'.alive = true → s.alive = true
  analysed : ∀ p b, .analysed p b ∈ s'.deeds →
    .analysed p b ∈ s.deeds ∨ ∃ t ∈ s.everyone, t.parent = p ∧ t.usesStore = true

variable {s s' : Shift}

theorem Turns.parent {t t' : Enrichment} (h : s.Turns t t') : t'.parent = t.parent := by
  cases h <;> rfl

/-- A task that has ended does not begin again. -/
theorem Turns.going {t t' : Enrichment} (h : s.Turns t t') (going : t'.phase ≠ .done) :
    t.phase ≠ .done := by
  cases h with
  | stays => exact going
  | answered _ phase | allowed _ phase _ | holding _ phase _ _ => simp [phase]
  | ended => exact absurd rfl going

/-- Only a living store is taken hold of. -/
theorem Turns.usesStore {t t' : Enrichment} (h : s.Turns t t') (uses : t'.usesStore = true) :
    t.usesStore = true ∨ s.alive = true := by
  cases h with
  | stays => exact .inl uses
  | holding _ _ alive _ => exact .inr alive
  | answered | allowed | ended => cases uses

theorem alive_of_lap {lap : Lap} (h : lap ∈ s.lap) (uses : lap.usesStore = true) :
    s.alive = true := by
  have : s.lap.any (·.usesStore) = true := by rw [Option.mem_def.1 h]; exact uses
  simp [alive, this]

theorem alive_of_task {t : Enrichment} (h : t ∈ s.everyone) (uses : t.usesStore = true) :
    s.alive = true := by
  have : s.everyone.any (·.usesStore) = true := List.any_eq_true.2 ⟨t, h, uses⟩
  simp [alive, this]

theorem alive_cases (h : s.alive = true) :
    s.watch.storeHeld = true ∨ (∃ lap ∈ s.lap, lap.usesStore = true) ∨
      ∃ t ∈ s.everyone, t.usesStore = true := by
  unfold alive at h
  rw [Bool.or_eq_true, Bool.or_eq_true] at h
  rcases h with (held | lap) | tasks
  · exact .inl held
  · exact .inr (.inl ((Option.any_eq_true _ _).1 lap))
  · exact .inr (.inr (List.any_eq_true.1 tasks))

/-- A task takes a step that does not touch the store, or it stores its analysis and ends. -/
theorem task_cases {crew : Crew} {i : Nat} {t : Enrichment} (now : Int)
    (here : (s.watch.monitor.crew crew)[i]? = some t) :
    (∃ t', s.Turns t t' ∧ s.task crew now i = s.turned crew i t') ∨
      ∃ text, t.phase = .holding text ∧
        s.task crew now i =
          let made := s.watch.store.createFresh s.watch.ids (analysisOf now t.parent text)
          Shift.turned
            { s with
              watch := { s.watch with store := made.2.1, ids := made.2.2 }
              deeds := deedsOf now t s.watch ++ s.deeds }
            crew i { t with phase := .done } := by
  unfold task
  simp only [here]
  cases phase : t.phase with
  | asking =>
    exact .inl ⟨t, .stays, by simp [Watch.stepTask, deedsOf, phase]⟩
  | answered a =>
    left
    cases running : s.watch.monitor.running with
    | true =>
      exact ⟨_, .allowed a phase running, by simp [Watch.stepTask, deedsOf, phase, running]⟩
    | false => exact ⟨_, .ended, by simp [Watch.stepTask, deedsOf, phase, running]⟩
  | allowed a =>
    left
    by_cases found : s.alive = true ∧ a.success = true
    · obtain ⟨alive, success⟩ := found
      exact ⟨_, .holding a phase alive success,
        by simp [Watch.stepTask, deedsOf, phase, alive, success]⟩
    · exact ⟨_, .ended, by simp [Watch.stepTask, deedsOf, phase, found]⟩
  | holding text => exact .inr ⟨text, rfl, by simp [Watch.stepTask, phase]⟩
  | done => exact .inl ⟨t, .stays, by simp [Watch.stepTask, deedsOf, phase]⟩

namespace Follows

/-- Where no task changes and none is made, only the other holders of the store matter. -/
theorem of_subset (listed : ∀ t ∈ s'.watch.monitor.tasks, t ∈ s.watch.monitor.tasks)
    (leaving : ∀ t ∈ s'.watch.monitor.leaving, t ∈ s.everyone)
    (running : s'.watch.monitor.running = true → s.watch.monitor.running = true)
    (held : s'.watch.storeHeld = true → s.watch.storeHeld = true)
    (lap : ∀ lap ∈ s'.lap, lap.usesStore = true → s.alive = true)
    (analysed : ∀ p b, .analysed p b ∈ s'.deeds → .analysed p b ∈ s.deeds) : s.Follows s' where
  listed t h := .inl ⟨t, listed t h, .stays⟩
  leaving t h := ⟨t, leaving t h, .stays⟩
  running := running
  alive h := by
    rcases alive_cases h with h | ⟨l, mem, uses⟩ | ⟨t, mem, uses⟩
    · simp [Shift.alive, held h]
    · exact lap l mem uses
    · rcases List.mem_append.1 mem with mem | mem
      · exact alive_of_task (List.mem_append_left _ (listed t mem)) uses
      · exact alive_of_task (leaving t mem) uses
  analysed p b h := .inl (analysed p b h)

/-- Where the tasks are the same and nobody else takes hold of the store. -/
theorem of_same (listed : s'.watch.monitor.tasks = s.watch.monitor.tasks)
    (leaving : s'.watch.monitor.leaving = s.watch.monitor.leaving)
    (running : s'.watch.monitor.running = true → s.watch.monitor.running = true)
    (held : s'.watch.storeHeld = true → s.watch.storeHeld = true)
    (lap : ∀ lap ∈ s'.lap, lap.usesStore = true → lap ∈ s.lap)
    (analysed : ∀ p b, .analysed p b ∈ s'.deeds → .analysed p b ∈ s.deeds) : s.Follows s' :=
  of_subset (fun _ mem => listed ▸ mem) (fun _ mem => List.mem_append_right _ (leaving ▸ mem))
    running held (fun l mem uses => alive_of_lap (lap l mem uses) uses) analysed

theorem refl (s : Shift) : s.Follows s :=
  of_same rfl rfl id id (fun _ mem _ => mem) fun _ _ => id

/-- A task comes from one that there was, or it is the one that the cycle was about to make. -/
theorem everyone (h : s.Follows s') {t' : Enrichment} (mem : t' ∈ s'.everyone) :
    (∃ t ∈ s.everyone, s.Turns t t') ∨ s.Makes t' := by
  rcases List.mem_append.1 mem with listed | leaving
  · rcases h.listed t' listed with ⟨t, before, turns⟩ | makes
    · exact .inl ⟨t, List.mem_append_left _ before, turns⟩
    · exact .inr makes
  · exact .inl (h.leaving t' leaving)

theorem begin (byLoop : Bool) (settings : Settings) (now : Int) (r : Readings) :
    s.Follows (s.begin byLoop settings now r) := by
  unfold Shift.begin
  split
  · exact refl s
  · split
    · exact refl s
    · next m snapshot measured =>
      obtain ⟨cycles, cpu, rfl⟩ := Monitor.of_measured measured
      refine of_same rfl rfl id id ?_ fun _ _ => id
      intro lap mem uses
      obtain rfl := Option.some.inj mem
      cases uses

theorem goOn {lap : Lap} {stage : Lap.Stage} (h : s.Follows s')
    (uses : Lap.usesStore { lap with stage } = true → s.alive = true) :
    s.Follows (s'.goOn lap stage) where
  listed := h.listed
  leaving := h.leaving
  running := h.running
  alive living := by
    rcases alive_cases living with held | ⟨l, mem, using_store⟩ | ⟨t, mem, using_store⟩
    · exact h.alive (by simp [Shift.alive, show s'.watch.storeHeld = true from held])
    · obtain rfl := Option.some.inj mem
      exact uses using_store
    · exact h.alive (alive_of_task mem using_store)
  analysed := h.analysed

theorem rest (h : s.Follows s') : s.Follows s'.rest where
  listed := h.listed
  leaving := h.leaving
  running := h.running
  alive living := by
    rcases alive_cases living with held | ⟨l, mem, -⟩ | ⟨t, mem, using_store⟩
    · exact h.alive (by simp [Shift.alive, show s'.watch.storeHeld = true from held])
    · cases mem
    · exact h.alive (alive_of_task mem using_store)
  analysed := h.analysed

/-- A cycle works on the store. -/
theorem withStore (store : Store) (ids : IdSupply) {deeds : List Deed}
    (analysed : ∀ p b, .analysed p b ∈ deeds → .analysed p b ∈ s.deeds) :
    s.Follows { s with watch := { s.watch with store, ids }, deeds } :=
  of_same rfl rfl id id (fun _ mem _ => mem) analysed

theorem sweep {lap : Lap} (alive : s.alive = true) : s.Follows (s.sweep lap) := by
  unfold Shift.sweep
  split
  · exact (refl s).rest
  · next watch swept =>
    refine goOn ?_ fun _ => alive
    rcases Watch.of_sweep swept with rfl | ⟨cutoff, rfl⟩
    · exact refl s
    · exact withStore _ _ fun _ _ => id

theorem report {lap : Lap} {f : Finding} {later : List Finding} (alive : s.alive = true) :
    s.Follows (s.report lap f later) := by
  unfold Shift.report
  split
  · exact (withStore _ _ fun _ _ => id).goOn fun _ => alive
  · refine goOn (withStore _ _ ?_) fun _ => alive
    intro p b mem
    simpa using mem

/-- A task that is made is the one that the cycle was about to make. -/
theorem ask {lap : Lap} (here : lap ∈ s.lap) {f : Finding} {a : Alert} {later : List Finding}
    (asking : lap.stage = .asking f a later) : s.Follows (s.ask lap f a) := by
  unfold Shift.ask
  rcases s.watch.monitor.enrich_cases lap.settings f.prompt a with same | ⟨-, question, made⟩
  · simp only [same, Nat.lt_irrefl, if_false]
    exact refl s
  · simp only [made, List.length_append, List.length_singleton, Nat.lt_add_one, if_true]
    refine ⟨?_, ?_, id, ?_, fun p b mem => .inl (by simpa using mem)⟩
    · intro t mem
      rcases List.mem_append.1 mem with before | new
      · exact .inl ⟨t, before, .stays⟩
      · obtain rfl := List.mem_singleton.1 new
        exact .inr ⟨rfl, lap, here, f, later, asking⟩
    · exact fun t mem => ⟨t, List.mem_append_right _ mem, .stays⟩
    · exact fun _ => alive_of_lap here (by simp [Lap.usesStore, asking])

/-- The next step of the cycle that is under way. -/
theorem advance {lap : Lap} (here : lap ∈ s.lap) : s.Follows (s.advance lap) := by
  have living := alive_of_lap here
  unfold Shift.advance
  split
  · refine goOn (of_subset ?_ ?_ id id (fun _ at_work => alive_of_lap at_work) fun _ _ => id) ?_
    · exact fun t mem => (List.mem_filter.1 mem).1
    · exact fun t mem => List.mem_append_right _ mem
    · exact fun uses => by cases uses
  · refine (refl s).goOn fun uses => ?_
    split at uses
    · next alive => exact alive
    · cases uses
  · next stage => exact sweep (living (by simp [Lap.usesStore, stage]))
  · next stage => exact (refl s).goOn fun _ => living (by simp [Lap.usesStore, stage])
  · next stage => exact report (living (by simp [Lap.usesStore, stage]))
  · next stage => exact (ask here stage).goOn fun _ => living (by simp [Lap.usesStore, stage])
  · exact rest (of_same rfl rfl id id (fun _ at_work _ => at_work) fun _ _ => id)

/-- A task turns into another one, in its place, and may work on the store as it does. -/
theorem turned {crew : Crew} {i : Nat} {t t' : Enrichment}
    (here : (s.watch.monitor.crew crew)[i]? = some t) (turns : s.Turns t t') (store : Store)
    (ids : IdSupply) {deeds : List Deed}
    (analysed : ∀ p b, .analysed p b ∈ deeds →
      .analysed p b ∈ s.deeds ∨ t.parent = p ∧ t.usesStore = true) :
    s.Follows (Shift.turned { s with watch := { s.watch with store, ids }, deeds } crew i t') := by
  have mem := Monitor.mem_everyone_of_crew here
  refine ⟨?_, ?_, ?_, ?_, ?_⟩
  · intro u member
    left
    cases crew with
    | listed =>
      rcases List.mem_or_eq_of_mem_set member with before | rfl
      · exact ⟨u, before, .stays⟩
      · exact ⟨t, List.mem_of_getElem? here, turns⟩
    | leaving => exact ⟨u, member, .stays⟩
  · intro u member
    cases crew with
    | listed => exact ⟨u, List.mem_append_right _ member, .stays⟩
    | leaving =>
      rcases List.mem_or_eq_of_mem_set member with before | rfl
      · exact ⟨u, List.mem_append_right _ before, .stays⟩
      · exact ⟨t, mem, turns⟩
  · cases crew <;> exact id
  · intro living
    rcases alive_cases living with held | ⟨l, at_work, uses⟩ | ⟨u, member, uses⟩
    · simp [Shift.alive, show s.watch.storeHeld = true from held]
    · exact alive_of_lap at_work uses
    · rcases Monitor.mem_everyone_withCrew_set here member with rfl | before
      · exact (turns.usesStore uses).elim (alive_of_task mem) id
      · exact alive_of_task before uses
  · intro p b stored
    exact (analysed p b stored).imp_right fun ⟨parent, uses⟩ => ⟨t, mem, parent, uses⟩

theorem answer (crew : Crew) (i : Nat) (a : Answer) : s.Follows (s.answer crew i a) := by
  unfold Shift.answer
  split
  · exact refl s
  · next t here =>
    refine turned here ?_ s.watch.store s.watch.ids fun _ _ => .inl
    unfold Enrichment.answer
    split
    · next asking => exact .answered a asking
    · exact .stays

theorem task (crew : Crew) (now : Int) (i : Nat) : s.Follows (s.task crew now i) := by
  cases here : (s.watch.monitor.crew crew)[i]? with
  | none => simpa [Shift.task, here] using refl s
  | some t =>
    rcases task_cases now here with ⟨t', turns, same⟩ | ⟨text, holding, same⟩
    · rw [same]
      exact turned here turns _ _ fun _ _ => .inl
    · rw [same]
      refine turned here .ended _ _ fun p b mem => ?_
      unfold deedsOf at mem
      rw [holding] at mem
      simp only at mem
      split at mem
      · rcases List.mem_append.1 mem with new | old
        · obtain ⟨rfl, rfl⟩ : p = t.parent ∧ _ = _ := by simpa using new
          exact .inr ⟨rfl, by simp [Enrichment.usesStore, holding]⟩
        · exact .inl old
      · exact .inl mem

theorem handle (op : Store.Op) : s.Follows (s.handle op) := by
  unfold Shift.handle
  split
  · exact withStore (op.apply s.watch.store) s.watch.ids fun _ _ => id
  · exact refl s

theorem stop : s.Follows s.stop := by
  have unchanged := fun (lap : Lap) (at_work : lap ∈ s.lap) (_ : lap.usesStore = true) => at_work
  have cleared : s.Follows { s with watch := s.watch.clearRunning, stopping := .cleared } :=
    of_same rfl rfl (fun running => by cases running) id unchanged fun _ _ => id
  unfold Shift.stop
  split
  · exact cleared
  · exact cleared
  · split
    · exact refl s
    · exact of_same rfl rfl id id unchanged fun _ _ => id
  · refine of_subset ?_ ?_ id id (fun _ at_work => alive_of_lap at_work) fun _ _ => id
    · exact fun t mem => absurd mem List.not_mem_nil
    · exact fun t mem => List.perm_append_comm.mem_iff.1 mem
  · split
    · exact of_same rfl rfl id id unchanged fun _ _ => id
    · next t others leaving =>
      split
      · refine of_subset (fun _ => id) ?_ id id ?_ fun _ _ => id
        · exact fun u mem => List.mem_append_right _ (leaving ▸ List.mem_cons_of_mem t mem)
        · exact fun _ at_work => alive_of_lap at_work
      · exact refl s

/-- **Step.** -/
theorem step (s : Shift) (e : Event) : s.Follows (s.step e) := by
  cases e with
  | begin byLoop settings now r => exact begin byLoop settings now r
  | advance =>
    cases here : s.lap with
    | none => simpa [Shift.step, here] using refl s
    | some lap => simpa [Shift.step, here] using advance here
  | handle op handles => exact handle op
  | drop =>
    exact of_same rfl rfl id (fun held => by cases held) (fun _ at_work _ => at_work) fun _ _ => id
  | answer crew i a => exact answer crew i a
  | task crew now i => exact task crew now i
  | stop => exact stop

end Follows

/-! ## Tasks that nothing will come of -/

/-- What a task that is barred turns into is barred. -/
theorem Barred.turns {t t' : Enrichment} (h : s.Barred t) (follows : s.Follows s')
    (turns : s.Turns t t') : s'.Barred t' := by
  have running : s.watch.monitor.running = false → s'.watch.monitor.running = false := by
    simpa using mt follows.running
  have alive : s.alive = false → s'.alive = false := by simpa using mt follows.alive
  unfold Barred at h
  cases turns with
  | stays =>
    unfold Barred
    split at h <;> grind
  | answered a asking =>
    rw [asking] at h
    exact h.imp running fun gone => .inl (alive gone)
  | allowed a answered going =>
    rw [answered] at h
    rcases h with stopped | gone | failed
    · rw [stopped] at going
      cases going
    · exact .inl (alive gone)
    · exact .inr failed
  | holding a allowed living success =>
    rw [allowed] at h
    rcases h with gone | failed
    · rw [gone] at living
      cases living
    · rw [failed] at success
      cases success
  | ended => exact trivial

/-- A task that is about to store something is not barred. -/
theorem Barred.usesStore {t : Enrichment} (h : s.Barred t) : t.usesStore = false := by
  unfold Barred at h
  unfold Enrichment.usesStore
  split <;> simp_all

/-- A task that a cycle makes after the flag is cleared is barred. -/
theorem Makes.barred {t : Enrichment} (makes : s.Makes t) (follows : s.Follows s')
    (stopped : s.watch.monitor.running = false) : s'.Barred t := by
  have running : s'.watch.monitor.running = false := by simpa [stopped] using mt follows.running
  unfold Barred
  rw [makes.1]
  exact .inl running

/-- The monitor is stopped, and nothing will come of any task. -/
structure Quiet (s : Shift) : Prop where
  running : s.watch.monitor.running = false
  barred : ∀ t ∈ s.everyone, s.Barred t

namespace Quiet

/-- **Step.** A monitor that is quiet stays so, and no analysis is stored. -/
theorem step (h : s.Quiet) (follows : s.Follows s') :
    s'.Quiet ∧ ∀ p b, .analysed p b ∈ s'.deeds → .analysed p b ∈ s.deeds := by
  refine ⟨⟨by simpa [h.running] using mt follows.running, ?_⟩, ?_⟩
  · intro t' mem
    rcases follows.everyone mem with ⟨t, before, turns⟩ | makes
    · exact (h.barred t before).turns follows turns
    · exact makes.barred follows h.running
  · intro p b mem
    rcases follows.analysed p b mem with before | ⟨t, task, -, uses⟩
    · exact before
    · rw [(h.barred t task).usesStore] at uses
      cases uses

/-- **Runs.** -/
theorem run (h : s.Quiet) (events : List Event) :
    ∀ p b, .analysed p b ∈ (s.run events).deeds → .analysed p b ∈ s.deeds := by
  induction events generalizing s with
  | nil => exact fun _ _ => id
  | cons e events ih =>
    obtain ⟨quiet, none⟩ := h.step (.step s e)
    exact fun p b mem => none p b (ih quiet p b mem)

end Quiet

/-! ## Stops -/

/-- A cycle adds to what was done, and leaves a stop alone. -/
theorem advance_frame (lap : Lap) :
    (s.advance lap).stopping = s.stopping ∧ s.deeds ⊆ (s.advance lap).deeds := by
  unfold advance
  split
  case h_3 =>
    unfold sweep
    split <;> exact ⟨rfl, List.Subset.refl _⟩
  case h_5 =>
    unfold report
    split
    · exact ⟨rfl, List.Subset.refl _⟩
    · exact ⟨rfl, List.subset_cons_self _ _⟩
  case h_6 =>
    refine ⟨rfl, ?_⟩
    simp only [ask, goOn]
    split
    · exact List.subset_cons_self _ _
    · exact List.Subset.refl _
  all_goals exact ⟨rfl, List.Subset.refl _⟩

/-- What was done is never forgotten, and only a stop goes on with a stop. -/
theorem step_frame (s : Shift) (e : Event) :
    (e ≠ .stop → (s.step e).stopping = s.stopping) ∧ s.deeds ⊆ (s.step e).deeds := by
  cases e with
  | begin byLoop settings now r =>
    show (_ → (s.begin byLoop settings now r).stopping = _) ∧
      _ ⊆ (s.begin byLoop settings now r).deeds
    unfold begin
    split
    · exact ⟨fun _ => rfl, List.Subset.refl _⟩
    · split <;> exact ⟨fun _ => rfl, List.Subset.refl _⟩
  | advance =>
    cases here : s.lap with
    | none => simp [step, here]
    | some lap =>
      obtain ⟨stopping, deeds⟩ := s.advance_frame lap
      rw [show s.step .advance = s.advance lap by simp [step, here]]
      exact ⟨fun _ => stopping, deeds⟩
  | handle op handles =>
    show (_ → (s.handle op).stopping = _) ∧ _ ⊆ (s.handle op).deeds
    unfold handle
    split <;> exact ⟨fun _ => rfl, List.Subset.refl _⟩
  | drop => exact ⟨fun _ => rfl, List.Subset.refl _⟩
  | answer crew i a =>
    show (_ → (s.answer crew i a).stopping = _) ∧ _ ⊆ (s.answer crew i a).deeds
    unfold answer
    split <;> exact ⟨fun _ => rfl, List.Subset.refl _⟩
  | task crew now i =>
    show (_ → (s.task crew now i).stopping = _) ∧ _ ⊆ (s.task crew now i).deeds
    unfold task
    split
    · exact ⟨fun _ => rfl, List.Subset.refl _⟩
    · exact ⟨fun _ => rfl, List.subset_append_right _ _⟩
  | stop =>
    refine ⟨absurd rfl, ?_⟩
    show s.deeds ⊆ s.stop.deeds
    unfold stop
    split
    case h_3 => split <;> exact List.Subset.refl _
    case h_5 =>
      split
      · exact List.Subset.refl _
      · split <;> exact List.Subset.refl _
    all_goals exact List.Subset.refl _

/-- What a stop has achieved when it has come so far. -/
structure Halting (s : Shift) : Prop where
  cleared : s.stopping ≠ .no → s.watch.monitor.running = false
  waiting : s.stopping = .waiting → ∀ t ∈ s.watch.monitor.tasks, s.Barred t
  returned : s.stopping = .returned → ∀ t ∈ s.everyone, s.Barred t

namespace Halting

/-- Whatever else happens leaves it achieved. -/
theorem follows (h : s.Halting) (follows : s.Follows s') (same : s'.stopping = s.stopping) :
    s'.Halting := by
  have stopped (begun : s'.stopping ≠ .no) := h.cleared (same ▸ begun)
  refine ⟨?_, ?_, ?_⟩
  · exact fun begun => by simpa [stopped begun] using mt follows.running
  · intro waiting t' mem
    rcases follows.listed t' mem with ⟨t, before, turns⟩ | makes
    · exact (h.waiting (same ▸ waiting) t before).turns follows turns
    · exact makes.barred follows (stopped (by rw [waiting]; simp))
  · intro returned t' mem
    rcases follows.everyone mem with ⟨t, before, turns⟩ | makes
    · exact (h.returned (same ▸ returned) t before).turns follows turns
    · exact makes.barred follows (stopped (by rw [returned]; simp))

/-- A stop that goes on achieves what is said of its next step. -/
theorem stop (h : s.Halting) : s.stop.Halting := by
  have still {t : Enrichment} (barred : s.Barred t) : s.stop.Barred t := barred.turns .stop .stays
  cases stopping : s.stopping with
  | no | returned =>
    simp only [Shift.stop, stopping]
    exact ⟨fun _ => rfl, nofun, nofun⟩
  | cleared =>
    have running := h.cleared (by rw [stopping]; simp)
    simp only [Shift.stop, stopping]
    split
    · exact h
    · exact ⟨fun _ => running, nofun, nofun⟩
  | joined =>
    have running := h.cleared (by rw [stopping]; simp)
    simp only [Shift.stop, stopping]
    exact ⟨fun _ => running, fun _ t mem => absurd mem List.not_mem_nil, nofun⟩
  | waiting =>
    have running := h.cleared (by rw [stopping]; simp)
    have barred := h.waiting stopping
    cases leaving : s.watch.monitor.leaving with
    | nil =>
      simp only [Shift.stop, stopping, leaving]
      refine ⟨fun _ => running, nofun, ?_⟩
      intro _ t mem
      rw [everyone, Monitor.everyone, leaving, List.append_nil] at mem
      exact barred t mem
    | cons t others =>
      simp only [Shift.stop, stopping, leaving] at still ⊢
      split
      · next done =>
        rw [if_pos done] at still
        exact ⟨fun _ => running, fun _ u mem => still (barred u mem),
          fun other => by simp at other⟩
      · exact h

/-- **Step.** -/
theorem step (h : s.Halting) (e : Event) : (s.step e).Halting := by
  by_cases stops : e = .stop
  · subst stops
    exact h.stop
  · exact h.follows (.step s e) ((s.step_frame e).1 stops)

end Halting

end Shift

end HostWatch
