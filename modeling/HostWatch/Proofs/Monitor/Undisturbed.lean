import HostWatch.Proofs.Monitor.Tasks

/-!
# Steps that nothing comes between

As long as nothing comes between its steps, a cycle does what `Watch.cycleWith` does at once
(`run_cycle`), a task that is answered what `Watch.finish` does (`run_finish`), and a stop what
`Watch.stop` does (`run_stop`). The store must be held from outside the monitor or by nobody.
-/

namespace HostWatch

namespace Shift

variable {s s' : Shift}

theorem run_append (s : Shift) (events more : List Event) :
    s.run (events ++ more) = (s.run events).run more := List.foldl_append

/-- Nobody but those outside the monitor holds the store. -/
def Alone (s : Shift) : Prop := s.alive = s.watch.storeHeld

theorem alive_of_run (events : List Event) (living : (s.run events).alive = true) :
    s.alive = true := by
  induction events generalizing s with
  | nil => exact living
  | cons e events ih => exact (Follows.step s e).alive (ih living)

/-- Who was alone stays so when the store is not given up. -/
theorem Alone.of_alive (alone : s.Alone) (living : s'.alive = true → s.alive = true)
    (held : s'.watch.storeHeld = s.watch.storeHeld) : s'.Alone := by
  unfold Alone at alone ⊢
  rw [held, ← alone]
  cases alive : s.alive with
  | true =>
    rw [alone] at alive
    simp [Shift.alive, held, alive]
  | false => simpa [alive] using mt living

theorem Alone.of_run (alone : s.Alone) (events : List Event) (h : s.run events = s')
    (held : s'.watch.storeHeld = s.watch.storeHeld) : s'.Alone :=
  alone.of_alive (h ▸ alive_of_run events) held

theorem Alone.of_step (alone : s.Alone) {e : Event} (h : s.step e = s')
    (held : s'.watch.storeHeld = s.watch.storeHeld) : s'.Alone := alone.of_run [e] h held

/-! ## Cycles -/

/-- The cycle takes some steps. -/
def Advances (s s' : Shift) : Prop := ∃ n, s.run (List.replicate n .advance) = s'

theorem Advances.refl (s : Shift) : s.Advances s := ⟨0, rfl⟩

theorem Advances.step {s'' : Shift} (first : s.step .advance = s') (h : s'.Advances s'') :
    s.Advances s'' := by
  obtain ⟨n, rfl⟩ := h
  exact ⟨n + 1, first ▸ rfl⟩

theorem Advances.trans {s'' : Shift} (h : s.Advances s') (h' : s'.Advances s'') :
    s.Advances s'' := by
  obtain ⟨n, rfl⟩ := h
  obtain ⟨m, rfl⟩ := h'
  exact ⟨n + m, by rw [List.replicate_add, run_append]⟩

/-- A finding that had no alert is reported. -/
theorem advances_reporting (s : Shift) (lap : Lap) (f : Finding) (later : List Finding) :
    ∃ deeds, (s.goOn lap (.reporting f later)).Advances
      (goOn { s with watch := s.watch.report lap.settings lap.now f, deeds } lap
        (.seeking later)) := by
  have first : (s.goOn lap (.reporting f later)).step .advance =
      ({ s with lap := some { lap with stage := .reporting f later } } : Shift).report
        { lap with stage := .reporting f later } f later := rfl
  unfold report at first
  unfold Watch.report
  cases made : s.watch.store.createFresh s.watch.ids (f.toAlert lap.now) with
  | mk result after =>
    obtain ⟨store, ids⟩ := after
    simp only [made] at first
    cases result with
    | error e => exact ⟨s.deeds, .step first (.refl _)⟩
    | ok a =>
      let stored : Shift :=
        { s with watch := { s.watch with store, ids }, deeds := .raised a :: s.deeds }
      exact ⟨(stored.ask lap f a).deeds, .step first (.step rfl (.refl _))⟩

/-- A cycle raises the alerts for its findings. -/
theorem advances_seeking (s : Shift) (lap : Lap) (fs : List Finding) :
    ∃ deeds, (s.goOn lap (.seeking fs)).Advances
      (goOn { s with watch := s.watch.raiseAll lap.settings lap.now fs, deeds } lap
        (.seeking [])) := by
  induction fs generalizing s with
  | nil => exact ⟨s.deeds, .refl _⟩
  | cons f fs ih =>
    have first : (s.goOn lap (.seeking (f :: fs))).step .advance =
        s.goOn lap (if s.watch.hasRaised f then .seeking fs else .reporting f fs) := rfl
    rw [Watch.raiseAll, List.foldl_cons, Watch.raise]
    by_cases raised : s.watch.hasRaised f = true
    · rw [if_pos raised] at first ⊢
      obtain ⟨deeds, others⟩ := ih s
      exact ⟨deeds, .step first others⟩
    · rw [if_neg raised] at first ⊢
      obtain ⟨deeds, reported⟩ := s.advances_reporting lap f fs
      obtain ⟨deeds', others⟩ := ih { s with watch := s.watch.report lap.settings lap.now f, deeds }
      exact ⟨deeds', .step first (reported.trans others)⟩

/-- A cycle that holds the store deletes old alerts and publishes, and is over. -/
theorem advances_concluding (s : Shift) (lap : Lap) {w : Watch} (held : s.watch.storeHeld = true)
    (concludes : s.watch.conclude lap.settings lap.now lap.snapshot = .ok w) :
    (s.goOn lap (.seeking [])).Advances { s with watch := w, lap := none } := by
  have first : (s.goOn lap (.seeking [])).step .advance =
      (s.goOn lap (.seeking [])).sweep { lap with stage := .seeking [] } := rfl
  unfold sweep at first
  rw [Watch.conclude, if_pos held] at concludes
  cases swept : s.watch.sweep lap.settings lap.now with
  | error e => simp [swept, Except.map] at concludes
  | ok w' =>
    rw [swept] at concludes
    obtain rfl := Except.ok.inj concludes
    have swept' : (s.goOn lap (.seeking [])).watch.sweep lap.settings lap.now = .ok w' := swept
    simp only [swept'] at first
    exact .step first (.step rfl (.refl _))

/-- A cycle that begins forgets the tasks that have ended, and takes hold of the store if it is
still there. -/
theorem advances_entering (alone : s.Alone) (resting : s.lap = none) {byLoop : Bool}
    (looping : byLoop = true → s.watch.monitor.looping = true) (settings : Settings) {now : Int}
    {r : Readings} {m : Monitor} {snapshot : Snapshot}
    (measured : s.watch.monitor.measured now r = .ok (m, snapshot)) :
    (s.step (.begin byLoop settings now r)).Advances
      (goOn { s with watch.monitor := m.reap } { settings, now, snapshot, byLoop }
        (if s.watch.storeHeld then .seeking (evaluate snapshot settings.limits)
          else .publishing false)) := by
  let lap : Lap := { settings, now, snapshot, byLoop }
  have began : s.step (.begin byLoop settings now r) =
      goOn { s with watch.monitor := m } lap .reaping := by
    have free : ¬ (s.lap.isSome ∨ byLoop = true ∧ s.watch.monitor.looping = false) := by
      rintro (busy | ⟨inLoop, noLoop⟩)
      · simp [resting] at busy
      · simp [looping inLoop] at noLoop
    show s.begin byLoop settings now r = _
    unfold begin
    rw [if_neg free, measured]
    rfl
  let entering : Shift := goOn { s with watch.monitor := m.reap } lap .entering
  have reaps : (goOn { s with watch.monitor := m } lap .reaping).step .advance = entering := rfl
  have entered : entering.step .advance =
      goOn { s with watch.monitor := m.reap } lap
        (if entering.alive then .seeking (evaluate snapshot settings.limits)
          else .publishing false) := rfl
  rw [← began] at reaps
  -- nobody has taken hold of the store meanwhile
  have alive : entering.alive = s.watch.storeHeld :=
    alone.of_run [.begin byLoop settings now r, .advance] reaps rfl
  rw [alive] at entered
  exact .step reaps (.step entered (.refl _))

/-- **Cycles.** A cycle that completes is what its steps make of the monitor, whether a caller or
the loop runs it. -/
theorem run_cycle (alone : s.Alone) (resting : s.lap = none) {byLoop : Bool}
    (looping : byLoop = true → s.watch.monitor.looping = true) {settings : Settings} {now : Int}
    {r : Readings} {w : Watch} (completes : s.watch.cycleWith settings now r = .ok w) :
    ∃ deeds, (s.step (.begin byLoop settings now r)).Advances { s with watch := w, deeds } := by
  unfold Watch.cycleWith at completes
  cases measured : s.watch.monitor.measured now r with
  | error e => simp [measured] at completes
  | ok result =>
    obtain ⟨m, snapshot⟩ := result
    simp only [measured] at completes
    let lap : Lap := { settings, now, snapshot, byLoop }
    let reaped : Watch := { s.watch with monitor := m.reap }
    have entered := advances_entering alone resting looping settings measured
    cases held : s.watch.storeHeld with
    | true =>
      rw [held, if_pos rfl] at entered
      let raising := reaped.raiseAll settings now (evaluate snapshot settings.limits)
      have stillHeld : raising.storeHeld = true :=
        (Watch.keeps_raiseAll settings now reaped _).storeHeld.trans held
      have findings : reaped.findings settings snapshot = evaluate snapshot settings.limits :=
        if_pos held
      rw [findings] at completes
      obtain ⟨deeds, raised⟩ :=
        advances_seeking { s with watch := reaped } lap (evaluate snapshot settings.limits)
      have ended := advances_concluding { s with watch := raising, deeds } lap stillHeld completes
      rw [← resting] at ended
      exact ⟨deeds, entered.trans (raised.trans ended)⟩
    | false =>
      rw [held, if_neg Bool.false_ne_true] at entered
      have notHeld : reaped.storeHeld = false := held
      have findings : reaped.findings settings snapshot = [] := if_neg (by simp [notHeld])
      rw [findings] at completes
      have published : reaped.publish snapshot = w := by
        have completes : reaped.conclude settings now snapshot = .ok w := completes
        simpa [Watch.conclude, notHeld] using completes
      have ended : (goOn { s with watch := reaped } lap (.publishing false)).step .advance =
          { s with watch := reaped.publish snapshot, lap := none } := rfl
      rw [← resting, published] at ended
      exact ⟨s.deeds, entered.trans (.step ended (.refl _))⟩

end Shift

/-! ## Tasks -/

namespace Monitor

variable {m : Monitor} {crew : Crew} {tasks others : List Enrichment}

@[simp] theorem crew_withCrew : (m.withCrew crew tasks).crew crew = tasks := by cases crew <;> rfl

@[simp] theorem withCrew_withCrew :
    (m.withCrew crew tasks).withCrew crew others = m.withCrew crew others := by cases crew <;> rfl

@[simp] theorem running_withCrew : (m.withCrew crew tasks).running = m.running := by
  cases crew <;> rfl

end Monitor

namespace Watch

/-- A task looks at nothing in the monitor but its flag, and changes nothing there. -/
theorem stepTask_withMonitor {w : Watch} {m : Monitor} (same : m.running = w.monitor.running)
    (now : Int) (t : Enrichment) :
    ({ w with monitor := m } : Watch).stepTask now t =
      ((w.stepTask now t).1, { (w.stepTask now t).2 with monitor := m }) := by
  unfold stepTask
  split
  all_goals simp [same]

theorem stepTask_frame (now : Int) (w : Watch) (t : Enrichment) :
    (w.stepTask now t).2.monitor = w.monitor ∧ (w.stepTask now t).2.storeHeld = w.storeHeld := by
  unfold stepTask
  split <;> exact ⟨rfl, rfl⟩

theorem settle_withMonitor {w : Watch} {m : Monitor} (same : m.running = w.monitor.running)
    (now : Int) (a : Answer) (t : Enrichment) :
    ({ w with monitor := m } : Watch).settle now a t =
      ((w.settle now a t).1, { (w.settle now a t).2 with monitor := m }) := by
  have frame (w : Watch) (t : Enrichment) := (w.stepTask_frame now t).1
  simp [settle, stepTask_withMonitor, frame, same]

theorem settle_frame (now : Int) (a : Answer) (w : Watch) (t : Enrichment) :
    (w.settle now a t).2.monitor = w.monitor ∧ (w.settle now a t).2.storeHeld = w.storeHeld := by
  simp [settle, (stepTask_frame now _ _).1, (stepTask_frame now _ _).2]

/-- A task that is answered comes to its end. -/
theorem isDone_settle (now : Int) (a : Answer) (w : Watch) (t : Enrichment) :
    (w.settle now a t).1.IsDone := by
  unfold Enrichment.IsDone settle Enrichment.answer
  cases phase : t.phase with
  | asking =>
    cases running : w.monitor.running <;> cases held : w.storeHeld && a.success
    all_goals simp [stepTask, running, held]
  | answered b =>
    cases running : w.monitor.running <;> cases held : w.storeHeld && b.success
    all_goals simp [stepTask, phase, running, held]
  | allowed b =>
    cases held : w.storeHeld && b.success
    all_goals simp [stepTask, phase, held]
  | holding text => simp [stepTask, phase]
  | done => simp [stepTask, phase]

theorem settleAll_frame (now : Int) (a : Answer) (w : Watch) (ts : List Enrichment) :
    (ts.foldl (fun w t => (w.settle now a t).2) w).monitor = w.monitor := by
  induction ts generalizing w with
  | nil => rfl
  | cons t ts ih => exact (ih _).trans (w.settle_frame now a t).1

theorem settleAll_withMonitor {w : Watch} {m : Monitor} (same : m.running = w.monitor.running)
    (now : Int) (a : Answer) (ts : List Enrichment) :
    ts.foldl (fun w t => (w.settle now a t).2) { w with monitor := m } =
      { ts.foldl (fun w t => (w.settle now a t).2) w with monitor := m } := by
  induction ts generalizing w with
  | nil => rfl
  | cons t ts ih =>
    rw [List.foldl_cons, List.foldl_cons, settle_withMonitor same]
    exact ih (by rw [(w.settle_frame now a t).1, same])

theorem join_nil {w : Watch} (none : w.monitor.leaving = []) (now : Int) (a : Answer) :
    w.join now a = w := by
  unfold join
  rw [none, List.foldl_nil, ← none]

/-- A stop waits for one task after another. -/
theorem join_cons {w : Watch} {t : Enrichment} {others : List Enrichment}
    (here : w.monitor.leaving = t :: others) (now : Int) (a : Answer) :
    w.join now a =
      ({ (w.settle now a t).2 with
        monitor := { w.monitor with leaving := others } } : Watch).join now a := by
  have frame := (w.settle_frame now a t).1
  unfold join
  rw [here, List.foldl_cons]
  simp only
  rw [settleAll_withMonitor (w := (w.settle now a t).2)
    (m := { w.monitor with leaving := others }) (by rw [frame])]
  simp [settleAll_frame, frame]

end Watch

namespace Shift

variable {s : Shift} {crew : Crew} {i : Nat} {t : Enrichment}

/-- The steps of a task from its answer to its end. -/
def settling (crew : Crew) (now : Int) (i : Nat) (a : Answer) : List Event :=
  [.answer crew i a, .task crew now i, .task crew now i, .task crew now i]

/-- The next step of a task that has just taken one. -/
theorem step_turned (alone : (s.turned crew i t).Alone)
    (here : i < (s.watch.monitor.crew crew).length) (now : Int) :
    ∃ deeds, (s.turned crew i t).step (.task crew now i) =
      turned { s with watch := (s.watch.stepTask now t).2, deeds } crew i
        (s.watch.stepTask now t).1 := by
  have found : ((s.turned crew i t).watch.monitor.crew crew)[i]? = some t := by
    simp [turned, here]
  have alive : (s.turned crew i t).alive = s.watch.storeHeld := alone
  obtain ⟨monitor, storeHeld⟩ := s.watch.stepTask_frame now t
  refine ⟨deedsOf now t (s.turned crew i t).watch ++ s.deeds, ?_⟩
  show (s.turned crew i t).task crew now i = _
  unfold task
  rw [found, alive]
  simp only [turned]
  rw [Watch.stepTask_withMonitor Monitor.running_withCrew]
  simp [monitor, storeHeld]

/-- **Tasks.** A task that the backend answers goes on to its end as `Watch.settle` has it. -/
theorem run_settling (alone : s.Alone) (here : (s.watch.monitor.crew crew)[i]? = some t)
    (now : Int) (a : Answer) :
    ∃ deeds, s.run (settling crew now i a) =
      turned { s with watch := (s.watch.settle now a t).2, deeds } crew i
        (s.watch.settle now a t).1 := by
  obtain ⟨i_lt, -⟩ := List.getElem?_eq_some_iff.1 here
  have answered : s.step (.answer crew i a) = s.turned crew i (t.answer a) := by
    simp only [step, answer, here]
  have alone₀ := alone.of_step answered rfl
  obtain ⟨deeds₁, first⟩ := step_turned alone₀ i_lt now
  have frame₁ := s.watch.stepTask_frame now (t.answer a)
  have alone₁ := alone₀.of_step first frame₁.2
  obtain ⟨deeds₂, second⟩ := step_turned alone₁ (frame₁.1 ▸ i_lt) now
  have frame₂ := (s.watch.stepTask now (t.answer a)).2.stepTask_frame now
    (s.watch.stepTask now (t.answer a)).1
  have alone₂ := alone₁.of_step second frame₂.2
  obtain ⟨deeds₃, third⟩ := step_turned alone₂ ((frame₂.1.trans frame₁.1) ▸ i_lt) now
  refine ⟨deeds₃, ?_⟩
  rw [settling, run, List.foldl_cons, answered, List.foldl_cons, first, List.foldl_cons, second,
    List.foldl_cons, third]
  rfl

/-- So does a task in the list of the monitor, as `Watch.finish` has it. -/
theorem run_finish (alone : s.Alone) (now : Int) (i : Nat) (a : Answer) :
    ∃ deeds, s.run (settling .listed now i a) =
      { s with watch := s.watch.finish now i a, deeds } := by
  unfold Watch.finish
  cases here : s.watch.monitor.tasks[i]? with
  | none => exact ⟨s.deeds, by simp [settling, run, step, answer, task, Monitor.crew, here]⟩
  | some t =>
    have listed : (s.watch.monitor.crew .listed)[i]? = some t := here
    obtain ⟨deeds, settled⟩ := run_settling alone listed now a
    exact ⟨deeds, settled⟩

/-! ## Stops -/

/-- While a stop waits, each task it waits for is answered and goes on to its end. -/
def leaving (now : Int) (a : Answer) (tasks : Nat) : List Event :=
  (List.replicate tasks (settling .leaving now 0 a ++ [.stop])).flatten

/-- The first task that a stop waits for goes on to its end, and is not waited for any more. -/
theorem run_leaving_head (alone : s.Alone) (waiting : s.stopping = .waiting)
    {others : List Enrichment} (here : s.watch.monitor.leaving = t :: others) (now : Int)
    (a : Answer) :
    ∃ deeds, s.run (settling .leaving now 0 a ++ [.stop]) =
      { s with
        watch := { (s.watch.settle now a t).2 with
          monitor := { s.watch.monitor with leaving := others } }
        deeds } := by
  have head : (s.watch.monitor.crew .leaving)[0]? = some t := by simp [Monitor.crew, here]
  obtain ⟨deeds, settled⟩ := run_settling alone head now a
  have done := s.watch.isDone_settle now a t
  have monitor := (s.watch.settle_frame now a t).1
  refine ⟨deeds, ?_⟩
  rw [run_append, settled]
  show Shift.stop _ = _
  unfold Shift.stop
  simp [turned, waiting, Monitor.withCrew, Monitor.crew, here, monitor, done]

/-- So are all of them. -/
theorem run_leaving (alone : s.Alone) (waiting : s.stopping = .waiting) (now : Int) (a : Answer) :
    ∃ deeds, s.run (leaving now a s.watch.monitor.leaving.length) =
      { s with watch := s.watch.join now a, deeds } := by
  generalize tasks : s.watch.monitor.leaving = waitedFor
  induction waitedFor generalizing s with
  | nil =>
    refine ⟨s.deeds, ?_⟩
    rw [Watch.join_nil tasks]
    rfl
  | cons t others ih =>
    obtain ⟨deeds, first⟩ := run_leaving_head alone waiting tasks now a
    have held := (s.watch.settle_frame now a t).2
    have alone' := alone.of_run _ first held
    obtain ⟨deeds', later⟩ := ih alone' waiting rfl
    refine ⟨deeds', ?_⟩
    rw [List.length_cons, leaving, List.replicate_succ, List.flatten_cons, run_append, first]
    rw [Watch.join_cons tasks]
    exact later

/-- The steps of a stop that waits for so many tasks. -/
def stopSteps (now : Int) (a : Answer) (tasks : Nat) : List Event :=
  [.stop, .stop, .stop] ++ (leaving now a tasks ++ [.stop])

/-- **Stops.** A stop that finds no cycle of the loop under way, and whose tasks are answered one
after another, is what `Watch.stop` does at once. -/
theorem run_stop (alone : s.Alone) (begins : s.stopping = .no ∨ s.stopping = .returned)
    (between : s.lap.any (·.byLoop) = false) (now : Int) (a : Answer) :
    ∃ deeds, s.run (stopSteps now a
        (s.watch.monitor.leaving.length + s.watch.monitor.tasks.length)) =
      { s with watch := s.watch.stop now a, stopping := .returned, deeds } := by
  let waiting : Shift := { s with watch := s.watch.clearRunning.leaveTasks, stopping := .waiting }
  have first : s.run [.stop] = { s with watch := s.watch.clearRunning, stopping := .cleared } := by
    show s.stop = _
    rcases begins with no | returned
    · simp [stop, no]
    · simp [stop, returned]
  have begun : s.run [.stop, .stop, .stop] = waiting := by
    rw [show [.stop, .stop, .stop] = [Event.stop] ++ [.stop, .stop] from rfl, run_append, first]
    simp [run, step, stop, between, waiting, Watch.leaveTasks]
  obtain ⟨deeds, left⟩ := run_leaving (alone.of_run _ begun rfl) rfl now a
  refine ⟨deeds, ?_⟩
  have taken : waiting.watch.monitor.leaving.length =
      s.watch.monitor.leaving.length + s.watch.monitor.tasks.length := List.length_append
  rw [stopSteps, run_append, begun, run_append, ← taken, left]
  rfl

end Shift

end HostWatch
