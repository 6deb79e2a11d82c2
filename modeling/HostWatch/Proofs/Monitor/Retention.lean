import HostWatch.Proofs.Monitor.Patrol

/-!
# Alerts that are deleted

`alerts_leave_by_retention`: an alert leaves the store only at the end of a cycle that sweeps, and
only if it was dismissed before the cutoff of that cycle; and after the sweep no such alert is left.

1. Of all operations on a store a purge alone takes ids away (`Holds.ids_spared`).
2. Apart from the end of a cycle, all that a monitor does is storing alerts (`Watch.Follows`), so
   a moment goes on, begins a cycle, concludes one or starts the process anew (`passage`).
3. Each moment keeps the store in order and the cycle numbered (`Steady.pass`), and takes away no
   other ids than those that a sweep deletes (`Steady.swept_of_left`).
4. An id that is gone after many moments was taken away at one of them (`exists_left`).
-/

namespace HostWatch

open Store (Op)

/-! ## Deleting rows -/

/-- Reading each of a list gives as many results. -/
theorem length_of_mapM_ok {f : α → Except ε β} {l : List α} {results : List β}
    (h : l.mapM f = .ok results) : results.length = l.length := by
  induction l generalizing results with
  | nil =>
    cases h
    rfl
  | cons a l ih =>
    rw [List.mapM_cons] at h
    cases first : f a with
    | error e =>
      rw [first] at h
      cases h
    | ok b =>
      cases rest : l.mapM f with
      | error e =>
        rw [first, rest] at h
        cases h
      | ok bs =>
        rw [first, rest] at h
        cases h
        rw [List.length_cons, List.length_cons, ih rest]

namespace Store

/-- A purge says how many rows it removes. -/
theorem length_purge (s : Store) (cutoff : Int) :
    (s.purgeDismissedBefore cutoff).1 + (s.purgeDismissedBefore cutoff).2.rows.length =
      s.rows.length := by
  unfold purgeDismissedBefore
  cases table : s.table with
  | none => exact Nat.zero_add _
  | some rows =>
    have all : s.rows = rows := by rw [Store.rows, table, Option.getD_some]
    dsimp only
    cases parsed : (rows.filter fun r => decide (r.DismissedBefore cutoff)).mapM
        fun r => Severity.parse r.severity with
    | error e => exact Nat.zero_add _
    | ok severities =>
      have number := length_of_mapM_ok parsed
      have splits := List.length_eq_length_filter_add (l := rows)
        fun r => decide (r.DismissedBefore cutoff)
      show severities.length + (rows.filter fun r => !decide (r.DismissedBefore cutoff)).length = _
      rw [all, number]
      exact splits.symm

/-- A purge leaves the rows that were not dismissed before the cutoff. -/
theorem Holds.rows_purge {s : Store} {alerts : List Alert} (h : s.Holds alerts) (cutoff : Int) :
    (s.purgeDismissedBefore cutoff).2.rows =
      s.rows.filter fun r => !decide (r.DismissedBefore cutoff) := by
  rw [h.purge_eq, h.rows_eq, List.filter_map]
  simp only [Function.comp_def, Row.dismissedBefore_ofAlert]
  rfl

/-! ## Ids -/

/-- The operation deletes nothing. -/
def Op.Spares : Op → Prop
  | .purgeDismissedBefore _ => False
  | _ => True

instance : DecidablePred Op.Spares := fun op =>
  match op with
  | .purgeDismissedBefore _ => isFalse id
  | .create .. | .acknowledge .. | .acknowledgeAll _ | .dismiss .. | .dismissAll _ | .reopen =>
    isTrue trivial

/-- An operation that deletes nothing leaves every id in the store. -/
theorem Holds.ids_spared {s : Store} {alerts : List Alert} (h : s.Holds alerts) {op : Op}
    (spares : op.Spares) : s.ids ⊆ (op.apply s).ids := by
  rw [h.ids_eq, (h.apply op).ids_eq]
  intro id hid
  obtain ⟨a, ha, rfl⟩ := List.mem_map.1 hid
  have stays {b : Alert} (fate : op.fate a = some b) :
      a.id ∈ (op.after alerts).map (·.id) := by
    rw [← Op.id_of_fate fate]
    exact List.mem_map_of_mem
      (List.mem_append_left _ (List.mem_filterMap.2 ⟨a, ha, fate⟩))
  rcases op.fate_cases a with fate | ⟨b, fate, _⟩ | ⟨_, cutoff, rfl, _⟩
  · exact stays fate
  · exact stays fate
  · exact spares.elim

theorem Holds.ids_run {s : Store} {alerts : List Alert} (h : s.Holds alerts) {ops : List Op}
    (spare : ∀ op ∈ ops, op.Spares) : s.ids ⊆ (s.run ops).ids := by
  induction ops generalizing s alerts with
  | nil => exact fun id hid => hid
  | cons op ops ih =>
    intro id hid
    refine ih (h.apply op) (fun o ho => spare o (List.mem_cons_of_mem _ ho)) ?_
    exact h.ids_spared (spare op List.mem_cons_self) hid

theorem createFresh_store (s : Store) (ids : IdSupply) (a : Alert) :
    (s.createFresh ids a).2.1 = (Op.create ids.next a).apply s := by
  show _ = (s.create ids.next a).2
  unfold createFresh
  split
  · next created => rw [created]
  · next refused => rw [refused]

end Store

/-! ## What a monitor does to the store -/

namespace Watch

/-- Between the two nothing was deleted, and the same cycle counts. -/
structure Follows (w w' : Watch) : Prop where
  keeps : w.Keeps w'
  spared : ∃ ops : List Op, (∀ op ∈ ops, op.Spares) ∧ w'.store = w.store.run ops

theorem Follows.trans {w₁ w₂ w₃ : Watch} (h : w₁.Follows w₂) (h' : w₂.Follows w₃) :
    w₁.Follows w₃ where
  keeps := h.keeps.trans h'.keeps
  spared := by
    obtain ⟨ops, spare, store⟩ := h.spared
    obtain ⟨more, spare', store'⟩ := h'.spared
    refine ⟨ops ++ more, fun op hop => ?_, ?_⟩
    · rcases List.mem_append.1 hop with hop | hop
      · exact spare op hop
      · exact spare' op hop
    · rw [store', store, Store.run_append]

/-- Where only the rest of the monitor changes, the store does not. -/
theorem Follows.of_keeps {w w' : Watch} (keeps : w.Keeps w') (store : w'.store = w.store) :
    w.Follows w' := ⟨keeps, [], fun _ h => absurd h List.not_mem_nil, store⟩

theorem Follows.refl (w : Watch) : w.Follows w := .of_keeps (.refl w) rfl

theorem Follows.of_op {w w' : Watch} (keeps : w.Keeps w') (op : Op) (spares : op.Spares)
    (store : w'.store = op.apply w.store) : w.Follows w' :=
  ⟨keeps, [op], fun _ h => List.mem_singleton.1 h ▸ spares, store⟩

theorem follows_report (settings : Settings) (now : Int) (w : Watch) (f : Finding) :
    w.Follows (w.report settings now f) := by
  refine .of_op (keeps_report settings now w f) (.create w.ids.next (f.toAlert now)) trivial ?_
  rw [(report_store w settings now f).1, Store.createFresh_store]

theorem follows_stepTask (now : Int) (w : Watch) (t : Enrichment) :
    w.Follows (w.stepTask now t).2 := by
  unfold stepTask
  split
  · exact .refl w
  · exact .refl w
  · next text _ =>
    exact .of_op ⟨rfl, rfl, rfl, Store.name_createFresh _ _ _⟩
      (.create w.ids.next (analysisOf now t.parent text)) trivial (Store.createFresh_store _ _ _)
  · exact .refl w

theorem follows_settle (now : Int) (a : Answer) (w : Watch) (t : Enrichment) :
    w.Follows (w.settle now a t).2 :=
  ((follows_stepTask now w _).trans (follows_stepTask now _ _)).trans (follows_stepTask now _ _)

theorem follows_settleAll (now : Int) (a : Answer) (w : Watch) (tasks : List Enrichment) :
    w.Follows (tasks.foldl (fun w t => (w.settle now a t).2) w) := by
  induction tasks generalizing w with
  | nil => exact .refl w
  | cons t tasks ih => exact (follows_settle now a w t).trans (ih _)

theorem follows_stop (now : Int) (a : Answer) (w : Watch) : w.Follows (w.stop now a) := by
  have left : w.Follows w.clearRunning.leaveTasks := .of_keeps ⟨rfl, rfl, rfl, rfl⟩ rfl
  have settled := follows_settleAll now a w.clearRunning.leaveTasks
    w.clearRunning.leaveTasks.monitor.leaving
  exact (left.trans settled).trans (.of_keeps ⟨rfl, rfl, rfl, rfl⟩ rfl)

theorem follows_task (now : Int) (i : Nat) (w : Watch) : w.Follows (Patrol.task now i w) := by
  unfold Patrol.task
  split
  · exact .refl w
  · next t _ =>
    exact (follows_stepTask now w t).trans (.of_keeps ⟨rfl, rfl, rfl, rfl⟩ rfl)

/-- The snapshot of a cycle bears its number. -/
theorem cycle_of_measured {m m' : Monitor} {now : Int} {r : Readings} {s : Snapshot}
    (h : m.measured now r = .ok (m', s)) : s.cycle = m'.cycles := by
  obtain ⟨rfl, rfl⟩ := Monitor.eq_of_measured h
  rfl

/-- The end of a cycle whose cutoff is in range purges what its sweep deletes, and no more. -/
theorem conclude_sweeps {settings : Settings} {now : Int} (s : Snapshot) {w : Watch}
    (held : w.storeHeld = true) (range : InRange settings now w.monitor.cycles) :
    ∃ w', w.conclude settings now s = .ok w' ∧ w.Keeps w' ∧
      w'.store =
        if SweepDue settings w.monitor.cycles then
          (w.store.purgeDismissedBefore (cutoff settings now)).2
        else w.store := by
  unfold conclude
  rw [if_pos held, sweep_eq]
  by_cases due : SweepDue settings w.monitor.cycles
  · rw [if_pos due, if_pos (range due), if_pos due]
    exact ⟨_, rfl, ⟨rfl, rfl, rfl, rfl⟩, rfl⟩
  · rw [if_neg due, if_neg due]
    exact ⟨_, rfl, ⟨rfl, rfl, rfl, rfl⟩, rfl⟩

end Watch

/-- The cycle has looked up and reported all that it found. -/
def Round.IsSettled (round : Round) : Prop := round.unmatched = none ∧ round.pending = []

namespace Patrol

/-! ## Moments -/

/-- What passes while a monitor is at work. -/
inductive Moment where
  | event (e : Event)
  /-- The clock goes on for the cycle under way. -/
  | tick (now : Int)

/-- Nobody but a cycle deletes anything at the moment. -/
def Moment.Spares : Moment → Prop
  | .event (.handle op _) => op.Spares
  | _ => True

instance : DecidablePred Moment.Spares := fun m => by
  unfold Moment.Spares; split <;> infer_instance

/-- The patrol after a moment. -/
def pass (p : Patrol) : Moment → Patrol
  | .event e => p.step e
  | .tick now => { p with round := p.round.map fun round => { round with now } }

/-- The patrol after moments one after another. -/
def live (p : Patrol) (moments : List Moment) : Patrol := moments.foldl pass p

/-- The cycle that is under way afterwards, if any, was under way before. -/
def SameCycle (p q : Patrol) : Prop :=
  ∀ round ∈ q.round, ∃ before ∈ p.round, round.snapshot = before.snapshot

/-- What a moment is to the cycles of a patrol. -/
inductive Passage (p : Patrol) (m : Moment) (q : Patrol) : Prop where
  | goes (follows : p.watch.Follows q.watch) (same : SameCycle p q)
  | begins (free : p.round = none) (store : q.watch.store = p.watch.store)
      (held : q.watch.storeHeld = p.watch.storeHeld)
      (cycles : q.watch.monitor.cycles = p.watch.monitor.cycles + 1)
      (bears : ∀ round ∈ q.round, round.snapshot.cycle = q.watch.monitor.cycles)
  | concludes (round : Round) (moment : m = .event .conclude) (under : round ∈ p.round)
      (settled : round.IsSettled) (after : q = conclude p.watch round)
  | restarts (store : q.watch.store = p.watch.store.reopen) (held : q.watch.storeHeld = true)
      (ended : q.round = none)

theorem SameCycle.refl (p : Patrol) : SameCycle p p := fun round h => ⟨round, h, rfl⟩

/-- Nothing follows where there is nothing to do. -/
theorem Passage.idle (p : Patrol) (m : Moment) : Passage p m p :=
  .goes (.refl _) (.refl _)

theorem passage_begin (p : Patrol) (m : Moment) (free : p.round = none) (settings : Settings)
    (now : Int) (r : Readings) : Passage p m (begin settings now r p.watch) := by
  unfold begin
  split
  · exact .goes (.refl _) fun round h => absurd h (Option.not_mem_none _)
  · next monitor s measured =>
    have cycles : monitor.cycles = p.watch.monitor.cycles + 1 :=
      Monitor.cycles_of_measured measured
    refine .begins free rfl rfl cycles fun round h => ?_
    obtain rfl := Option.some.inj h
    show s.cycle = monitor.cycles
    exact Watch.cycle_of_measured measured

/-- The steps of the cycle under way. -/
theorem passage_elim {p : Patrol} {m : Moment} {f : Watch → Round → Patrol}
    (hf : ∀ round ∈ p.round, Passage p m (f p.watch round)) :
    Passage p m (p.round.elim p (f p.watch)) := by
  cases under : p.round with
  | none => exact .idle p m
  | some round => exact hf round under

theorem passage_lookUp {p : Patrol} {m : Moment} {round : Round} (under : round ∈ p.round) :
    Passage p m (lookUp p.watch round) := by
  have same {round' : Round} (h : round'.snapshot = round.snapshot) :
      SameCycle p { watch := p.watch, round := some round' } := by
    intro round'' hround
    obtain rfl := Option.some.inj hround
    exact ⟨round, under, h⟩
  unfold lookUp
  split
  · exact .goes (.refl _) (same rfl)
  · exact .goes (.refl _) (same rfl)

theorem passage_report {p : Patrol} {m : Moment} {round : Round} (under : round ∈ p.round) :
    Passage p m (report p.watch round) := by
  unfold report
  split
  · refine .goes (.refl _) fun round' hround => ?_
    obtain rfl := Option.some.inj hround
    exact ⟨round, under, rfl⟩
  · next f _ =>
    refine .goes (Watch.follows_report round.settings round.now p.watch f) fun round' hround => ?_
    obtain rfl := Option.some.inj hround
    exact ⟨round, under, rfl⟩

theorem passage_conclude {p : Patrol} {round : Round} (under : round ∈ p.round) :
    Passage p (.event .conclude) (conclude p.watch round) := by
  by_cases settled : round.IsSettled
  · exact .concludes round rfl under settled rfl
  · unfold conclude
    split
    · next unmatched pending => exact absurd ⟨unmatched, pending⟩ settled
    · refine .goes (.refl _) fun round' hround => ?_
      obtain rfl := Option.some.inj hround
      exact ⟨round, under, rfl⟩

/-- **Moments.** At a moment the patrol goes on without deleting anything, a cycle begins or
concludes, or another process takes over. -/
theorem passage (p : Patrol) {m : Moment} (spares : m.Spares) : Passage p m (p.pass m) := by
  cases m with
  | tick now =>
    refine .goes (.refl _) fun round h => ?_
    obtain ⟨before, under, rfl⟩ := Option.map_eq_some_iff.1 h
    exact ⟨before, under, rfl⟩
  | event e =>
    cases e with
    | begin settings now r =>
      show Passage p _ (if p.round.isSome then p else begin settings now r p.watch)
      by_cases busy : p.round.isSome = true
      · rw [if_pos busy]
        exact .idle p _
      · rw [if_neg busy]
        exact passage_begin p _ (by simpa using busy) settings now r
    | lookUp => exact passage_elim fun round under => passage_lookUp under
    | report => exact passage_elim fun round under => passage_report under
    | conclude => exact passage_elim fun round under => passage_conclude under
    | handle op _ => exact .goes (.of_op ⟨rfl, rfl, rfl, rfl⟩ op spares rfl) (.refl p)
    | answer i a => exact .goes (.of_keeps ⟨rfl, rfl, rfl, rfl⟩ rfl) (.refl p)
    | task now i => exact .goes (Watch.follows_task now i p.watch) (.refl p)
    | stop now a => exact .goes (Watch.follows_stop now a p.watch) (.refl p)
    | restart hasBackend => exact .restarts rfl rfl rfl

/-! ## Steady patrols -/

/-- A cycle that begins bears the next number. -/
theorem cycle_of_begun {p : Patrol} {m : Moment} (spares : m.Spares) (free : p.round = none)
    {round : Round} (under : round ∈ (p.pass m).round) :
    round.snapshot.cycle = p.watch.monitor.cycles + 1 := by
  cases p.passage spares with
  | goes _ same =>
    obtain ⟨before, under', _⟩ := same round under
    rw [free] at under'
    cases under'
  | begins _ _ _ cycles bears => rw [bears round under, cycles]
  | concludes round' _ under' _ _ =>
    rw [free] at under'
    cases under'
  | restarts _ _ ended =>
    rw [ended] at under
    cases under

/-- The store is held and holds alerts, and the cycle under way bears the number that the monitor
has come to. -/
structure Steady (p : Patrol) : Prop where
  holds : ∃ alerts, p.watch.store.Holds alerts
  held : p.watch.storeHeld = true
  numbered : ∀ round ∈ p.round, round.snapshot.cycle = p.watch.monitor.cycles

theorem steady_resting {w : Watch} (holds : ∃ alerts, w.store.Holds alerts)
    (held : w.storeHeld = true) : Steady { watch := w } :=
  ⟨holds, held, fun _ h => absurd h (Option.not_mem_none _)⟩

namespace Steady

variable {p : Patrol} (h : p.Steady)

include h

/-- The end of a cycle leaves the rows that its sweep does not delete. -/
theorem conclude {round : Round} (under : round ∈ p.round) (settled : round.IsSettled) :
    (conclude p.watch round).Steady ∧ (conclude p.watch round).round = none ∧
      (conclude p.watch round).watch.store.rows =
        Watch.unswept round.settings round.now round.snapshot.cycle p.watch.store.rows := by
  obtain ⟨alerts, holds⟩ := h.holds
  have number := h.numbered round under
  obtain ⟨settings, now, snapshot, _, _⟩ := round
  obtain ⟨rfl, rfl⟩ := settled
  change snapshot.cycle = p.watch.monitor.cycles at number
  show Steady (Patrol.conclude p.watch { settings, now, snapshot, pending := [] }) ∧ _ ∧
    _ = Watch.unswept settings now snapshot.cycle _
  rw [number]
  by_cases range : Watch.InRange settings now p.watch.monitor.cycles
  · obtain ⟨w, concluded, keeps, store⟩ := Watch.conclude_sweeps snapshot h.held range
    rw [conclude_of_ok concluded]
    by_cases due : Watch.SweepDue settings p.watch.monitor.cycles
    · rw [if_pos due] at store
      have purged : ∃ alerts, w.store.Holds alerts := by
        rw [store]
        exact ⟨_, holds.apply (.purgeDismissedBefore _)⟩
      refine ⟨steady_resting purged (keeps.storeHeld.trans h.held), rfl, ?_⟩
      rw [store, holds.rows_purge]
      refine List.filter_congr fun r _ => ?_
      simp [Watch.Sweeps, due, range due]
    · rw [if_neg due] at store
      refine ⟨steady_resting ⟨alerts, store ▸ holds⟩ (keeps.storeHeld.trans h.held), rfl, ?_⟩
      rw [store, Watch.unswept_eq_self settings now _ fun swept => due swept.1]
  · rw [conclude_of_error (Watch.conclude_error h.held range)]
    refine ⟨steady_resting ⟨alerts, holds⟩ h.held, rfl, ?_⟩
    rw [Watch.unswept_eq_self settings now _ fun swept => range fun _ => swept.2]

/-- **Step.** A moment leaves the patrol steady. -/
theorem pass {m : Moment} (spares : m.Spares) : (p.pass m).Steady := by
  obtain ⟨alerts, holds⟩ := h.holds
  cases p.passage spares with
  | goes follows same =>
    obtain ⟨ops, _, store⟩ := follows.spared
    refine ⟨⟨_, store ▸ holds.run ops⟩, follows.keeps.storeHeld.trans h.held, fun round under => ?_⟩
    obtain ⟨before, under', snapshot⟩ := same round under
    rw [snapshot, h.numbered before under', follows.keeps.cycles]
  | begins free store held cycles bears =>
    exact ⟨⟨alerts, store ▸ holds⟩, held.trans h.held, bears⟩
  | concludes round moment under settled after =>
    rw [after]
    exact (h.conclude under settled).1
  | restarts store held ended =>
    rw [holds.reopen_eq] at store
    refine ⟨⟨alerts, store ▸ holds⟩, held, fun round under => ?_⟩
    rw [ended] at under
    cases under

/-- **Runs.** However much passes, the patrol stays steady. -/
theorem live {moments : List Moment} (spare : ∀ m ∈ moments, m.Spares) :
    (p.live moments).Steady := by
  induction moments generalizing p with
  | nil => exact h
  | cons m moments ih =>
    exact ih (h.pass (spare m List.mem_cons_self))
      fun m' hm => spare m' (List.mem_cons_of_mem _ hm)

/-- An id that is gone after a moment is that of a row that a sweep deleted. -/
theorem swept_of_left {m : Moment} (spares : m.Spares) {id : String}
    (stood : id ∈ p.watch.store.ids) (gone : id ∉ (p.pass m).watch.store.ids) :
    m = .event .conclude ∧ ∃ round ∈ p.round, ∃ r ∈ p.watch.store.rows, r.id = id ∧
      Watch.Sweeps round.settings round.now round.snapshot.cycle r := by
  obtain ⟨alerts, holds⟩ := h.holds
  cases p.passage spares with
  | goes follows _ =>
    obtain ⟨ops, spare, store⟩ := follows.spared
    rw [store] at gone
    exact absurd (holds.ids_run spare stood) gone
  | begins _ store _ _ _ =>
    rw [store] at gone
    exact absurd stood gone
  | concludes round moment under settled after =>
    obtain ⟨r, hr, rfl⟩ := List.mem_map.1 stood
    refine ⟨moment, round, under, r, hr, rfl, Decidable.byContradiction fun kept => gone ?_⟩
    rw [after, Store.ids, (h.conclude under settled).2.2]
    exact List.mem_map_of_mem (List.mem_filter.2 ⟨hr, by simpa using kept⟩)
  | restarts store _ _ =>
    rw [store, holds.reopen_eq] at gone
    exact absurd stood gone

end Steady

/-! ## All moments -/

theorem exists_left {f : Nat → Prop} {i j : Nat} (le : i ≤ j) (first : f i) (last : ¬ f j) :
    ∃ k, i ≤ k ∧ k < j ∧ f k ∧ ¬ f (k + 1) := by
  induction le with
  | refl => exact absurd first last
  | @step j le ih =>
    by_cases before : f j
    · exact ⟨j, le, Nat.lt_succ_self j, before, last⟩
    · obtain ⟨k, hi, hj, stood, gone⟩ := ih before
      exact ⟨k, hi, Nat.lt_succ_of_lt hj, stood, gone⟩

theorem live_take_succ (p : Patrol) {moments : List Moment} {k : Nat} {m : Moment}
    (h : moments[k]? = some m) :
    p.live (moments.take (k + 1)) = (p.live (moments.take k)).pass m := by
  unfold live
  rw [List.take_add_one, h, List.foldl_append]
  rfl

/-- After the last moment nothing changes any more. -/
theorem live_take_over (p : Patrol) {moments : List Moment} {k : Nat} (h : moments[k]? = none) :
    p.live (moments.take (k + 1)) = p.live (moments.take k) := by
  rw [List.take_add_one, h, Option.toList_none, List.append_nil]

/-- Where a cycle concludes. -/
theorem live_take_conclude {p : Patrol} {moments : List Moment} {k : Nat}
    (now : moments[k]? = some (.event .conclude)) {round : Round}
    (under : round ∈ (p.live (moments.take k)).round) :
    p.live (moments.take (k + 1)) = conclude (p.live (moments.take k)).watch round := by
  rw [live_take_succ p now]
  show (p.live (moments.take k)).round.elim _ (conclude (p.live (moments.take k)).watch) = _
  rw [Option.mem_def.1 under]
  rfl

/-- An id that leaves at one of many moments. -/
theorem Steady.swept_at {p : Patrol} (h : p.Steady) {moments : List Moment}
    (spare : ∀ m ∈ moments, m.Spares) {k : Nat} {id : String}
    (stood : id ∈ (p.live (moments.take k)).watch.store.ids)
    (gone : id ∉ (p.live (moments.take (k + 1))).watch.store.ids) :
    moments[k]? = some (.event .conclude) ∧ ∃ round ∈ (p.live (moments.take k)).round,
      ∃ r ∈ (p.live (moments.take k)).watch.store.rows, r.id = id ∧
        Watch.Sweeps round.settings round.now round.snapshot.cycle r := by
  have steady : (p.live (moments.take k)).Steady :=
    h.live fun m hm => spare m (List.mem_of_mem_take hm)
  cases now : moments[k]? with
  | none =>
    rw [live_take_over p now] at gone
    exact absurd stood gone
  | some m =>
    rw [live_take_succ p now] at gone
    obtain ⟨rfl, swept⟩ := steady.swept_of_left (spare m (List.mem_of_getElem? now)) stood gone
    exact ⟨rfl, swept⟩

/-- **Retention.** A monitor works on a store while clients acknowledge and dismiss alerts and
processes come and go, and nobody but its cycles deletes anything. Between any two moments an id
leaves the store only where a cycle concludes that sweeps the row with this id, which its clients
have dismissed before its cutoff; an open alert never leaves. A cycle that concludes leaves exactly
the rows that it does not sweep, so no older dismissal is left where a sweep is due and its cutoff
is a time. Cycles are numbered one after another. And a purge says how many rows it removes. -/
theorem alerts_leave_by_retention {w : Watch} (reachable : w.store.Reachable)
    (held : w.storeHeld = true) {moments : List Moment} (spare : ∀ m ∈ moments, m.Spares) :
    let p (k : Nat) := live { watch := w } (moments.take k)
    (∀ i j id, i ≤ j → id ∈ (p i).watch.store.ids → id ∉ (p j).watch.store.ids →
      ∃ k, i ≤ k ∧ k < j ∧ moments[k]? = some (.event .conclude) ∧
        id ∉ (p (k + 1)).watch.store.ids ∧
        ∃ round ∈ (p k).round, ∃ r ∈ (p k).watch.store.rows, r.id = id ∧
          Watch.Sweeps round.settings round.now round.snapshot.cycle r) ∧
    (∀ k, ∀ r ∈ (p k).watch.store.rows, r.NamesOpen → r.id ∈ (p (k + 1)).watch.store.ids) ∧
    (∀ k, moments[k]? = some (.event .conclude) → ∀ round ∈ (p k).round, round.IsSettled →
      (p (k + 1)).round = none ∧
      (p (k + 1)).watch.store.rows = Watch.unswept round.settings round.now
        round.snapshot.cycle (p k).watch.store.rows ∧
      (Watch.SweepDue round.settings round.snapshot.cycle →
        Watch.InRange round.settings round.now round.snapshot.cycle →
          ∀ r ∈ (p (k + 1)).watch.store.rows,
            ¬ r.DismissedBefore (Watch.cutoff round.settings round.now))) ∧
    (∀ k, (∀ round ∈ (p k).round, round.snapshot.cycle = (p k).watch.monitor.cycles) ∧
      ((p k).round = none → ∀ round ∈ (p (k + 1)).round,
        round.snapshot.cycle = (p k).watch.monitor.cycles + 1)) ∧
    ∀ (s : Store) cutoff,
      (s.purgeDismissedBefore cutoff).1 + (s.purgeDismissedBefore cutoff).2.rows.length =
        s.rows.length := by
  intro p
  obtain ⟨alerts, holds, _⟩ := reachable.holds
  have start : Steady { watch := w } := steady_resting ⟨alerts, holds⟩ held
  have steady (k : Nat) : (p k).Steady :=
    start.live fun m hm => spare m (List.mem_of_mem_take hm)
  refine ⟨fun i j id le stood gone => ?_, fun k r hr isOpen => ?_,
    fun k now round under settled => ?_, fun k => ⟨(steady k).numbered, fun free => ?_⟩,
    Store.length_purge⟩
  · obtain ⟨k, hi, hj, stood', gone'⟩ :=
      exists_left (f := fun k => id ∈ (p k).watch.store.ids) le stood gone
    obtain ⟨now, swept⟩ := start.swept_at spare stood' gone'
    exact ⟨k, hi, hj, now, gone', swept⟩
  · refine Decidable.byContradiction fun gone => ?_
    obtain ⟨_, round, _, r', hr', same, swept⟩ :=
      start.swept_at spare (List.mem_map_of_mem hr) gone
    obtain ⟨alerts, holds⟩ := (steady k).holds
    obtain rfl := holds.eq_of_id hr' hr same
    exact isOpen.not_dismissed swept.2.2.1
  · have after : p (k + 1) = conclude (p k).watch round := live_take_conclude now under
    obtain ⟨_, ended, rows⟩ := (steady k).conclude under settled
    rw [after]
    refine ⟨ended, rows, fun due range r hr old => ?_⟩
    rw [rows] at hr
    have kept := (List.mem_filter.1 hr).2
    have swept : Watch.Sweeps round.settings round.now round.snapshot.cycle r :=
      ⟨due, range due, old⟩
    simp [swept] at kept
  · cases now : moments[k]? with
    | none =>
      intro round under
      rw [show p (k + 1) = p k from live_take_over _ now, free] at under
      cases under
    | some m =>
      rw [show p (k + 1) = (p k).pass m from live_take_succ _ now]
      exact fun round under => cycle_of_begun (spare m (List.mem_of_getElem? now)) free under

/-- A month of cycles that measure nothing, in which somebody acknowledges an alert and the clock
goes on by one second before the last cycle ends. -/
def month : List Moment :=
  let measure : Event := .begin (Watch.retaining 30) 1702592480 Watch.unreadable
  .event (.handle (.acknowledge 1700000600 "e") id)
    :: (List.replicate 11 [Moment.event measure, .event .conclude]).flatten
    ++ [.event measure, .tick 1702592481, .event .conclude]

/-- A new monitor on a store with a past. -/
def heir : Watch := { monitor := {}, store := .seasoned, ids := { name := tally } }

theorem alerts_leave_by_retention_month :
    heir.store.Reachable ∧ (∀ m ∈ month, m.Spares) ∧
      (live { watch := heir } (month.take 25)).watch.store.ids = ["b", "c", "d", "e"] ∧
      (live { watch := heir } (month.take 26)).watch.store.ids = ["e"] ∧
      ∃ k, 25 ≤ k ∧ k < 26 ∧ ∃ round ∈ (live { watch := heir } (month.take k)).round,
        ∃ r ∈ (live { watch := heir } (month.take k)).watch.store.rows, r.id = "b" ∧
          Watch.Sweeps round.settings round.now round.snapshot.cycle r := by
  have reachable : heir.store.Reachable := Store.seasoned_reachable
  have spare : ∀ m ∈ month, m.Spares := by decide
  have before : (live { watch := heir } (month.take 25)).watch.store.ids =
    ["b", "c", "d", "e"] := by decide +kernel
  have after : (live { watch := heir } (month.take 26)).watch.store.ids = ["e"] := by
    decide +kernel
  obtain ⟨leave, _⟩ := alerts_leave_by_retention reachable rfl spare
  obtain ⟨k, hi, hj, _, _, swept⟩ := leave 25 26 "b" (by decide)
    (by rw [before]; decide) (by rw [after]; decide)
  exact ⟨reachable, spare, before, after, k, hi, hj, swept⟩

end Patrol

end HostWatch
