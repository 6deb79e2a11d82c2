import Mathlib.Data.List.Nodup
import HostWatch.Shutdown

/-!
# Waiting for a shutdown

`waits_resolve`: who is left waiting when a request to shut down has been completed. A task that had
not found the flag clear before it was set sees it, and so does a task that had, if it was the only
one; of two that had, one may be left parked, and stays so until another request.

1. What each event does (`Change`, `change_step`); all that follows is by cases on it.
2. Parked tasks are those in the queue, and nobody is parked beside a permit (`Sound`).
3. Tasks that found the flag clear are blind until they are woken or take a permit. Once the flag is
   set nobody becomes blind any more (`IsBlindAt.of_step`), and each request lets one blind task go
   on at most (`blind_step`, `blind_le_run`).
4. A task that is not blind, or that is the only one and has a permit (`Relieved`), sees the flag with
   three steps of its own, whatever others do meanwhile (`Sure.resolves`).
5. Of two blind tasks that park, a notification wakes one (`exists_parked`).
-/

namespace HostWatch

/-- The task found the flag clear and has not been told since. -/
def Waiter.IsBlind (w : Waiter) : Prop := w = .checked ∨ w = .parked

instance : DecidablePred Waiter.IsBlind := fun w =>
  inferInstanceAs (Decidable (w = .checked ∨ w = .parked))

/-- How many steps the task takes to see a flag that is set, if nothing holds it up. -/
def Waiter.left : Waiter → Nat
  | .done => 0
  | .asked => 1
  | .ready => 2
  | .woken | .checked | .parked => 3

/-- What the task does next, if that does not depend on a permit. -/
def Waiter.onward (requested : Bool) : Waiter → Option Waiter
  | .ready => some .asked
  | .asked => some (if requested then .done else .checked)
  | .woken => some .ready
  | .checked | .parked | .done => none

theorem Waiter.ne_parked_of_onward {requested : Bool} {w w' : Waiter}
    (h : w.onward requested = some w') : w ≠ .parked ∧ w' ≠ .parked := by
  cases w with
  | ready | woken =>
    obtain rfl := Option.some.inj h
    decide
  | asked =>
    obtain rfl := Option.some.inj h
    cases requested <;> decide
  | checked | parked | done => cases h

theorem Waiter.not_isBlind_of_onward {w w' : Waiter} (h : w.onward true = some w') :
    ¬ w.IsBlind ∧ ¬ w'.IsBlind := by
  cases w with
  | ready | woken | asked =>
    obtain rfl := Option.some.inj h
    decide
  | checked | parked | done => cases h

theorem Waiter.left_onward {w w' : Waiter} (h : w.onward true = some w') : w'.left + 1 = w.left := by
  cases w with
  | ready | woken | asked =>
    obtain rfl := Option.some.inj h
    rfl
  | checked | parked | done => cases h

theorem Waiter.left_le (w : Waiter) : w.left ≤ 3 := by cases w <;> decide

theorem Waiter.eq_done_of_left {w : Waiter} (h : w.left = 0) : w = .done := by
  cases w with
  | done => rfl
  | ready | asked | checked | parked | woken => cases h

namespace ShutdownSignal

variable {s t : ShutdownSignal} {e : Event} {i : Nat} {w : Waiter}

/-! ## What an event does -/

/-- What an event makes of a signal. -/
inductive Change (s : ShutdownSignal) : Event → ShutdownSignal → Prop where
  | enter : Change s .enter { s with waiters := s.waiters ++ [.ready] }
  | setFlag : Change s .setFlag { s with requested := true, halfway := s.halfway + 1 }
  | idle (nobody_due : s.halfway = 0) : Change s .notify s
  | leave {n : Nat} (due : s.halfway = n + 1) (nobody : s.queue = []) :
    Change s .notify { s with permit := true, halfway := n, completed := s.completed + 1 }
  | wake {n i : Nat} {queue : List Nat} (due : s.halfway = n + 1) (first : s.queue = i :: queue) :
    Change s .notify
      { s with waiters := s.waiters.set i .woken, queue, halfway := n, completed := s.completed + 1 }
  | rest {i : Nat} (stays : ∀ w ∈ s.waiters[i]?, w = .parked ∨ w = .done) :
    Change s (.advance i) s
  | onward {i : Nat} {w w' : Waiter} (at_i : s.waiters[i]? = some w)
    (next : w.onward s.requested = some w') :
    Change s (.advance i) { s with waiters := s.waiters.set i w' }
  | take {i : Nat} (at_i : s.waiters[i]? = some .checked) (permit : s.permit = true) :
    Change s (.advance i) { s with permit := false, waiters := s.waiters.set i .ready }
  | park {i : Nat} (at_i : s.waiters[i]? = some .checked) (permit : s.permit = false) :
    Change s (.advance i) { s with waiters := s.waiters.set i .parked, queue := s.queue ++ [i] }

theorem change_notify (s : ShutdownSignal) : Change s .notify s.notify := by
  obtain ⟨requested, permit, waiters, queue, halfway, completed⟩ := s
  cases halfway with
  | zero => exact .idle rfl
  | succ n =>
    cases queue with
    | nil => exact .leave rfl rfl
    | cons i queue => exact .wake rfl rfl

theorem change_advance (s : ShutdownSignal) (i : Nat) : Change s (.advance i) (s.advance i) := by
  unfold advance
  split
  · next at_i => exact .onward at_i rfl
  · next at_i => exact .onward at_i rfl
  · next at_i =>
    split_ifs with permit
    · exact .take at_i permit
    · exact .park at_i (Bool.eq_false_iff.2 permit)
  · next at_i => exact .onward at_i rfl
  · next ready asked checked woken =>
    refine .rest fun w at_i => ?_
    cases w with
    | ready => exact absurd at_i ready
    | asked => exact absurd at_i asked
    | checked => exact absurd at_i checked
    | woken => exact absurd at_i woken
    | parked => exact .inl rfl
    | done => exact .inr rfl

theorem change_step (s : ShutdownSignal) (e : Event) : Change s e (s.step e) := by
  cases e with
  | enter => exact .enter
  | setFlag => exact .setFlag
  | notify => exact change_notify s
  | advance i => exact change_advance s i

theorem run_cons (s : ShutdownSignal) (e : Event) (events : List Event) :
    s.run (e :: events) = (s.step e).run events := rfl

/-! ## Places among the waiters -/

theorem getElem?_set_of_some {ws : List Waiter} (h : ws[i]? = some w) (w' : Waiter) :
    (ws.set i w')[i]? = some w' :=
  List.getElem?_set_self (List.getElem?_eq_some_iff.1 h).1

theorem of_getElem?_set {ws : List Waiter} {j : Nat} {w' : Waiter}
    (h : (ws.set j w')[i]? = some w) : i = j ∧ w = w' ∨ ws[i]? = some w := by
  rw [List.getElem?_set] at h
  split_ifs at h with same inside
  · exact .inl ⟨same.symm, (Option.some.inj h).symm⟩
  · exact .inr h

/-- Who enters is no task of another kind. -/
theorem getElem?_enter {ws : List Waiter} (other : w ≠ .ready) (i : Nat) :
    (ws ++ [.ready])[i]? = some w ↔ ws[i]? = some w := by
  rw [List.getElem?_append]
  split_ifs with inside
  · rfl
  · rw [List.getElem?_eq_none (Nat.le_of_not_lt inside)]
    refine iff_of_false (fun h => ?_) nofun
    exact other (List.mem_singleton.1 (List.mem_of_getElem? h))

/-! ## The flag -/

theorem requested_step (h : s.requested = true) : (s.step e).requested = true := by
  have change := change_step s e
  generalize s.step e = t at change
  cases change <;> first | rfl | exact h

theorem requested_run (h : s.requested = true) (events : List Event) :
    (s.run events).requested = true := by
  induction events generalizing s with
  | nil => exact h
  | cons e events ih => exact ih (requested_step h)

theorem unrequested_step (h : s.requested = false) (other : e ≠ .setFlag) :
    (s.step e).requested = false := by
  have change := change_step s e
  generalize s.step e = t at change
  cases change <;> first | exact absurd rfl other | exact h

/-! ## Parked tasks -/

/-- Parked tasks are those in the queue, none of them twice; nobody is parked beside a permit; and
before the flag is set nobody has notified. -/
structure Sound (s : ShutdownSignal) : Prop where
  nodup : s.queue.Nodup
  mem_queue : ∀ i, i ∈ s.queue ↔ s.waiters[i]? = some .parked
  nobody_parked : s.permit = true → s.queue = []
  unasked : s.requested = false → s.permit = false ∧ s.halfway = 0 ∧ s.completed = 0

theorem sound_default : Sound {} where
  nodup := .nil
  mem_queue i := by simp
  nobody_parked _ := rfl
  unasked _ := ⟨rfl, rfl, rfl⟩

/-- A step that neither parks a task nor wakes one. -/
theorem Sound.mem_queue_set (sound : Sound s) (at_i : s.waiters[i]? = some w) (before : w ≠ .parked)
    {w' : Waiter} (after : w' ≠ .parked) (j : Nat) :
    j ∈ s.queue ↔ (s.waiters.set i w')[j]? = some .parked := by
  rw [sound.mem_queue j]
  by_cases same : i = j
  · subst same
    rw [at_i, List.getElem?_set_self (List.getElem?_eq_some_iff.1 at_i).1]
    exact iff_of_false (fun h => before (Option.some.inj h)) fun h => after (Option.some.inj h)
  · rw [List.getElem?_set_ne same]

theorem Sound.not_mem_queue (sound : Sound s) (at_i : s.waiters[i]? = some w) (h : w ≠ .parked) :
    i ∉ s.queue := fun mem =>
  h (Option.some.inj (at_i.symm.trans ((sound.mem_queue i).1 mem)))

/-- **Step.** Every event keeps a signal sound. -/
theorem Sound.step (sound : Sound s) (e : Event) : Sound (s.step e) := by
  have change := change_step s e
  generalize s.step e = t at change
  cases change with
  | enter =>
    refine ⟨sound.nodup, fun i => ?_, sound.nobody_parked, sound.unasked⟩
    rw [sound.mem_queue i, getElem?_enter (by decide)]
  | setFlag => exact ⟨sound.nodup, sound.mem_queue, sound.nobody_parked, nofun⟩
  | idle | rest => exact sound
  | leave due nobody =>
    exact ⟨sound.nodup, sound.mem_queue, fun _ => nobody, fun clear =>
      absurd (sound.unasked clear).2.1 (by omega)⟩
  | @wake n i queue due first =>
    obtain ⟨fresh, nodup⟩ := List.nodup_cons.1 (first ▸ sound.nodup)
    have parked : s.waiters[i]? = some .parked :=
      (sound.mem_queue i).1 (first ▸ List.mem_cons_self)
    refine ⟨nodup, fun j => ?_, fun permit => ?_, fun clear =>
      absurd (sound.unasked clear).2.1 (by omega)⟩
    · by_cases same : i = j
      · subst same
        rw [getElem?_set_of_some parked]
        exact iff_of_false fresh (by decide)
      · rw [List.getElem?_set_ne same, ← sound.mem_queue j, first, List.mem_cons,
          or_iff_right (Ne.symm same)]
    · exact absurd (first.symm.trans (sound.nobody_parked permit)) (List.cons_ne_nil _ _)
  | onward at_i next =>
    obtain ⟨before, after⟩ := Waiter.ne_parked_of_onward next
    exact ⟨sound.nodup, sound.mem_queue_set at_i before after, sound.nobody_parked, sound.unasked⟩
  | take at_i permit =>
    refine ⟨sound.nodup, sound.mem_queue_set at_i (by decide) (by decide), nofun, fun clear => ?_⟩
    exact absurd permit (Bool.eq_false_iff.1 (sound.unasked clear).1)
  | @park i at_i permit =>
    have fresh := sound.not_mem_queue at_i (by decide)
    refine ⟨List.nodup_append.2 ⟨sound.nodup, List.nodup_singleton i, ?_⟩, fun j => ?_,
      fun given => absurd given (Bool.eq_false_iff.1 permit), sound.unasked⟩
    · rintro j mem k last rfl
      exact fresh (List.mem_singleton.1 last ▸ mem)
    rw [List.mem_append, List.mem_singleton]
    by_cases same : i = j
    · subst same
      rw [getElem?_set_of_some at_i]
      exact iff_of_true (.inr rfl) rfl
    · rw [List.getElem?_set_ne same, ← sound.mem_queue j, or_iff_left (Ne.symm same)]

theorem Sound.run (sound : Sound s) (events : List Event) : Sound (s.run events) := by
  induction events generalizing s with
  | nil => exact sound
  | cons e events ih => exact ih (sound.step e)

/-- A parked task stays so until somebody notifies. -/
theorem parked_run (parked : s.waiters[i]? = some .parked) {more : List Event}
    (quiet : .notify ∉ more) : (s.run more).waiters[i]? = some .parked := by
  induction more generalizing s with
  | nil => exact parked
  | cons e more ih =>
    obtain ⟨other, quiet⟩ := not_or.1 (mt List.mem_cons.2 quiet)
    refine ih ?_ quiet
    have change := change_step s e
    generalize s.step e = t at change
    cases change with
    | enter => rwa [getElem?_enter (by decide)]
    | setFlag | rest => exact parked
    | idle | leave | wake => exact absurd rfl other
    | @onward j w w' at_j next =>
      have apart : j ≠ i := by
        rintro rfl
        exact (Waiter.ne_parked_of_onward next).1 (Option.some.inj (at_j.symm.trans parked))
      rwa [List.getElem?_set_ne apart]
    | @take j at_j | @park j at_j =>
      have apart : j ≠ i := by
        rintro rfl
        exact absurd (at_j.symm.trans parked) (by decide)
      rwa [List.getElem?_set_ne apart]

/-! ## Blind tasks -/

/-- The task at a place is blind. -/
def IsBlindAt (s : ShutdownSignal) (i : Nat) : Prop := ∃ w ∈ s.waiters[i]?, w.IsBlind

/-- How many tasks are blind. -/
def blind (s : ShutdownSignal) : Nat := s.waiters.countP fun w => decide w.IsBlind

theorem countP_set_of_some {ws : List Waiter} (at_i : ws[i]? = some w) (w' : Waiter) :
    (ws.set i w').countP (fun w => decide w.IsBlind) + (if w.IsBlind then 1 else 0) =
      ws.countP (fun w => decide w.IsBlind) + if w'.IsBlind then 1 else 0 := by
  obtain ⟨inside, rfl⟩ := List.getElem?_eq_some_iff.1 at_i
  have counted : (if ws[i].IsBlind then 1 else 0) ≤ ws.countP (fun w => decide w.IsBlind) := by
    split_ifs with h
    · exact List.countP_pos_iff.2 ⟨_, List.getElem_mem inside, decide_eq_true h⟩
    · exact Nat.zero_le _
  rw [List.countP_set inside]
  simp only [decide_eq_true_eq]
  omega

theorem exists_blind (h : 0 < s.blind) : ∃ i, s.IsBlindAt i := by
  obtain ⟨w, mem, isBlind⟩ := List.countP_pos_iff.1 h
  obtain ⟨i, at_i⟩ := List.mem_iff_getElem?.1 mem
  exact ⟨i, w, at_i, of_decide_eq_true isBlind⟩

theorem blind_pos (h : s.IsBlindAt i) : 0 < s.blind := by
  obtain ⟨w, at_i, isBlind⟩ := h
  exact List.countP_pos_iff.2 ⟨w, List.mem_of_getElem? at_i, decide_eq_true isBlind⟩

theorem exists_two_blind (h : 2 ≤ s.blind) : ∃ i j, i ≠ j ∧ s.IsBlindAt i ∧ s.IsBlindAt j := by
  obtain ⟨i, w, at_i, isBlind⟩ := exists_blind (s := s) (by omega)
  -- without the first there is another one
  have fewer := countP_set_of_some at_i .done
  rw [if_pos isBlind, if_neg (by decide)] at fewer
  obtain ⟨j, w', at_j, isBlind'⟩ :=
    exists_blind (s := { s with waiters := s.waiters.set i .done })
      (show 0 < (s.waiters.set i .done).countP _ by unfold blind at h; omega)
  have apart : i ≠ j := by
    rintro rfl
    rw [getElem?_set_of_some at_i] at at_j
    obtain rfl := Option.some.inj at_j
    exact absurd isBlind' (by decide)
  rw [List.getElem?_set_ne apart] at at_j
  exact ⟨i, j, apart, ⟨w, at_i, isBlind⟩, ⟨w', at_j, isBlind'⟩⟩

/-- Once the flag is set nobody becomes blind any more. -/
theorem IsBlindAt.of_step (flag : s.requested = true) (h : (s.step e).IsBlindAt i) :
    s.IsBlindAt i := by
  obtain ⟨w, at_i, isBlind⟩ := h
  have change := change_step s e
  generalize s.step e = t at change at_i
  cases change with
  | enter =>
    rw [Option.mem_def, getElem?_enter (by rintro rfl; exact absurd isBlind (by decide))] at at_i
    exact ⟨w, at_i, isBlind⟩
  | setFlag | idle | leave | rest => exact ⟨w, at_i, isBlind⟩
  | wake =>
    rcases of_getElem?_set at_i with ⟨-, rfl⟩ | before
    · exact absurd isBlind (by decide)
    · exact ⟨w, before, isBlind⟩
  | onward at_j next =>
    rcases of_getElem?_set at_i with ⟨-, rfl⟩ | before
    · exact absurd isBlind (Waiter.not_isBlind_of_onward (flag ▸ next)).2
    · exact ⟨w, before, isBlind⟩
  | take at_j =>
    rcases of_getElem?_set at_i with ⟨-, rfl⟩ | before
    · exact absurd isBlind (by decide)
    · exact ⟨w, before, isBlind⟩
  | park at_j =>
    rcases of_getElem?_set at_i with ⟨rfl, -⟩ | before
    · exact ⟨.checked, at_j, .inl rfl⟩
    · exact ⟨w, before, isBlind⟩

/-- How the number of blind tasks and of completed requests changes with an event. -/
theorem blind_step (sound : Sound s) (flag : s.requested = true) (e : Event) :
    ((s.step e).blind = s.blind ∧ (s.step e).completed = s.completed ∧
        (s.step e).permit = s.permit) ∨
      ((s.step e).blind = s.blind ∧ (s.step e).completed = s.completed + 1 ∧
        (s.step e).permit = true) ∨
      ((s.step e).blind + 1 = s.blind ∧ (s.step e).completed = s.completed + 1 ∧
        (s.step e).permit = s.permit) ∨
      ((s.step e).blind + 1 = s.blind ∧ (s.step e).completed = s.completed ∧ s.permit = true ∧
        (s.step e).permit = false) := by
  have change := change_step s e
  generalize s.step e = t at change
  cases change with
  | enter =>
    refine .inl ⟨?_, rfl, rfl⟩
    show (s.waiters ++ [Waiter.ready]).countP _ = s.waiters.countP _
    rw [List.countP_append, List.countP_singleton, if_neg (by decide), Nat.add_zero]
  | setFlag | idle | rest => exact .inl ⟨rfl, rfl, rfl⟩
  | leave => exact .inr (.inl ⟨rfl, rfl, rfl⟩)
  | @wake n i queue due first =>
    have at_i : s.waiters[i]? = some .parked :=
      (sound.mem_queue i).1 (first ▸ List.mem_cons_self)
    exact .inr (.inr (.inl ⟨countP_set_of_some at_i .woken, rfl, rfl⟩))
  | @onward i w w' at_i next =>
    obtain ⟨before, after⟩ := Waiter.not_isBlind_of_onward (flag ▸ next)
    have count := countP_set_of_some at_i w'
    rw [if_neg before, if_neg after] at count
    exact .inl ⟨count, rfl, rfl⟩
  | take at_i permit =>
    exact .inr (.inr (.inr ⟨countP_set_of_some at_i .ready, rfl, permit, rfl⟩))
  | park at_i =>
    exact .inl ⟨Nat.add_right_cancel (countP_set_of_some at_i .parked), rfl, rfl⟩

theorem IsBlindAt.of_run (flag : s.requested = true) {events : List Event}
    (h : (s.run events).IsBlindAt i) : s.IsBlindAt i := by
  induction events generalizing s with
  | nil => exact h
  | cons e events ih => exact (ih (requested_step flag) h).of_step flag

/-- Each request lets one blind task go on at most, and one is still to go on if there is a permit. -/
theorem blind_le_run (sound : Sound s) (flag : s.requested = true) (events : List Event) :
    s.blind + s.completed + (s.run events).permit.toNat ≤
      (s.run events).blind + (s.run events).completed + s.permit.toNat := by
  induction events generalizing s with
  | nil => exact Nat.le_refl _
  | cons e events ih =>
    have rest := ih (sound.step e) (requested_step flag)
    have bound := Bool.toNat_le (s.step e).permit
    rw [run_cons]
    rcases blind_step sound flag e with ⟨blind, completed, permit⟩ | ⟨blind, completed, permit⟩ |
      ⟨blind, completed, permit⟩ | ⟨blind, completed, had, permit⟩
    · rw [permit] at rest
      omega
    · omega
    · rw [permit] at rest
      omega
    · rw [permit] at rest
      rw [had]
      simp only [Bool.toNat_true, Bool.toNat_false] at rest ⊢
      omega

/-! ## Seeing the flag -/

/-- One task is blind at most, and once a request is completed there is a permit for it. -/
structure Relieved (s : ShutdownSignal) : Prop where
  one : s.blind ≤ 1
  told : 0 < s.completed → s.blind ≤ s.permit.toNat

theorem Relieved.step (h : Relieved s) (sound : Sound s) (flag : s.requested = true) (e : Event) :
    Relieved (s.step e) := by
  have one := h.one
  have told := h.told
  rcases blind_step sound flag e with ⟨blind, completed, permit⟩ | ⟨blind, completed, permit⟩ |
    ⟨blind, completed, permit⟩ | ⟨blind, completed, -, permit⟩
  · exact ⟨by omega, by rwa [blind, completed, permit]⟩
  · exact ⟨by omega, fun _ => by rw [permit, blind]; exact one⟩
  · exact ⟨by omega, fun _ => by omega⟩
  · exact ⟨by omega, fun _ => by omega⟩

theorem Relieved.run (h : Relieved s) (sound : Sound s) (flag : s.requested = true)
    (events : List Event) : Relieved (s.run events) := by
  induction events generalizing s with
  | nil => exact h
  | cons e events ih => exact ih (h.step sound flag e) (sound.step e) (requested_step flag)

theorem completed_le_step (s : ShutdownSignal) (e : Event) :
    s.completed ≤ (s.step e).completed := by
  have change := change_step s e
  generalize s.step e = t at change
  cases change <;> first | exact Nat.le_refl _ | exact Nat.le_succ _

/-- The task sees the flag with three steps of its own, whatever else happens meanwhile. -/
def Resolves (s : ShutdownSignal) (i : Nat) : Prop :=
  ∀ more : List Event, 3 ≤ more.count (.advance i) → (s.run more).IsDone i

/-- The flag is set, and the task is not blind or there is a permit for it alone. -/
structure Sure (s : ShutdownSignal) (i : Nat) : Prop where
  sound : Sound s
  flag : s.requested = true
  told : s.IsBlindAt i → Relieved s ∧ 0 < s.completed

theorem Sure.permit (h : Sure s i) (isBlind : s.IsBlindAt i) : s.permit = true := by
  obtain ⟨relieved, completed⟩ := h.told isBlind
  have pos := Nat.lt_of_lt_of_le (blind_pos isBlind) (relieved.told completed)
  cases permit : s.permit with
  | true => rfl
  | false =>
    rw [permit] at pos
    exact absurd pos (by decide)

theorem Sure.step (h : Sure s i) (e : Event) : Sure (s.step e) i where
  sound := h.sound.step e
  flag := requested_step h.flag
  told isBlind := by
    obtain ⟨relieved, completed⟩ := h.told (isBlind.of_step h.flag)
    exact ⟨relieved.step h.sound h.flag e, Nat.lt_of_lt_of_le completed (completed_le_step s e)⟩

theorem Sure.not_parked (h : Sure s i) (at_i : s.waiters[i]? = some w) : w ≠ .parked := by
  rintro rfl
  have queued := (h.sound.mem_queue i).2 at_i
  rw [h.sound.nobody_parked (h.permit ⟨_, at_i, .inr rfl⟩)] at queued
  cases queued

/-- **Step.** A step of its own brings the task nearer to the flag, and no other event takes it
farther away. -/
theorem Sure.left_step (h : Sure s i) (at_i : s.waiters[i]? = some w) (e : Event) :
    ∃ w', (s.step e).waiters[i]? = some w' ∧
      w'.left ≤ w.left - if e = .advance i then 1 else 0 := by
  have aside {j : Nat} (apart : j ≠ i) (w' : Waiter) :
      ∃ w'', (s.waiters.set j w')[i]? = some w'' ∧
        w''.left ≤ w.left - if Event.advance j = .advance i then 1 else 0 := by
    refine ⟨w, by rwa [List.getElem?_set_ne apart], ?_⟩
    rw [if_neg fun same => apart (Event.advance.inj same)]
    exact Nat.le_refl _
  have change := change_step s e
  generalize s.step e = t at change
  cases change with
  | enter =>
    refine ⟨w, ?_, Nat.le_refl _⟩
    rw [← at_i]
    exact List.getElem?_append_left (List.getElem?_eq_some_iff.1 at_i).1
  | setFlag | idle | leave => exact ⟨w, at_i, Nat.le_refl _⟩
  | @wake n j queue due first =>
    have apart : j ≠ i := by
      rintro rfl
      exact h.sound.not_mem_queue at_i (h.not_parked at_i) (first ▸ List.mem_cons_self)
    exact ⟨w, by rwa [List.getElem?_set_ne apart], Nat.le_refl _⟩
  | @rest j stays =>
    by_cases same : j = i
    · subst same
      obtain rfl := (stays w at_i).resolve_left (h.not_parked at_i)
      exact ⟨.done, at_i, Nat.zero_le _⟩
    · refine ⟨w, at_i, ?_⟩
      rw [if_neg fun h => same (Event.advance.inj h)]
      exact Nat.le_refl _
  | @onward j w₀ w' at_j next =>
    by_cases same : j = i
    · subst same
      obtain rfl := Option.some.inj (at_i.symm.trans at_j)
      have := Waiter.left_onward (h.flag ▸ next)
      exact ⟨w', getElem?_set_of_some at_i w', by rw [if_pos rfl]; omega⟩
    · exact aside same w'
  | @take j at_j =>
    by_cases same : j = i
    · subst same
      obtain rfl := Option.some.inj (at_i.symm.trans at_j)
      exact ⟨.ready, getElem?_set_of_some at_i .ready, by rw [if_pos rfl]; decide⟩
    · exact aside same .ready
  | @park j at_j permit =>
    by_cases same : j = i
    · subst same
      exact absurd (h.permit ⟨_, at_j, .inl rfl⟩) (Bool.eq_false_iff.1 permit)
    · exact aside same .parked

/-- **Runs.** So it is however many events there are. -/
theorem Sure.left_run (h : Sure s i) (at_i : s.waiters[i]? = some w) (more : List Event) :
    ∃ w', (s.run more).waiters[i]? = some w' ∧ w'.left ≤ w.left - more.count (.advance i) := by
  induction more generalizing s w with
  | nil => exact ⟨w, at_i, Nat.le_refl _⟩
  | cons e more ih =>
    obtain ⟨w₁, at_i₁, first⟩ := h.left_step at_i e
    obtain ⟨w₂, at_i₂, rest⟩ := ih (h.step e) at_i₁
    refine ⟨w₂, at_i₂, Nat.le_trans rest ?_⟩
    rw [List.count_cons]
    simp only [beq_iff_eq]
    omega

theorem Sure.resolves (h : Sure s i) (here : i < s.waiters.length) : s.Resolves i := by
  intro more often
  obtain ⟨w, at_i, left⟩ := h.left_run (List.getElem?_eq_getElem here) more
  have := Waiter.left_le s.waiters[i]
  rw [IsDone, at_i, Waiter.eq_done_of_left (w := w) (by omega)]

/-! ## Left parked -/

/-- A blind task parks if there is no permit, and nothing else changes. -/
theorem parks (isBlind : s.IsBlindAt i) (none : s.permit = false) :
    (s.step (.advance i)).waiters[i]? = some .parked ∧
      (∀ j, i ≠ j → (s.step (.advance i)).waiters[j]? = s.waiters[j]?) ∧
      (s.step (.advance i)).permit = false ∧
      (s.step (.advance i)).halfway = s.halfway ∧
      (s.step (.advance i)).completed = s.completed := by
  obtain ⟨w, at_i, kind⟩ := isBlind
  have change := change_step s (.advance i)
  generalize s.step (.advance i) = t at change
  cases change with
  | rest stays =>
    have parked : w = .parked := by
      rcases kind with rfl | rfl
      · exact absurd (stays _ at_i) (by decide)
      · rfl
    exact ⟨parked ▸ at_i, fun _ _ => rfl, none, rfl, rfl⟩
  | onward at_i' next =>
    obtain rfl := Option.some.inj (at_i.symm.trans at_i')
    rcases kind with rfl | rfl <;> cases next
  | take _ permit => exact absurd permit (Bool.eq_false_iff.1 none)
  | park =>
    exact ⟨getElem?_set_of_some at_i .parked, fun _ apart => List.getElem?_set_ne apart, none, rfl, rfl⟩

/-- Of two parked tasks a notification leaves one parked. -/
theorem parked_notify (sound : Sound s) (due : s.halfway ≠ 0) {i j : Nat} (apart : i ≠ j)
    (parked : s.waiters[i]? = some .parked) (parked' : s.waiters[j]? = some .parked) :
    (s.step .notify).completed = s.completed + 1 ∧
      ((s.step .notify).waiters[i]? = some .parked ∨ (s.step .notify).waiters[j]? = some .parked) := by
  have queued := (sound.mem_queue i).2 parked
  have change := change_step s .notify
  generalize s.step .notify = t at change
  cases change with
  | idle nobody_due => exact absurd nobody_due due
  | leave _ nobody =>
    rw [nobody] at queued
    cases queued
  | @wake n k queue =>
    refine ⟨rfl, ?_⟩
    by_cases first : k = i
    · exact .inr (by rwa [List.getElem?_set_ne (first ▸ apart)])
    · exact .inl (by rwa [List.getElem?_set_ne first])

/-- **Left parked.** Where two tasks are blind when the flag is set, a whole request may leave one of
them parked. -/
theorem exists_parked (sound : Sound s) (clear : s.requested = false) (two : 2 ≤ s.blind) :
    ∃ after : List Event, (s.run (.setFlag :: after)).completed = 1 ∧
      ∃ i : Nat, (s.run (.setFlag :: after)).waiters[i]? = some Waiter.parked := by
  obtain ⟨i, j, apart, blind_i, blind_j⟩ := exists_two_blind two
  obtain ⟨none, -, nobody⟩ := sound.unasked clear
  refine ⟨[.advance i, .advance j, .notify], ?_⟩
  -- both park before the request notifies
  have flagged : Sound (s.step .setFlag) := sound.step .setFlag
  obtain ⟨parked_i, others_i, none_i, halfway_i, completed_i⟩ :=
    parks (s := s.step .setFlag) blind_i none
  have blind_j' : ((s.step .setFlag).step (.advance i)).IsBlindAt j := by
    obtain ⟨w, at_j, isBlind⟩ := blind_j
    exact ⟨w, (others_i j apart).trans at_j, isBlind⟩
  obtain ⟨parked_j, others_j, -, halfway_j, completed_j⟩ := parks blind_j' none_i
  have halfway : (((s.step .setFlag).step (.advance i)).step (.advance j)).halfway = s.halfway + 1 :=
    halfway_j.trans halfway_i
  have completed : (((s.step .setFlag).step (.advance i)).step (.advance j)).completed = 0 :=
    (completed_j.trans completed_i).trans nobody
  obtain ⟨one, left⟩ := parked_notify ((flagged.step _).step _) (by omega) apart
    ((others_j i (Ne.symm apart)).trans parked_i) parked_j
  rw [completed] at one
  exact ⟨one, left.elim (fun parked => ⟨i, parked⟩) fun parked => ⟨j, parked⟩⟩

/-! ## Who is left waiting -/

theorem unrequested_run (clear : s.requested = false) {events : List Event}
    (unasked : .setFlag ∉ events) : (s.run events).requested = false := by
  induction events generalizing s with
  | nil => exact clear
  | cons e events ih =>
    obtain ⟨other, unasked⟩ := not_or.1 (mt List.mem_cons.2 unasked)
    exact ih (unrequested_step clear (Ne.symm other)) unasked

/-- **Waiting.** Tasks begin to wait and take their steps among those of requests in any order; the
flag is set for the first time behind `before`. When a request has been completed,
every task that had not found the flag clear sees it with its next steps, whether it began before or
after the request, and so does every other task if it is alone in that; at most as many of these
were told as requests have been completed. Where two had found it clear, one of them may be left
parked until another request notifies. -/
theorem waits_resolve (before : List Event) (unasked : .setFlag ∉ before) :
    let s := run {} before
    (∀ after, let t := s.run (.setFlag :: after)
      0 < t.completed →
        (∀ i < t.waiters.length, ¬ s.IsBlindAt i → t.Resolves i) ∧
        (s.blind ≤ 1 → ∀ i < t.waiters.length, t.Resolves i) ∧
        s.blind ≤ t.blind + t.completed) ∧
    (2 ≤ s.blind → ∃ after : List Event, let t := s.run (.setFlag :: after)
      t.completed = 1 ∧ ∃ i : Nat, t.waiters[i]? = some Waiter.parked ∧
        ∀ more, .notify ∉ more → (t.run more).waiters[i]? = some Waiter.parked) := by
  intro s
  have sound : Sound s := sound_default.run before
  have clear : s.requested = false := unrequested_run rfl unasked
  obtain ⟨none, -, nobody⟩ := sound.unasked clear
  refine ⟨?_, fun two => ?_⟩
  · intro after t some_request
    have flag : (s.step .setFlag).requested = true := rfl
    have flagged : Sound (s.step .setFlag) := sound.step .setFlag
    have set : t.requested = true := requested_run flag after
    refine ⟨fun i here sees => ?_, fun one i here => ?_, ?_⟩
    · exact Sure.resolves ⟨flagged.run after, set, fun isBlind => absurd (isBlind.of_run flag) sees⟩ here
    · have relieved : Relieved (s.step .setFlag) := ⟨one, fun some_before =>
        absurd some_before (Nat.not_lt.2 (Nat.le_of_eq nobody))⟩
      exact Sure.resolves ⟨flagged.run after, set, fun _ =>
        ⟨relieved.run flagged flag after, some_request⟩⟩ here
    · have told : s.blind + s.completed + t.permit.toNat ≤ t.blind + t.completed + s.permit.toNat :=
        blind_le_run flagged flag after
      rw [nobody, none, Bool.toNat_false] at told
      omega
  · obtain ⟨after, one, i, parked⟩ := exists_parked sound clear two
    exact ⟨after, one, i, parked, fun _ quiet => parked_run parked quiet⟩

/-- One task has found the flag clear and is overtaken by a whole request before it parks; another
one begins to wait then. -/
theorem waits_resolve_overtaken :
    let before : List Event := [.enter, .advance 0, .advance 0]
    let s := run {} before
    let t := s.run [.setFlag, .notify, .enter]
    .setFlag ∉ before ∧ s.waiters = [.checked] ∧ s.blind ≤ 1 ∧ 0 < t.completed ∧ 1 < t.waiters.length ∧
      t.Resolves 0 ∧ t.Resolves 1 := by
  intro before s t
  have unasked : .setFlag ∉ before := by decide
  have one : s.blind ≤ 1 := by decide
  have completed : 0 < t.completed := by decide
  obtain ⟨-, all, -⟩ := (waits_resolve before unasked).1 [.notify, .enter] completed
  exact ⟨unasked, by decide, one, completed, by decide, all one 0 (by decide), all one 1 (by decide)⟩

/-- Of two tasks that are parked when a request is made, only one is woken; and of two that are
about to park, only one finds the permit that two requests have left. The other one is polled in vain
and stays parked. -/
theorem one_of_two_left :
    let twoParked := run {} [.enter, .enter, .advance 0, .advance 0, .advance 0, .advance 1, .advance 1,
      .advance 1, .setFlag, .notify]
    let twoChecked := run {} [.enter, .enter, .advance 0, .advance 0, .advance 1, .advance 1, .setFlag,
      .notify, .setFlag, .notify]
    (twoParked.completed = 1 ∧ (twoParked.poll 0).IsDone 0 ∧ twoParked.waiters[1]? = some .parked ∧
        ¬ ((twoParked.poll 0).poll 1).IsDone 1) ∧
      twoChecked.completed = 2 ∧ (twoChecked.poll 0).IsDone 0 ∧
        ((twoChecked.poll 0).poll 1).waiters[1]? = some .parked ∧
        ¬ ((twoChecked.poll 0).poll 1).IsDone 1 := by
  decide

end ShutdownSignal

end HostWatch
