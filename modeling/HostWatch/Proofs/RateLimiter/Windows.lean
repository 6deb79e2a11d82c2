import HostWatch.RateLimiter.Log
import Mathlib.Data.List.Induction

/-!
# Windows of the limiter

`grants_by_window`: the limiter grants a request just if its window has granted fewer than the limit
in force, which bounds what a window grants by the greatest limit in it, what any second grants by
twice a fixed limit, and what a refusal tells about the second before it.

1. The limiter agrees with the window that the log is in (`Follows`), so every window of the log is
   fair (`fair_split`).
2. Entries of a window lie in it (`Encloses`), and without resets windows are a second apart
   (`pairwise_split`), so at most two of them meet any second (`countP_meets_le`), which bounds its
   grants under a fixed limit (`grantsWithin_second_le`).
3. A refusal finds as many grants in its window as the limit allows, all of them less than a second
   old (`le_grantsLaterThan`).
-/

namespace HostWatch.RateLimiter

variable {second : Int}

/-! ## Parts of a log -/

theorem grants_append (l l' : List Entry) : grants (l ++ l') = grants l + grants l' :=
  List.countP_append

theorem grants_concat (l : List Entry) (e : Entry) :
    grants (l ++ [e]) = grants l + if e.granted = true then 1 else 0 := by
  rw [grants_append]
  simp [grants, List.countP_singleton]

theorem limitAfter_concat (limit : Nat) (l : List Entry) (e : Entry) :
    limitAfter limit (l ++ [e]) = limitAfter (limitAfter limit l) [e] := by
  simp [limitAfter]

theorem limitAfter_of_not_set {limit : Nat} {e : Entry}
    (h : ∀ new, e.call.ask ≠ .setLimit new) : limitAfter limit [e] = limit := by
  cases ask : e.call.ask with
  | setLimit new => exact absurd ask (h new)
  | request | reset => simp [limitAfter, ask]

theorem limitAfter_le_greatestLimit (limit : Nat) (l : List Entry) :
    limitAfter limit l ≤ greatestLimit limit l := by
  induction l using List.reverseRecOn with
  | nil => exact Nat.le_refl _
  | append_singleton l e ih =>
    simp only [limitAfter, greatestLimit, List.foldl_append, List.foldl_cons, List.foldl_nil]
      at ih ⊢
    split
    · exact Nat.le_max_right _ _
    · exact ih

theorem greatestLimit_le_concat (limit : Nat) (l : List Entry) (e : Entry) :
    greatestLimit limit l ≤ greatestLimit limit (l ++ [e]) := by
  simp only [greatestLimit, List.foldl_append, List.foldl_cons, List.foldl_nil]
  split
  · exact Nat.le_max_left _ _
  · exact Nat.le_refl _

/-! ## The limiter and its window -/

/-- The limiter is in this window, and has counted what was granted in it. -/
structure Follows (r : RateLimiter) (w : Window) : Prop where
  started : r.started = w.began
  limit : r.limit = limitAfter w.limit w.entries
  count : r.count = grants w.entries

theorem follows_new (start : Int) (limit : Nat) : (new start limit).Follows ⟨start, limit, []⟩ :=
  ⟨rfl, rfl, rfl⟩

/-- The entry that a call makes in the log. -/
def entry (second : Int) (r : RateLimiter) (c : Call) : Entry := ⟨c, (r.respond second c).1⟩

namespace Window

theorem fair_nil (began : Int) (limit : Nat) : (⟨began, limit, []⟩ : Window).Fair := by
  intro before e after h
  simp at h

/-- One more entry that is granted as it should be leaves the window fair. -/
theorem Fair.concat {w : Window} (h : w.Fair) {e : Entry}
    (he : e.granted = true ↔
      e.call.ask = .request ∧ grants w.entries < limitAfter w.limit w.entries) :
    ({ w with entries := w.entries ++ [e] } : Window).Fair := by
  intro before d after hsplit
  have hsplit : w.entries ++ [e] = before ++ d :: after := hsplit
  rcases List.eq_nil_or_concat after with rfl | ⟨more, last, rfl⟩
  · obtain ⟨rfl, hd⟩ := List.append_inj' hsplit rfl
    obtain rfl : e = d := by simpa using hd
    exact he
  · have hsplit : w.entries ++ [e] = (before ++ d :: more) ++ [last] := by simpa using hsplit
    exact h before d more (List.append_inj' hsplit rfl).1

/-- A fair window grants no more than the greatest limit in it. -/
theorem Fair.grants_le {w : Window} (h : w.Fair) :
    grants w.entries ≤ greatestLimit w.limit w.entries := by
  obtain ⟨began, limit, entries⟩ := w
  induction entries using List.reverseRecOn with
  | nil => exact Nat.zero_le _
  | append_singleton l e ih =>
    have earlier : (⟨began, limit, l⟩ : Window).Fair := fun before d after hsplit =>
      h before d (after ++ [e]) (by simp [show l = before ++ d :: after from hsplit])
    have most := greatestLimit_le_concat limit l e
    show grants (l ++ [e]) ≤ greatestLimit limit (l ++ [e])
    rw [grants_concat]
    split
    · next granted =>
      have room := ((h l e [] rfl).1 granted).2
      have := limitAfter_le_greatestLimit limit l
      exact Nat.le_trans (Nat.lt_of_lt_of_le room this) most
    · exact Nat.le_trans (ih earlier) most

end Window

/-- A request is granted just if the window it falls in has room, and then counts in it. -/
theorem tryAcquire_eq (r : RateLimiter) (now second : Int) :
    r.tryAcquire now second =
      let w := r.windowAt now second
      (decide (w.count < w.limit),
        { w with count := w.count + if w.count < w.limit then 1 else 0 }) := by
  unfold tryAcquire
  by_cases room : (r.windowAt now second).count < (r.windowAt now second).limit <;> simp [room]

/-- **Step.** The limiter stays with the log, whose window stays fair. -/
theorem Follows.next (second : Int) {r : RateLimiter} {w : Window} (h : r.Follows w) (fair : w.Fair)
    (c : Call) :
    (r.respond second c).2.Follows (w.next second (entry second r c)) ∧
      (w.next second (entry second r c)).Fair := by
  obtain ⟨time, ask⟩ := c
  obtain ⟨started, limit, count⟩ := h
  unfold Window.next
  cases ask with
  | reset =>
    have ends : w.EndsAt second ⟨time, .reset⟩ := .inl rfl
    rw [if_pos (show w.EndsAt second (entry second r ⟨time, .reset⟩).call from ends)]
    refine ⟨⟨rfl, ?_, rfl⟩, ?_⟩
    · simp [respond, reset, entry, limitAfter, limit]
    · exact (Window.fair_nil _ _).concat (by simp [entry, respond])
  | setLimit new =>
    have stays : ¬ w.EndsAt second ⟨time, .setLimit new⟩ := by simp [Window.EndsAt]
    rw [if_neg (show ¬ w.EndsAt second (entry second r ⟨time, .setLimit new⟩).call from stays)]
    refine ⟨⟨started, ?_, ?_⟩, ?_⟩
    · simp [respond, setLimit, entry, limitAfter]
    · simp [respond, setLimit, entry, grants_concat, count]
    · exact fair.concat (by simp [entry, respond])
  | request =>
    by_cases late : second ≤ time - w.began
    · have ends : w.EndsAt second ⟨time, .request⟩ := .inr ⟨rfl, late⟩
      have fresh : r.windowAt time second = { r with started := time, count := 0 } :=
        if_pos (started ▸ late)
      rw [if_pos (show w.EndsAt second (entry second r ⟨time, .request⟩).call from ends)]
      refine ⟨⟨?_, ?_, ?_⟩, ?_⟩
      · simp [respond, tryAcquire_eq, fresh, entry]
      · simp [respond, tryAcquire_eq, fresh, entry, limitAfter, limit]
      · simp [respond, tryAcquire_eq, fresh, entry, grants]
      · refine (Window.fair_nil _ _).concat ?_
        simp [entry, respond, tryAcquire_eq, fresh, grants, limitAfter, limit]
    · have stays : ¬ w.EndsAt second ⟨time, .request⟩ := by simpa [Window.EndsAt] using late
      have same : r.windowAt time second = r := if_neg (started ▸ late)
      rw [if_neg (show ¬ w.EndsAt second (entry second r ⟨time, .request⟩).call from stays)]
      refine ⟨⟨?_, ?_, ?_⟩, ?_⟩
      · simp [respond, tryAcquire_eq, same, started]
      · rw [limitAfter_concat, limitAfter_of_not_set (by simp [entry])]
        simp [respond, tryAcquire_eq, same, limit]
      · simp [respond, tryAcquire_eq, same, entry, grants_concat, count]
      · refine fair.concat ?_
        simp [entry, respond, tryAcquire_eq, same, count, limit]

/-! ## The windows of a log -/

theorem map_call_log (second : Int) (r : RateLimiter) (calls : List Call) :
    (r.log second calls).map (·.call) = calls := by
  induction calls generalizing r with
  | nil => rfl
  | cons c calls ih => rw [log, List.map_cons, ih]

/-- A log of calls in the order of time is in that order too. -/
theorem InOrder.log (second : Int) {start : Int} {calls : List Call} (h : InOrder start calls)
    (r : RateLimiter) :
    (start :: (r.log second calls).map (·.call.time)).Pairwise (· ≤ ·) := by
  have times : (r.log second calls).map (·.call.time) =
      ((r.log second calls).map (·.call)).map (·.time) := by simp
  rw [times, map_call_log]
  exact h

namespace Window

/-- Nothing of the log is lost between the windows. -/
theorem flatMap_split (second : Int) (w : Window) (log : List Entry) :
    (w.split second log).flatMap (·.entries) = w.entries ++ log := by
  induction log generalizing w with
  | nil => simp [split]
  | cons e log ih =>
    unfold split
    split
    · next ends => rw [List.flatMap_cons, ih, next, if_pos ends, List.singleton_append]
    · next stays => rw [ih, next, if_neg stays, List.append_assoc, List.singleton_append]

theorem current_mem_split (second : Int) (w : Window) (log : List Entry) :
    w.current second log ∈ w.split second log := by
  induction log generalizing w with
  | nil => exact List.mem_singleton_self _
  | cons e log ih =>
    unfold split
    split
    · exact List.mem_cons_of_mem _ (ih _)
    · exact ih _

/-- The window that a log has come to is the end of the log. -/
theorem entries_current_suffix (second : Int) (w : Window) (log : List Entry) :
    (w.current second log).entries <:+ w.entries ++ log := by
  induction log generalizing w with
  | nil => simp [current]
  | cons e log ih =>
    refine (ih (w.next second e)).trans ?_
    unfold next
    split
    · exact List.suffix_append w.entries (e :: log)
    · simp

end Window

/-- **Runs.** However long the log goes on, all its windows are fair. -/
theorem Follows.fair_split {r : RateLimiter} {w : Window} (h : r.Follows w) (fair : w.Fair)
    (calls : List Call) : ∀ v ∈ w.split second (r.log second calls), v.Fair := by
  induction calls generalizing r w with
  | nil =>
    intro v hv
    exact List.mem_singleton.1 hv ▸ fair
  | cons c calls ih =>
    intro v hv
    obtain ⟨follows, fair'⟩ := h.next second fair c
    unfold log Window.split at hv
    split at hv
    · rcases List.mem_cons.1 hv with rfl | hv
      · exact fair
      · exact ih follows fair' v hv
    · exact ih follows fair' v hv

theorem Follows.after {r : RateLimiter} {w : Window} (h : r.Follows w) (fair : w.Fair)
    (calls : List Call) :
    (r.after second calls).Follows (w.current second (r.log second calls)) := by
  induction calls generalizing r w with
  | nil => exact h
  | cons c calls ih =>
    obtain ⟨follows, fair'⟩ := h.next second fair c
    exact ih follows fair'

/-! ## Windows in time -/

namespace Window

/-- The entries of the window are not before it, and its requests not a second after it began. -/
def Encloses (second : Int) (w : Window) : Prop :=
  ∀ e ∈ w.entries, w.began ≤ e.call.time ∧
    (e.call.ask = .request → e.call.time < w.began + second)

theorem Encloses.next {w : Window} (h : w.Encloses second) (pos : 0 < second) {e : Entry}
    (later : w.began ≤ e.call.time) : (w.next second e).Encloses second := by
  unfold Window.next
  by_cases ends : w.EndsAt second e.call
  · rw [if_pos ends]
    intro d hd
    obtain rfl : d = e := by simpa using hd
    exact ⟨Int.le_refl _, fun _ => Int.lt_add_of_pos_right _ pos⟩
  · rw [if_neg ends]
    intro d hd
    rcases List.mem_append.1 hd with hd | hd
    · exact h d hd
    · obtain rfl : d = e := by simpa using hd
      refine ⟨later, fun request => ?_⟩
      have : ¬ second ≤ d.call.time - w.began := fun late => ends (.inr ⟨request, late⟩)
      show d.call.time < w.began + second
      omega

/-- In a log in the order of time every window encloses its entries. -/
theorem Encloses.split {w : Window} (h : w.Encloses second) (pos : 0 < second) {log : List Entry}
    (ordered : (w.began :: log.map (·.call.time)).Pairwise (· ≤ ·)) :
    ∀ v ∈ w.split second log, v.Encloses second := by
  induction log generalizing w with
  | nil =>
    intro v hv
    exact List.mem_singleton.1 hv ▸ h
  | cons e log ih =>
    intro v hv
    rw [List.map_cons] at ordered
    have later : w.began ≤ e.call.time := List.rel_of_pairwise_cons ordered List.mem_cons_self
    have enclosed := h.next pos later
    unfold Window.split at hv
    split at hv
    · next ends =>
      rcases List.mem_cons.1 hv with rfl | hv
      · exact h
      · refine ih enclosed ?_ v hv
        rw [Window.next, if_pos ends]
        exact ordered.tail
    · next stays =>
      refine ih enclosed ?_ v hv
      rw [Window.next, if_neg stays]
      exact ordered.sublist (List.Sublist.cons_cons _ (List.sublist_cons_self _ _))

/-- Without resets a window begins a second or more after the one before it. -/
theorem pairwise_split (pos : 0 < second) (w : Window) {log : List Entry}
    (noReset : ∀ e ∈ log, e.call.ask ≠ .reset) :
    (w.split second log).Pairwise (fun v v' => v.began + second ≤ v'.began) ∧
      ∀ v ∈ w.split second log, w.began ≤ v.began := by
  induction log generalizing w with
  | nil => simp [split]
  | cons e log ih =>
    obtain ⟨apart, first⟩ := ih (w.next second e) fun d hd => noReset d (List.mem_cons_of_mem _ hd)
    unfold split
    by_cases ends : w.EndsAt second e.call
    · have late : second ≤ e.call.time - w.began :=
        (ends.resolve_left (noReset e List.mem_cons_self)).2
      have began : (w.next second e).began = e.call.time := by rw [next, if_pos ends]
      rw [if_pos ends]
      refine ⟨List.pairwise_cons.2 ⟨fun v hv => ?_, apart⟩, fun v hv => ?_⟩
      · have := first v hv
        omega
      · rcases List.mem_cons.1 hv with rfl | hv
        · exact Int.le_refl _
        · have := first v hv
          omega
    · have began : (w.next second e).began = w.began := by rw [next, if_neg ends]
      rw [if_neg ends]
      exact ⟨apart, began ▸ first⟩

/-- The window may have entries in the second after `first`. -/
def Meets (first second : Int) (w : Window) : Prop :=
  first - second < w.began ∧ w.began ≤ first + second

instance (first second : Int) : DecidablePred (Meets first second) := fun _ =>
  inferInstanceAs (Decidable (_ ∧ _))

/-- Three windows that meet one second would be two seconds long. -/
theorem length_le_of_meets {first : Int} {ws : List Window}
    (apart : ws.Pairwise fun v v' => v.began + second ≤ v'.began)
    (meets : ∀ w ∈ ws, w.Meets first second) : ws.length ≤ 2 := by
  match ws with
  | [] | [_] | [_, _] => simp
  | u :: v :: w :: _ =>
    have uv := List.rel_of_pairwise_cons apart List.mem_cons_self
    have vw := List.rel_of_pairwise_cons apart.tail List.mem_cons_self
    have hu := (meets u (by simp)).1
    have hw := (meets w (by simp)).2
    omega

/-- At most two windows that are a second apart meet any second. -/
theorem countP_meets_le {ws : List Window}
    (apart : ws.Pairwise fun v v' => v.began + second ≤ v'.began) (first : Int) :
    ws.countP (Meets first second) ≤ 2 := by
  rw [List.countP_eq_length_filter]
  exact length_le_of_meets (apart.filter _) fun w hw => of_decide_eq_true (List.mem_filter.1 hw).2

end Window

/-! ## A fixed limit -/

section Fixed

variable {limit : Nat} {l : List Entry} (fixed : ∀ e ∈ l, e.call.Keeps limit)

include fixed

theorem limitAfter_of_keeps : limitAfter limit l = limit := by
  induction l with
  | nil => rfl
  | cons e l ih =>
    have rest := ih fun d hd => fixed d (List.mem_cons_of_mem _ hd)
    rcases fixed e List.mem_cons_self with ask | ask <;> simpa [limitAfter, ask] using rest

theorem greatestLimit_of_keeps : greatestLimit limit l = limit := by
  induction l with
  | nil => rfl
  | cons e l ih =>
    have rest := ih fun d hd => fixed d (List.mem_cons_of_mem _ hd)
    rcases fixed e List.mem_cons_self with ask | ask <;> simpa [greatestLimit, ask] using rest

end Fixed

/-- Under a fixed limit every window begins with it. -/
theorem Window.limit_split {limit : Nat} {w : Window} (hw : w.limit = limit)
    (held : ∀ e ∈ w.entries, e.call.Keeps limit) {log : List Entry}
    (fixed : ∀ e ∈ log, e.call.Keeps limit) : ∀ v ∈ w.split second log, v.limit = limit := by
  induction log generalizing w with
  | nil =>
    intro v hv
    exact List.mem_singleton.1 hv ▸ hw
  | cons e log ih =>
    intro v hv
    have he := fixed e List.mem_cons_self
    have rest : ∀ d ∈ log, d.call.Keeps limit := fun d hd => fixed d (List.mem_cons_of_mem _ hd)
    unfold Window.split at hv
    split at hv
    · next ends =>
      rcases List.mem_cons.1 hv with rfl | hv
      · exact hw
      · refine ih ?_ ?_ rest v hv
        · rw [Window.next, if_pos ends, hw]
          exact limitAfter_of_keeps held
        · rw [Window.next, if_pos ends]
          simpa using he
    · next stays =>
      refine ih ?_ ?_ rest v hv
      · rw [Window.next, if_neg stays]
        exact hw
      · rw [Window.next, if_neg stays]
        intro d hd
        rcases List.mem_append.1 hd with hd | hd
        · exact held d hd
        · exact List.mem_singleton.1 hd ▸ he

/-! ## Grants in a second -/

theorem grantsWithin_le_grants (first last : Int) (l : List Entry) :
    grantsWithin first last l ≤ grants l :=
  List.countP_mono_left fun _ _ h => (Bool.and_eq_true_iff.1 h).1

/-- A window has grants in a second only if it meets the second. -/
theorem Window.grantsWithin_eq_zero {w : Window} (fair : w.Fair) (h : w.Encloses second)
    {first : Int} (away : ¬ w.Meets first second) :
    grantsWithin first (first + second) w.entries = 0 := by
  rw [grantsWithin, List.countP_eq_zero]
  intro e he counted
  obtain ⟨granted, within⟩ := Bool.and_eq_true_iff.1 counted
  have within := of_decide_eq_true within
  obtain ⟨before, after, hsplit⟩ := List.append_of_mem he
  have request := ((fair before e after hsplit).1 granted).1
  obtain ⟨began, ended⟩ := h e he
  have ended := ended request
  refine away ⟨?_, ?_⟩ <;> omega

/-- Where each window grants at most `most` and two of them at most meet a second, the second has
twice as many grants at most. -/
theorem grantsWithin_flatMap_le {first last : Int} {most : Nat} {ws : List Window}
    {meets : Window → Bool} (le : ∀ w ∈ ws, grants w.entries ≤ most)
    (away : ∀ w ∈ ws, meets w = false → grantsWithin first last w.entries = 0) :
    grantsWithin first last (ws.flatMap (·.entries)) ≤ ws.countP meets * most := by
  induction ws with
  | nil => exact Nat.zero_le _
  | cons w ws ih =>
    have rest := ih (fun v hv => le v (List.mem_cons_of_mem _ hv))
      fun v hv => away v (List.mem_cons_of_mem _ hv)
    have here : grantsWithin first last w.entries ≤ if meets w = true then most else 0 := by
      split
      · exact Nat.le_trans (grantsWithin_le_grants _ _ _) (le w List.mem_cons_self)
      · next h => exact Nat.le_of_eq (away w List.mem_cons_self (Bool.not_eq_true _ ▸ h))
    have split : grantsWithin first last (w.entries ++ ws.flatMap (·.entries)) = _ :=
      List.countP_append
    rw [List.flatMap_cons, split, List.countP_cons, Nat.add_mul]
    refine Nat.le_trans (Nat.add_le_add here rest) ?_
    split <;> simp only [Nat.one_mul, Nat.zero_mul] <;> omega

/-- Under a fixed limit and without resets, the windows that a second meets are two at most, and
each grants no more than the limit. -/
theorem grantsWithin_second_le {start : Int} {limit : Nat} {calls : List Call} (pos : 0 < second)
    (ordered : InOrder start calls) (fixed : ∀ c ∈ calls, c.Keeps limit) (first : Int) :
    grantsWithin first (first + second) ((new start limit).log second calls) ≤ 2 * limit := by
  let log := (new start limit).log second calls
  let ws := windows second start limit log
  have whole : ws.flatMap (·.entries) = log := Window.flatMap_split _ _ _
  have fair : ∀ w ∈ ws, w.Fair :=
    (follows_new start limit).fair_split (Window.fair_nil _ _) calls
  have logged : log.map (·.call) = calls := map_call_log _ _ _
  have keeps : ∀ e ∈ log, e.call.Keeps limit := fun e he =>
    fixed _ (logged ▸ List.mem_map_of_mem he)
  have noReset : ∀ e ∈ log, e.call.ask ≠ .reset := fun e he => by
    rcases keeps e he with ask | ask <;> simp [ask]
  have enclosed : ∀ w ∈ ws, w.Encloses second :=
    Window.Encloses.split (fun d hd => absurd hd List.not_mem_nil) pos
      (ordered.log second (new start limit))
  have within : ∀ w ∈ ws, grants w.entries ≤ limit := by
    intro w hw
    have began : w.limit = limit :=
      Window.limit_split rfl (fun e he => absurd he List.not_mem_nil) keeps w hw
    have held : ∀ e ∈ w.entries, e.call.Keeps limit := fun e he =>
      keeps e (whole ▸ List.mem_flatMap.2 ⟨w, hw, he⟩)
    have := (fair w hw).grants_le
    rwa [began, greatestLimit_of_keeps held] at this
  have apart : ws.Pairwise fun v v' => v.began + second ≤ v'.began :=
    (Window.pairwise_split pos _ noReset).1
  calc grantsWithin first (first + second) log
      = grantsWithin first (first + second) (ws.flatMap (·.entries)) := by rw [whole]
    _ ≤ ws.countP (Window.Meets first second) * limit :=
        grantsWithin_flatMap_le within fun w hw away =>
          Window.grantsWithin_eq_zero (fair w hw) (enclosed w hw) (of_decide_eq_false away)
    _ ≤ 2 * limit := Nat.mul_le_mul_right _ (Window.countP_meets_le apart first)

/-! ## Refusals -/

/-- A place in the log is a call after the calls before it. -/
theorem log_eq_append {r : RateLimiter} {calls : List Call} {before after : List Entry} {e : Entry}
    (h : r.log second calls = before ++ e :: after) :
    ∃ past, r.log second past = before ∧ e = entry second (r.after second past) e.call := by
  induction before generalizing r calls with
  | nil =>
    cases calls with
    | nil => cases h
    | cons c calls =>
      obtain ⟨rfl, -⟩ := List.cons.inj h
      exact ⟨[], rfl, rfl⟩
  | cons d before ih =>
    cases calls with
    | nil => cases h
    | cons c calls =>
      obtain ⟨rfl, rest⟩ := List.cons.inj h
      obtain ⟨past, rfl, he⟩ := ih rest
      exact ⟨c :: past, rfl, he⟩

theorem limit_after (r : RateLimiter) (calls : List Call) :
    (r.after second calls).limit = limitAfter r.limit (r.log second calls) := by
  induction calls generalizing r with
  | nil => rfl
  | cons c calls ih =>
    have one : (r.respond second c).2.limit = limitAfter r.limit [entry second r c] := by
      obtain ⟨time, ask⟩ := c
      cases ask with
      | request =>
        simp only [respond, tryAcquire_eq, windowAt]
        split <;> rfl
      | reset | setLimit new => rfl
    show ((r.respond second c).2.after second calls).limit = _
    rw [ih, one]
    rfl

/-- Where a request is refused, as many requests as the limit allows were granted less than a second
before. -/
theorem le_grantsLaterThan {start : Int} {limit : Nat} {calls : List Call}
    (pos : 0 < second) (ordered : InOrder start calls) {before after : List Entry} {e : Entry}
    (h : (new start limit).log second calls = before ++ e :: after)
    (request : e.call.ask = .request) (refused : e.granted = false) :
    limitAfter limit before ≤ grantsLaterThan (e.call.time - second) before := by
  obtain ⟨past, rfl, he⟩ := log_eq_append h
  let r := (new start limit).after second past
  let first : Window := ⟨start, limit, []⟩
  let w := first.current second ((new start limit).log second past)
  have follows : r.Follows w := (follows_new start limit).after (Window.fair_nil _ _) past
  have full : ¬ (r.windowAt e.call.time second).count < (r.windowAt e.call.time second).limit := by
    rw [he] at refused
    simpa [entry, respond, request, tryAcquire_eq] using refused
  rw [← show r.limit = limitAfter limit _ from limit_after _ past]
  by_cases late : second ≤ e.call.time - r.started
  · -- a window that begins with the request is full only if the limit is zero
    have fresh : r.windowAt e.call.time second = { r with started := e.call.time, count := 0 } :=
      if_pos late
    rw [fresh] at full
    exact Nat.le_trans (Nat.le_of_not_lt full) (Nat.zero_le _)
  · have same : r.windowAt e.call.time second = r := if_neg late
    rw [same] at full
    have sorted := ordered.log second (new start limit)
    rw [h, List.map_append] at sorted
    have sorted := sorted.sublist (List.Sublist.cons_cons _ (List.sublist_append_left _ _))
    have enclosed : w.Encloses second :=
      Window.Encloses.split (fun d hd => absurd hd List.not_mem_nil) pos sorted w
        (Window.current_mem_split second first _)
    have recent : grants w.entries = grantsLaterThan (e.call.time - second) w.entries := by
      refine List.countP_congr fun d hd => ?_
      have began := (enclosed d hd).1
      have started := follows.started
      have : e.call.time - second < d.call.time := by omega
      simp [this]
    calc r.limit ≤ r.count := Nat.le_of_not_lt full
      _ = grantsLaterThan (e.call.time - second) w.entries := follows.count.trans recent
      _ ≤ _ := (Window.entries_current_suffix second first _).sublist.countP_le

/-! ## The count -/

/-- A limiter whose limits can be given never counts further than it can. -/
theorem count_after_le {r : RateLimiter} (limit : r.limit ≤ maxLimit) (count : r.count ≤ maxLimit)
    {calls : List Call} (fits : ∀ c ∈ calls, c.Fits) : (r.after second calls).count ≤ maxLimit := by
  induction calls generalizing r with
  | nil => exact count
  | cons c calls ih =>
    have rest : ∀ d ∈ calls, d.Fits := fun d hd => fits d (List.mem_cons_of_mem _ hd)
    have fits := fits c List.mem_cons_self
    obtain ⟨time, ask⟩ := c
    cases ask with
    | reset => exact ih (r := r.reset time) limit (Nat.zero_le _) rest
    | setLimit new => exact ih (r := r.setLimit new) (fits new rfl) count rest
    | request =>
      have window : (r.windowAt time second).limit = r.limit ∧
          (r.windowAt time second).count ≤ maxLimit := by
        unfold windowAt
        split
        · exact ⟨rfl, Nat.zero_le _⟩
        · exact ⟨rfl, count⟩
      refine ih (r := (r.tryAcquire time second).2) ?_ ?_ rest
      · simpa [tryAcquire_eq, window.1] using limit
      · simp only [tryAcquire_eq]
        split <;> omega

/-! ## All together -/

/-- **Windows.** Whatever is asked of a limiter in the order of time, its log falls into windows in
each of which a request is granted just if fewer than the limit then in force were granted before
it, so that a window grants no more than the greatest limit in it and the count never leaves its
range. Under a fixed limit and without resets every second has at most twice as many grants; and a
refusal tells that as many requests as the limit allows were granted less than a second before. -/
theorem grants_by_window (second : Int) (pos : 0 < second) (start : Int) (limit : Nat)
    (calls : List Call) (ordered : InOrder start calls) :
    let log := (new start limit).log second calls
    let ws := windows second start limit log
    (log.map (·.call) = calls ∧ ws.flatMap (·.entries) = log) ∧
      (∀ w ∈ ws, w.Fair ∧ grants w.entries ≤ greatestLimit w.limit w.entries) ∧
      (limit ≤ maxLimit → (∀ c ∈ calls, c.Fits) →
        ((new start limit).after second calls).count ≤ maxLimit) ∧
      ((∀ c ∈ calls, c.Keeps limit) →
        ∀ first, grantsWithin first (first + second) log ≤ 2 * limit) ∧
      ∀ before e after, log = before ++ e :: after → e.call.ask = .request → e.granted = false →
        limitAfter limit before ≤ grantsLaterThan (e.call.time - second) before := by
  intro log ws
  have logged : log.map (·.call) = calls := map_call_log _ _ _
  have whole : ws.flatMap (·.entries) = log := Window.flatMap_split _ _ _
  have fair : ∀ w ∈ ws, w.Fair :=
    (follows_new start limit).fair_split (Window.fair_nil _ _) calls
  refine ⟨⟨logged, whole⟩, ?_, ?_, ?_, ?_⟩
  · exact fun w hw => ⟨fair w hw, (fair w hw).grants_le⟩
  · exact fun fits => count_after_le fits (Nat.zero_le _)
  · exact grantsWithin_second_le pos ordered
  · exact fun before e after h => le_grantsLaterThan pos ordered h

/-- Requests at the end of one window and the beginning of the next make the bound of a second
sharp. -/
theorem grants_by_window_sharp :
    let calls : List Call := [900, 950, 999, 1000, 1001, 1002].map (⟨·, .request⟩)
    let log := (new 0 2).log 1000 calls
    InOrder 0 calls ∧ (∀ c ∈ calls, c.Keeps 2) ∧
      log.map (·.granted) = [true, true, false, true, true, false] ∧
      grantsWithin 900 (900 + 1000) log = 4 ∧ grantsWithin 900 (900 + 1000) log ≤ 2 * 2 ∧
      limitAfter 2 (log.take 5) ≤ grantsLaterThan (1002 - 1000) (log.take 5) := by
  intro calls log
  have ordered : InOrder 0 calls := by decide
  have fixed : ∀ c ∈ calls, c.Keeps 2 := by decide
  obtain ⟨_, _, _, second, refusal⟩ :=
    grants_by_window 1000 (by decide) 0 2 calls ordered
  exact ⟨ordered, fixed, by decide, by decide, second fixed 900,
    refusal (log.take 5) ⟨⟨1002, .request⟩, false⟩ [] (by decide) rfl rfl⟩

end HostWatch.RateLimiter
