import HostWatch.Proofs.Daemon.Reload

/-!
# Reloads that overlap

`limiter_left_behind`: two reloads that overlap may both succeed and leave the limiter with a limit
that is not the one in force. `limiter_of_last`: the limit is that of the reload that told the
limiter last, the settings in force are those of the reload that published last, and so the limiter
follows the settings just if these two read the same limit, for instance when they are one.

Publishing settings and telling the limiter are both deeds that a reload does once (`Lawful`), and
what the desk shows is what the last doer of each has left there (`Left.step`, `left_run`).
-/

namespace HostWatch

open Reload

namespace Reloads

variable {due : Reload → Bool}

theorem doers_append (s : Reloads) (l l' : List Event) :
    s.doers due (l ++ l') = s.doers due l ++ (s.run l).doers due l' := by
  induction l generalizing s with
  | nil => rfl
  | cons e l ih => simp only [List.cons_append, doers, ih, List.append_assoc, run, List.foldl_cons]

theorem getLast?_doers_concat (s : Reloads) (l : List Event) (e : Event) :
    (s.doers due (l ++ [e])).getLast? = ((s.run l).doer? due e).or (s.doers due l).getLast? := by
  rw [doers_append]
  cases h : (s.run l).doer? due e <;> simp [doers, h]

end Reloads

namespace Reload.Deed

/-- A reload that is due for the deed does it with its next step, and no other step does or undoes
it. -/
structure Lawful (d : Reload.Deed) : Prop where
  does : ∀ content desk r, d.due r = true →
    ∃ s, d.done? (step content desk r).1 = some s ∧ d.Shown (step content desk r).2 s
  keeps : ∀ content desk r, d.due r = false →
    d.done? (step content desk r).1 = d.done? r ∧
      ∀ s, d.Shown desk s → d.Shown (step content desk r).2 s

end Reload.Deed

theorem Reload.publishing_lawful : publishing.Lawful where
  does content desk r due := by
    cases r with
    | read level s => exact ⟨s, rfl, rfl⟩
    | begun | seen | published | limited | ended => cases due
  keeps content desk r due := by
    cases r with
    | read => cases due
    | begun | published | ended => exact ⟨rfl, fun _ => id⟩
    | seen level =>
      rw [step_seen]
      cases desk.state.settings.fresh content <;> exact ⟨rfl, fun _ => id⟩
    | limited level s =>
      obtain ⟨log, ended⟩ := step_limited content desk level s
      rw [ended]
      exact ⟨rfl, fun _ => id⟩

theorem Reload.limiting_lawful : limiting.Lawful where
  does content desk r due := by
    cases r with
    | published level s => exact ⟨s, rfl, rfl⟩
    | begun | seen | read | limited | ended => cases due
  keeps content desk r due := by
    cases r with
    | published => cases due
    | begun | read | ended => exact ⟨rfl, fun _ => id⟩
    | seen level =>
      rw [step_seen]
      cases desk.state.settings.fresh content <;> exact ⟨rfl, fun _ => id⟩
    | limited level s =>
      obtain ⟨log, ended⟩ := step_limited content desk level s
      rw [ended]
      exact ⟨rfl, fun _ => id⟩

/-! ## The last doer -/

/-- What the desk shows is what the last doer of the deed has left there. -/
structure Reloads.Left (d : Reload.Deed) (s : Reloads) (last : Option Nat) : Prop where
  shown : ∀ i ∈ last, ∃ r t, s.calls[i]? = some r ∧ d.done? r = some t ∧ d.Shown s.desk t
  nobody : last = none → ∀ r ∈ s.calls, d.done? r = none

namespace Reloads

theorem step_advance {s : Reloads} {i : Nat} {r : Reload} (h : s.calls[i]? = some r) :
    s.step (.advance i) =
      { s with
        desk := (r.step s.content s.desk).2
        calls := s.calls.set i (r.step s.content s.desk).1 } := by
  simp only [Reloads.step, h]

/-- **Step.** The next event leaves it so, its doer being the last if it has one. -/
theorem Left.step {d : Reload.Deed} (lawful : d.Lawful) {s : Reloads} {last : Option Nat}
    (h : s.Left d last) (e : Event) : (s.step e).Left d ((s.doer? d.due e).or last) := by
  cases e with
  | overwrite content => exact ⟨h.shown, h.nobody⟩
  | advance i =>
    cases at_i : s.calls[i]? with
    | none => simpa [Reloads.step, doer?, at_i] using h
    | some r =>
      have i_lt : i < s.calls.length := (List.getElem?_eq_some_iff.1 at_i).1
      rw [step_advance at_i]
      simp only [doer?, at_i, Option.any_some]
      cases due : d.due r with
      | true =>
        obtain ⟨t, done, shown⟩ := lawful.does s.content s.desk r due
        refine ⟨?_, fun none => by simp at none⟩
        intro j mem
        obtain rfl : i = j := by simpa using mem
        exact ⟨_, t, List.getElem?_set_self i_lt, done, shown⟩
      | false =>
        obtain ⟨same, keeps⟩ := lawful.keeps s.content s.desk r due
        refine ⟨?_, ?_⟩
        · intro j mem
          obtain ⟨q, t, at_j, done, shown⟩ := h.shown j (by simpa using mem)
          by_cases other : i = j
          · subst other
            obtain rfl : r = q := by simpa [at_i] using at_j
            exact ⟨_, t, List.getElem?_set_self i_lt, same.trans done, keeps t shown⟩
          · exact ⟨q, t, by rw [List.getElem?_set_ne other, at_j], done, keeps t shown⟩
        · intro none q mem
          have nobody := h.nobody (by simpa using none)
          rcases List.mem_or_eq_of_mem_set mem with before | rfl
          · exact nobody q before
          · exact same.trans (nobody r (List.mem_of_getElem? at_i))

/-- **Runs.** So it is however many events there are. -/
theorem left_run {d : Reload.Deed} (lawful : d.Lawful) {s : Reloads}
    (fresh : ∀ r ∈ s.calls, d.done? r = none) (events : List Event) :
    (s.run events).Left d (s.doers d.due events).getLast? := by
  induction events using List.reverseRecOn with
  | nil => exact ⟨fun _ mem => by simp [doers] at mem, fun _ => fresh⟩
  | append_singleton l e ih =>
    rw [getLast?_doers_concat, run, List.foldl_append]
    exact ih.step lawful e

/-- When reloads have succeeded, somebody was the last to do what each of them does. -/
theorem Left.exists_last {d : Reload.Deed} {s : Reloads} {last : Option Nat} (h : s.Left d last)
    (done : ∀ r t, r = ended (.ok t) → d.done? r = some t) (some_call : s.calls ≠ [])
    (succeeded : ∀ r ∈ s.calls, r.Succeeded) :
    ∃ i t, last = some i ∧ s.calls[i]? = some (.ended (.ok t)) ∧ d.Shown s.desk t := by
  have is_ended : ∀ r ∈ s.calls, ∃ t, r = ended (.ok t) := by
    intro r mem
    have := succeeded r mem
    unfold Succeeded at this
    split at this
    · exact ⟨_, rfl⟩
    · exact this.elim
  cases last with
  | none =>
    obtain ⟨r, mem⟩ := List.exists_mem_of_ne_nil _ some_call
    obtain ⟨t, ok⟩ := is_ended r mem
    have := (done r t ok).symm.trans (h.nobody rfl r mem)
    cases this
  | some i =>
    obtain ⟨r, t, at_i, did, shown⟩ := h.shown i rfl
    obtain ⟨u, rfl⟩ := is_ended r (List.mem_of_getElem? at_i)
    obtain rfl : u = t := Option.some.inj ((done _ u rfl).symm.trans did)
    exact ⟨i, u, rfl, at_i, shown⟩

/-! ## The limiter after reloads -/

/-- Any number of reloads that have all succeeded, however their steps and changes of the file were
interleaved: the settings in force are those of the reload that published last, the limit is that of
the reload that told the limiter last, and the limiter follows the settings in force just if both
read the same limit, which they did if they are one. -/
theorem limiter_of_last (start : Reloads) (begun : ∀ r ∈ start.calls, r = .begun)
    (events : List Event) (some_call : (start.run events).calls ≠ [])
    (succeeded : ∀ r ∈ (start.run events).calls, r.Succeeded) :
    let s := start.run events
    ∃ publisher teller published told,
      (start.doers publishing.due events).getLast? = some publisher ∧
      (start.doers limiting.due events).getLast? = some teller ∧
      s.calls[publisher]? = some (.ended (.ok published)) ∧
      s.calls[teller]? = some (.ended (.ok told)) ∧
      s.desk.state.settings.current = published ∧
      s.desk.limiter.limit = told.server.requestsPerSecond ∧
      (s.desk.LimiterFollows ↔
        told.server.requestsPerSecond = published.server.requestsPerSecond) ∧
      (publisher = teller → s.desk.LimiterFollows) := by
  intro s
  obtain ⟨i, p, last_i, at_i, shown_i⟩ :=
    (left_run publishing_lawful (fun r mem => by rw [begun r mem]; rfl) events).exists_last
      (fun _ _ ok => by rw [ok]; rfl) some_call succeeded
  obtain ⟨j, l, last_j, at_j, shown_j⟩ :=
    (left_run limiting_lawful (fun r mem => by rw [begun r mem]; rfl) events).exists_last
      (fun _ _ ok => by rw [ok]; rfl) some_call succeeded
  have follows : s.desk.LimiterFollows ↔
      l.server.requestsPerSecond = p.server.requestsPerSecond := by
    have limit : s.desk.limiter.limit = l.server.requestsPerSecond := shown_j
    have current : s.desk.state.settings.current = p := shown_i
    rw [DaemonDesk.LimiterFollows, limit, current]
  refine ⟨i, j, p, l, last_i, last_j, at_i, at_j, shown_i, shown_j, follows, ?_⟩
  rintro rfl
  obtain rfl : p = l := by simpa [at_i] using at_j
  exact follows.2 rfl

/-- Two reloads of a file that is overwritten after the first has read it. -/
def pair : Reloads := ⟨.standard, fileSetting "5" "info", [.begun, .begun]⟩

/-- The second reload reads the new limit. -/
def readBoth : List Event :=
  [.advance 0, .advance 0, .overwrite (fileSetting "7" "info"), .advance 1, .advance 1]

/-- Both tell the limiter in the order in which they have published. -/
theorem limiter_of_last_in_order :
    let events :=
      readBoth ++ [.advance 0, .advance 1, .advance 0, .advance 1, .advance 1, .advance 0]
    let s := pair.run events
    (∀ r ∈ pair.calls, r = .begun) ∧ s.calls ≠ [] ∧ (∀ r ∈ s.calls, r.Succeeded) ∧
      s.desk.limiter.limit = 7 ∧ s.desk.LimiterFollows := by
  intro events s
  have begun : ∀ r ∈ pair.calls, r = .begun := by simp [pair]
  obtain ⟨two, succeeded, first, second, limit⟩ :
      s.calls.length = 1 + 1 ∧ (∀ r ∈ s.calls, r.Succeeded) ∧
        (pair.doers publishing.due events).getLast? = some 1 ∧
        (pair.doers limiting.due events).getLast? = some 1 ∧ s.desk.limiter.limit = 7 := by
    decide +kernel
  have some_call : s.calls ≠ [] := List.ne_nil_of_length_eq_add_one two
  obtain ⟨publisher, teller, _, _, last, last', -, -, -, -, -, same⟩ :=
    limiter_of_last pair begun events some_call succeeded
  obtain rfl : 1 = publisher := Option.some.inj (first.symm.trans last)
  obtain rfl : 1 = teller := Option.some.inj (second.symm.trans last')
  exact ⟨begun, some_call, succeeded, limit, same rfl⟩

/-- The first to publish tells the limiter last: both reloads succeed, the settings in force allow
seven requests, and the limiter grants five. -/
theorem limiter_left_behind :
    let s := pair.run (readBoth ++
      [.advance 0, .advance 1, .advance 1, .advance 0, .advance 0, .advance 1])
    pair.desk.LimiterFollows ∧ (∀ r ∈ s.calls, r.Succeeded) ∧
      s.desk.state.settings.current.server.requestsPerSecond = 7 ∧ s.desk.limiter.limit = 5 ∧
      ¬ s.desk.LimiterFollows := by
  decide +kernel

end Reloads

end HostWatch
