import HostWatch.Monitor.Cycle
import HostWatch.Settings.Objection

/-!
# Cycles that complete

`cycles_complete_iff`: how many cycles a monitor completes hangs on the retention of alerts alone.
Settings are accepted with any retention, but a cycle that deletes old alerts goes that many days
back, and breaks off if no time is left there.

1. Readings that fit can be summed (`measured_ok`), and so can all that later cycles compare with.
2. Raising alerts disturbs neither the count of cycles nor the readings (`Keeps`).
3. The sweep breaks off just where its cutoff is out of range (`sweep_eq`).
4. By induction on the cycles, a run completes if every sweep in it is in range.
-/

namespace HostWatch

/-! ## Measuring -/

/-- The sums of all counters read can be held. -/
structure Readings.Fits (r : Readings) : Prop where
  cpu : ∀ c, r.cpu = .ok c → c.Fits
  cpuAgain : ∀ c, r.cpuAgain = some (.ok c) → c.Fits

/-- The sums of the counters that the next reading is compared with can be held. -/
def Monitor.Fits (m : Monitor) : Prop := ∀ c ∈ m.earlierCpu, c.Fits

theorem Readings.Fits.cpuSpan {r : Readings} (h : r.Fits) {earlier : Option CpuCounters}
    (hearlier : ∀ c ∈ earlier, c.Fits) : ∀ s ∈ r.cpuSpan earlier, s.1.Fits ∧ s.2.Fits := by
  intro s hs
  unfold Readings.cpuSpan at hs
  split at hs
  · cases hs
  · next now before cpu =>
    cases hs
    exact ⟨hearlier before rfl, h.cpu now cpu⟩
  · next now later cpu again =>
    cases hs
    exact ⟨h.cpu now cpu, h.cpuAgain later again⟩
  · next now cpu _ =>
    cases hs
    exact ⟨h.cpu now cpu, h.cpu now cpu⟩

theorem Monitor.eq_of_measured {m m' : Monitor} {now : Int} {r : Readings} {s : Snapshot}
    (h : m.measured now r = .ok (m', s)) :
    m' = { m with
      cycles := m.cycles + 1
      earlierCpu := ((r.cpuSpan m.earlierCpu).map (·.2)).or m.earlierCpu } ∧
    s = { m.snapshot.next m.earlierCpu r with cycle := m.cycles + 1, timestamp := now } := by
  simp only [Monitor.measured] at h
  split at h
  · cases h
    exact ⟨rfl, rfl⟩
  · cases h

theorem Monitor.cycles_of_measured {m m' : Monitor} {now : Int} {r : Readings} {s : Snapshot}
    (h : m.measured now r = .ok (m', s)) : m'.cycles = m.cycles + 1 :=
  congrArg (·.cycles) (eq_of_measured h).1

/-- Readings that fit are summed, and the next ones are compared with some of them. -/
theorem Monitor.measured_ok {m : Monitor} (fits : m.Fits) {r : Readings} (hr : r.Fits)
    (now : Int) : ∃ m' s, m.measured now r = .ok (m', s) ∧ m'.cycles = m.cycles + 1 ∧ m'.Fits := by
  have span := hr.cpuSpan fits
  unfold Monitor.measured
  refine ⟨_, _, if_pos span, rfl, ?_⟩
  intro c hc
  show c.Fits
  have hc : ((r.cpuSpan m.earlierCpu).map (·.2)).or m.earlierCpu = some c := hc
  cases hs : r.cpuSpan m.earlierCpu with
  | none =>
    rw [hs] at hc
    exact fits c hc
  | some s =>
    rw [hs] at hc
    cases hc
    exact (span s hs).2

/-! ## Raising -/

theorem Store.name_createFresh (s : Store) (ids : IdSupply) (a : Alert) :
    (s.createFresh ids a).2.2.name = ids.name := by
  unfold createFresh
  split
  · split <;> rfl
  · rfl

namespace Watch

/-- What the course of the cycles depends on is the same in both. -/
structure Keeps (w w' : Watch) : Prop where
  cycles : w'.monitor.cycles = w.monitor.cycles
  earlierCpu : w'.monitor.earlierCpu = w.monitor.earlierCpu
  storeHeld : w'.storeHeld = w.storeHeld
  idNames : w'.ids.name = w.ids.name

theorem Keeps.refl (w : Watch) : w.Keeps w := ⟨rfl, rfl, rfl, rfl⟩

theorem Keeps.trans {w₁ w₂ w₃ : Watch} (h : w₁.Keeps w₂) (h' : w₂.Keeps w₃) : w₁.Keeps w₃ :=
  ⟨h'.cycles.trans h.cycles, h'.earlierCpu.trans h.earlierCpu, h'.storeHeld.trans h.storeHeld,
    h'.idNames.trans h.idNames⟩

theorem keeps_report (settings : Settings) (now : Int) (w : Watch) (f : Finding) :
    w.Keeps (w.report settings now f) := by
  have names := w.store.name_createFresh w.ids (f.toAlert now)
  unfold report Monitor.enrich
  split
  · next result =>
    rw [result] at names
    exact ⟨rfl, rfl, rfl, names⟩
  · next result =>
    rw [result] at names
    split <;> exact ⟨rfl, rfl, rfl, names⟩

theorem keeps_raise (settings : Settings) (now : Int) (w : Watch) (f : Finding) :
    w.Keeps (w.raise settings now f) := by
  unfold raise
  split
  · exact .refl w
  · exact keeps_report settings now w f

theorem keeps_raiseAll (settings : Settings) (now : Int) (w : Watch) (fs : List Finding) :
    w.Keeps (w.raiseAll settings now fs) := by
  induction fs generalizing w with
  | nil => exact .refl w
  | cons f fs ih => exact (keeps_raise settings now w f).trans (ih _)

/-! ## The sweep -/

/-- A sweep is due after so many cycles. -/
def SweepDue (settings : Settings) (cycles : Nat) : Prop :=
  0 < settings.alerts.retentionDays ∧ cycles % sweepEvery = 0

instance (settings : Settings) (cycles : Nat) : Decidable (SweepDue settings cycles) :=
  inferInstanceAs (Decidable (_ ∧ _))

/-- The moment before which a sweep deletes. -/
def cutoff (settings : Settings) (now : Int) : Int := now - settings.alerts.retentionDays * 86400

/-- A sweep that is due deletes before its cutoff if there is such a time. -/
theorem sweep_eq (settings : Settings) (now : Int) (w : Watch) :
    w.sweep settings now =
      if SweepDue settings w.monitor.cycles then
        if earliestTime ≤ cutoff settings now then
          .ok { w with store := (w.store.purgeDismissedBefore (cutoff settings now)).2 }
        else .error .cutoffOutOfRange
      else .ok w := by
  unfold sweep
  by_cases due : SweepDue settings w.monitor.cycles
  · rw [if_pos due]
    unfold SweepDue at due
    rw [if_pos due]
    unfold daysBefore? cutoff
    by_cases time : earliestTime ≤ now - settings.alerts.retentionDays * 86400
    · rw [if_pos time]
      simp only [time, if_true]
    · rw [if_neg time]
      simp only [time, if_false]
  · rw [if_neg due]
    exact if_neg due

/-- The cutoff of the sweep, if one is due after so many cycles, is a time. -/
def InRange (settings : Settings) (now : Int) (cycles : Nat) : Prop :=
  SweepDue settings cycles → earliestTime ≤ cutoff settings now

theorem keeps_conclude {settings : Settings} {now : Int} {s : Snapshot} {w : Watch}
    (h : InRange settings now w.monitor.cycles) :
    ∃ w', w.conclude settings now s = .ok w' ∧ w.Keeps w' := by
  unfold conclude
  by_cases held : w.storeHeld = true
  · rw [if_pos held, sweep_eq]
    by_cases due : SweepDue settings w.monitor.cycles
    · rw [if_pos due, if_pos (h due)]
      exact ⟨_, rfl, rfl, rfl, rfl, rfl⟩
    · rw [if_neg due]
      exact ⟨_, rfl, rfl, rfl, rfl, rfl⟩
  · rw [if_neg held]
    exact ⟨_, rfl, rfl, rfl, rfl, rfl⟩

theorem conclude_error {settings : Settings} {now : Int} {s : Snapshot} {w : Watch}
    (held : w.storeHeld = true) (h : ¬ InRange settings now w.monitor.cycles) :
    w.conclude settings now s = .error .cutoffOutOfRange := by
  unfold InRange at h
  rw [Classical.not_imp] at h
  unfold conclude
  rw [if_pos held, sweep_eq, if_pos h.1, if_neg h.2]
  rfl

/-! ## One cycle -/

section Cycle

variable {settings : Settings} {now : Int} {r : Readings} {w : Watch}

/-- A cycle in range completes, and the next one finds what it needs. -/
theorem cycleWith_ok (fits : w.monitor.Fits) (hr : r.Fits)
    (h : InRange settings now (w.monitor.cycles + 1)) :
    ∃ w', w.cycleWith settings now r = .ok w' ∧ w'.monitor.cycles = w.monitor.cycles + 1 ∧
      w'.monitor.Fits ∧ w'.storeHeld = w.storeHeld := by
  obtain ⟨m, s, measured, cycles, fits'⟩ := Monitor.measured_ok fits hr now
  unfold cycleWith
  rw [measured]
  let w₁ := { w with monitor := m.reap }
  have kept := keeps_raiseAll settings now w₁ (w₁.findings settings s)
  have range : InRange settings now (w₁.raiseAll settings now
      (w₁.findings settings s)).monitor.cycles := by
    rw [kept.cycles]
    show InRange settings now m.cycles
    rwa [cycles]
  obtain ⟨w', concluded, kept'⟩ := keeps_conclude (s := s) range
  have keeps := kept.trans kept'
  refine ⟨w', concluded, keeps.cycles.trans cycles, fun c hc => ?_, keeps.storeHeld⟩
  rw [keeps.earlierCpu] at hc
  exact fits' c hc

/-- A cycle out of range breaks off in its sweep. -/
theorem cycleWith_error (held : w.storeHeld = true) (fits : w.monitor.Fits) (hr : r.Fits)
    (h : ¬ InRange settings now (w.monitor.cycles + 1)) :
    w.cycleWith settings now r = .error .cutoffOutOfRange := by
  obtain ⟨m, s, measured, cycles, _⟩ := Monitor.measured_ok fits hr now
  unfold cycleWith
  rw [measured]
  let w₁ := { w with monitor := m.reap }
  have kept := keeps_raiseAll settings now w₁ (w₁.findings settings s)
  apply conclude_error (kept.storeHeld.trans held)
  rw [kept.cycles]
  show ¬ InRange settings now m.cycles
  rwa [cycles]

end Cycle

/-! ## Many cycles -/

/-- Cycles one after another, each at its moment and with its readings. -/
def cyclesWith (settings : Settings) (w : Watch) (rounds : List (Int × Readings)) :
    Except CycleFault Watch :=
  rounds.foldlM (fun w round => w.cycleWith settings round.1 round.2) w

theorem cyclesWith_cons (settings : Settings) (w : Watch) (round : Int × Readings)
    (rounds : List (Int × Readings)) :
    w.cyclesWith settings (round :: rounds) =
      w.cycleWith settings round.1 round.2 >>= fun w => w.cyclesWith settings rounds := rfl

/-- The sweeps of some cycles are in range if that of the first one is and those of the rest are. -/
theorem inRange_cons {settings : Settings} {round : Int × Readings}
    {rounds : List (Int × Readings)} {cycles : Nat} :
    (∀ i (h : i < (round :: rounds).length),
        InRange settings (round :: rounds)[i].1 (cycles + i + 1)) ↔
      InRange settings round.1 (cycles + 1) ∧
        ∀ i (h : i < rounds.length), InRange settings rounds[i].1 (cycles + 1 + i + 1) := by
  have shift (i : Nat) : cycles + (i + 1) + 1 = cycles + 1 + i + 1 := by omega
  constructor
  · intro all
    refine ⟨all 0 (Nat.zero_lt_succ _), fun i h => ?_⟩
    rw [← shift]
    exact all (i + 1) (Nat.succ_lt_succ h)
  · rintro ⟨first, rest⟩ i h
    cases i with
    | zero => exact first
    | succ i =>
      rw [shift]
      exact rest i (Nat.lt_of_succ_lt_succ h)

/-- **Runs.** Cycles complete if every sweep that is due in them is in range. -/
theorem cyclesWith_ok_iff {settings : Settings} {w : Watch} {rounds : List (Int × Readings)}
    (held : w.storeHeld = true) (fits : w.monitor.Fits) (hr : ∀ round ∈ rounds, round.2.Fits) :
    (∃ w', w.cyclesWith settings rounds = .ok w') ↔
      ∀ i (h : i < rounds.length), InRange settings rounds[i].1 (w.monitor.cycles + i + 1) := by
  -- each cycle leaves the next one with readings that fit and a count one higher
  induction rounds generalizing w with
  | nil => exact iff_of_true ⟨w, rfl⟩ fun i h => absurd h (Nat.not_lt_zero _)
  | cons round rounds ih =>
    have first := hr round List.mem_cons_self
    have rest : ∀ r ∈ rounds, r.2.Fits := fun r hmem => hr r (List.mem_cons_of_mem _ hmem)
    rw [cyclesWith_cons, inRange_cons]
    by_cases range : InRange settings round.1 (w.monitor.cycles + 1)
    · obtain ⟨w', ok, cycles, fits', held'⟩ := cycleWith_ok fits first range
      have later := ih (held'.trans held) fits' rest
      rw [cycles] at later
      rw [ok]
      exact later.trans (and_iff_right range).symm
    · rw [cycleWith_error held fits first range]
      exact iff_of_false (fun ⟨_, ok⟩ => nomatch ok) fun all => range all.1

/-! ## Retention -/

/-- The longest retention, in days, that reaches back to a time from any moment since the epoch. -/
def longestRetention : Nat := 96465292

theorem inRange_of_le {settings : Settings}
    (h : settings.alerts.retentionDays ≤ longestRetention) {now : Int} (epoch : 0 ≤ now)
    (cycles : Nat) : InRange settings now cycles := by
  intro _
  unfold cutoff earliestTime
  unfold longestRetention at h
  omega

theorem not_inRange_of_lt {settings : Settings}
    (h : longestRetention < settings.alerts.retentionDays) {cycles : Nat}
    (due : cycles % sweepEvery = 0) : ¬ InRange settings 0 cycles := by
  intro range
  have le := range ⟨by omega, due⟩
  unfold cutoff earliestTime at le
  unfold longestRetention at h
  omega

/-- A monitor that has not completed a cycle, on a store that is held. -/
structure IsNew (w : Watch) : Prop where
  cycles : w.monitor.cycles = 0
  earlierCpu : w.monitor.earlierCpu = none
  storeHeld : w.storeHeld = true

theorem IsNew.fits {w : Watch} (h : w.IsNew) : w.monitor.Fits := by
  intro c hc
  rw [h.earlierCpu] at hc
  cases hc

/-- Readings in which every measurement failed. -/
def unreadable : Readings where
  cpu := .error (.unavailable "cpu")
  cpuAgain := none
  cores := 1
  memory := .error (.unavailable "memory")
  disk := .error (.unavailable "disk")
  load := .error (.unavailable "load")
  updates := none

theorem unreadable_fits : unreadable.Fits := ⟨nofun, nofun⟩

/-- A new monitor on an empty store. -/
def newcomer : Watch := { monitor := {}, store := .inMemory, ids := { name := toString } }

theorem newcomer_isNew : newcomer.IsNew := ⟨rfl, rfl, rfl⟩

/-- So many cycles at one moment, in which every measurement fails. -/
def blindly (cycles : Nat) (now : Int) : List (Int × Readings) :=
  List.replicate cycles (now, unreadable)

theorem of_mem_blindly {cycles : Nat} {now : Int} {round : Int × Readings}
    (h : round ∈ blindly cycles now) : round.1 = now ∧ round.2.Fits := by
  rw [List.eq_of_mem_replicate h]
  exact ⟨rfl, unreadable_fits⟩

/-- A new monitor with too long a retention breaks off in its first sweep at the epoch. -/
theorem not_ok_blindly {settings : Settings}
    (h : longestRetention < settings.alerts.retentionDays) :
    ¬ ∃ w', newcomer.cyclesWith settings (blindly sweepEvery 0) = .ok w' := by
  rw [cyclesWith_ok_iff newcomer_isNew.storeHeld newcomer_isNew.fits fun round hround =>
    (of_mem_blindly hround).2]
  intro range
  exact not_inRange_of_lt h (by decide) (range 11 (by decide))

/-- **Completion.** A monitor completes its cycles if every sweep that is due in them is in range;
and it completes any cycles between 1970 and 2100 just where the retention is no longer than
`longestRetention`. -/
theorem cycles_complete_iff (settings : Settings) :
    (∀ (w : Watch) (rounds : List (Int × Readings)), w.storeHeld = true → w.monitor.Fits →
      (∀ round ∈ rounds, round.2.Fits) →
        ((∃ w', w.cyclesWith settings rounds = .ok w') ↔
          ∀ i (h : i < rounds.length), InRange settings rounds[i].1 (w.monitor.cycles + i + 1))) ∧
    ((∀ (w : Watch) (rounds : List (Int × Readings)), w.IsNew →
      (∀ round ∈ rounds, 0 ≤ round.1 ∧ round.1 ≤ 4102444800 ∧ round.2.Fits) →
        ∃ w', w.cyclesWith settings rounds = .ok w') ↔
      settings.alerts.retentionDays ≤ longestRetention) := by
  refine ⟨fun w rounds held fits hr => cyclesWith_ok_iff held fits hr, ?_, ?_⟩
  · intro completes
    refine Nat.le_of_not_lt fun longer => not_ok_blindly longer ?_
    refine completes newcomer _ newcomer_isNew fun round hround => ?_
    obtain ⟨moment, fits⟩ := of_mem_blindly hround
    rw [moment]
    exact ⟨by decide, by decide, fits⟩
  · intro le w rounds new hr
    rw [cyclesWith_ok_iff new.storeHeld new.fits fun round hround => (hr round hround).2.2]
    exact fun i h => inRange_of_le le (hr _ (List.getElem_mem h)).1 _

/-- Settings that keep a dismissed alert for so many days. -/
def retaining (days : Nat) : Settings := { alerts := { retentionDays := days } }

theorem cycles_complete_iff_month :
    (retaining 30).Valid ∧ newcomer.IsNew ∧
      (∀ round ∈ blindly 12 1700000000, 0 ≤ round.1 ∧ round.1 ≤ 4102444800 ∧ round.2.Fits) ∧
      ∃ w', newcomer.cyclesWith (retaining 30) (blindly 12 1700000000) = .ok w' := by
  have rounds : ∀ round ∈ blindly 12 1700000000,
      0 ≤ round.1 ∧ round.1 ≤ 4102444800 ∧ round.2.Fits := by
    intro round hround
    obtain ⟨moment, fits⟩ := of_mem_blindly hround
    rw [moment]
    exact ⟨by decide, by decide, fits⟩
  refine ⟨by decide +kernel, newcomer_isNew, rounds, ?_⟩
  exact (cycles_complete_iff (retaining 30)).2.2 (by decide) newcomer _ newcomer_isNew rounds

/-- Accepted settings with which the monitor does not survive its twelfth cycle. -/
theorem twelfth_cycle_breaks_off :
    (retaining 4294967295).Valid ∧ newcomer.IsNew ∧ unreadable.Fits ∧
      (∃ w, newcomer.cyclesWith (retaining 4294967295) (blindly 11 1700000000) = .ok w) ∧
      ¬ ∃ w, newcomer.cyclesWith (retaining 4294967295) (blindly 12 1700000000) = .ok w := by
  refine ⟨by decide +kernel, newcomer_isNew, unreadable_fits, ?_, ?_⟩
  · rw [cyclesWith_ok_iff newcomer_isNew.storeHeld newcomer_isNew.fits fun round hround =>
      (of_mem_blindly hround).2]
    rintro i h ⟨_, due⟩
    have : i < 11 := h
    unfold sweepEvery at due
    change (0 + i + 1) % 12 = 0 at due
    omega
  · rw [cyclesWith_ok_iff newcomer_isNew.storeHeld newcomer_isNew.fits fun round hround =>
      (of_mem_blindly hround).2]
    intro range
    exact absurd (range 11 (by decide) ⟨by decide, by decide⟩) (by decide)

end Watch

end HostWatch
