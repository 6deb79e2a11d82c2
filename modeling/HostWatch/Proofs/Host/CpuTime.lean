import Mathlib.Algebra.Order.Field.Rat
import Mathlib.Tactic.FieldSimp
import Mathlib.Tactic.Linarith
import Mathlib.Tactic.Positivity
import HostWatch.Host.Live
import HostWatch.Proofs.Monitor.Completion
import HostWatch.Proofs.Monitor.Journal

/-!
# Sums of processor time

`sampling_overflows_iff`: whatever the file of the processors holds at each look, the cycles sum its
counters without an overflow just as long as every text that gives counters gives some whose sum
can be held. Texts are accepted with counters that can be held one by one, and that is not enough
(`accepted_sum_overflows`).

1. Words of 64 bits add counters up exactly just if the sum of all of them fits (`sums_exact_iff`).
2. The busy share, computed exactly, is between 0 and 100 for any counters (`exactUsage_mem`).
3. What a look at the file finds makes the readings of the processor and nothing else
   (`Readings.take_feed`), and a cycle overflows just if the counters that it looks at do not fit
   (`Watch.cycle_cases`).
4. Every look is taken by some cycle, so the first text that does not fit is reached
   (`Watch.exists_overflow`, `Watch.cyclesOn_ne_overflow_iff`).
-/

namespace HostWatch

namespace CpuCounters

/-! ## Sums -/

/-- Every counter can be held by itself. -/
structure Held (c : CpuCounters) : Prop where
  user : c.user ≤ maxTicks
  nice : c.nice ≤ maxTicks
  system : c.system ≤ maxTicks
  idle : c.idle ≤ maxTicks
  iowait : c.iowait ≤ maxTicks

/-- The ticks spent on work as words of 64 bits add them up. -/
def busyWord (c : CpuCounters) : UInt64 := .ofNat c.user + .ofNat c.nice + .ofNat c.system

/-- All ticks as words of 64 bits add them up. -/
def totalWord (c : CpuCounters) : UInt64 := c.busyWord + .ofNat c.idle + .ofNat c.iowait

theorem toNat_busyWord (c : CpuCounters) : c.busyWord.toNat = c.busy % 2 ^ 64 := by
  simp only [busyWord, busy, UInt64.toNat_add, UInt64.toNat_ofNat']
  omega

theorem toNat_totalWord (c : CpuCounters) : c.totalWord.toNat = c.total % 2 ^ 64 := by
  simp only [totalWord, total, UInt64.toNat_add, UInt64.toNat_ofNat', toNat_busyWord]
  omega

/-- Both sums are exact just if all counters together fit. -/
theorem sums_exact_iff (c : CpuCounters) :
    (c.busyWord.toNat = c.busy ∧ c.totalWord.toNat = c.total) ↔ c.Fits := by
  rw [toNat_busyWord, toNat_totalWord]
  unfold Fits maxTicks total
  rw [show Nat.pow 2 64 = 2 ^ 64 from rfl]
  omega

theorem parseCount?_le {cs : List Char} {n : Nat} (h : parseCount? cs = some n) : n ≤ maxTicks := by
  simp only [parseCount?, Option.ite_none_left_eq_some, Option.ite_none_right_eq_some,
    Option.some.injEq] at h
  obtain ⟨-, held, rfl⟩ := h
  exact held

/-- Counters that are read can be held one by one. -/
theorem held_of_parse? {text : String} {c : CpuCounters} (h : parse? text = some c) : c.Held := by
  unfold parse? at h
  obtain ⟨line, -, h⟩ := Option.bind_eq_some_iff.1 h
  dsimp only at h
  have read : ∀ field ∈ ((Text.words line).drop 1).map parseCount?, ∀ n ∈ field, n ≤ maxTicks := by
    intro field mem n value
    obtain ⟨word, -, rfl⟩ := List.mem_map.1 mem
    exact parseCount?_le value
  split at h
  · next user nice system idle rest fields =>
    rw [fields] at read
    obtain ⟨user, read⟩ := List.forall_mem_cons.1 read
    obtain ⟨nice, read⟩ := List.forall_mem_cons.1 read
    obtain ⟨system, read⟩ := List.forall_mem_cons.1 read
    obtain ⟨idle, read⟩ := List.forall_mem_cons.1 read
    cases h
    refine ⟨user _ rfl, nice _ rfl, system _ rfl, idle _ rfl, ?_⟩
    rcases rest with _ | ⟨_ | n, rest⟩
    · exact Nat.zero_le _
    · exact Nat.zero_le _
    · exact read _ List.mem_cons_self n rfl
  · cases h

/-! ## Shares -/

/-- The formula of the busy share, with numbers of any kind. -/
def shareOver {α : Type} [OfNat α 0] [OfNat α 100] [Div α] [Mul α] [LT α] [DecidableLT α]
    (number : Nat → α) (later earlier : CpuCounters) : α :=
  let total := later.total - earlier.total
  if total = 0 then 0
  else
    let share := number (later.busy - earlier.busy) / number total * 100
    if share < 0 then 0 else if 100 < share then 100 else share

theorem usageSince_eq (later earlier : CpuCounters) :
    later.usageSince earlier = shareOver floatOfNat later earlier := rfl

/-- The busy share of the ticks between two readings in percent, computed exactly. -/
def exactUsage (later earlier : CpuCounters) : ℚ := shareOver (fun n => (n : ℚ)) later earlier

variable {later earlier : CpuCounters}

theorem exactUsage_of_le (h : later.total ≤ earlier.total) : later.exactUsage earlier = 0 := by
  unfold exactUsage shareOver
  exact if_pos (Nat.sub_eq_zero_of_le h)

/-- What is divided by is a positive number of ticks. -/
theorem exactUsage_of_lt (h : earlier.total < later.total) :
    0 < ((later.total - earlier.total : ℕ) : ℚ) ∧
      later.exactUsage earlier =
        min 100 (((later.busy - earlier.busy : ℕ) : ℚ) / ((later.total - earlier.total : ℕ) : ℚ)
          * 100) := by
  have positive : 0 < later.total - earlier.total := Nat.sub_pos_of_lt h
  refine ⟨by exact_mod_cast positive, ?_⟩
  unfold exactUsage shareOver
  dsimp only
  rw [if_neg positive.ne']
  generalize later.total - earlier.total = total
  have nonneg : 0 ≤ ((later.busy - earlier.busy : ℕ) : ℚ) / (total : ℚ) * 100 := by positivity
  rw [if_neg nonneg.not_gt]
  split
  · next above => exact (min_eq_left above.le).symm
  · next below => exact (min_eq_right (not_lt.1 below)).symm

theorem exactUsage_mem (later earlier : CpuCounters) :
    0 ≤ later.exactUsage earlier ∧ later.exactUsage earlier ≤ 100 := by
  rcases Nat.lt_or_ge earlier.total later.total with forward | back
  · rw [(exactUsage_of_lt forward).2]
    refine ⟨le_min (by norm_num) (by positivity), min_le_left _ _⟩
  · rw [exactUsage_of_le back]
    norm_num

end CpuCounters

/-! ## Looks at the file of the processors -/

/-- The counters that the file of the processors gives, if it does. -/
def FileText.counters? : FileText → Option CpuCounters
  | .ok text => CpuCounters.parse? text
  | .error _ => none

/-- A live host whose file of the processors can hold something else at every look. -/
structure StatFeed where
  live : LiveHost
  /-- What the looks find, one after another. -/
  contents : Nat → FileText

namespace StatFeed

/-- The host as the next look finds it. -/
def atLook (f : StatFeed) : LiveHost := { f.live with host.stat := f.contents 0 }

/-- The feed after a look. -/
def passed (f : StatFeed) : StatFeed := ⟨f.atLook, fun i => f.contents (i + 1)⟩

/-- Anything but the counters of the processors is measured on the host as the last look found
it. -/
def onHost (measure : LiveHost → α × LiveHost) (f : StatFeed) : α × StatFeed :=
  let (result, live) := measure f.live
  (result, { f with live })

instance : Sampler StatFeed where
  cpu f := (f.atLook.readCpu, f.passed)
  cores := onHost Sampler.cores
  memory := onHost Sampler.memory
  disk := onHost Sampler.disk
  load := onHost Sampler.load
  updates := onHost Sampler.updates

/-- What a cycle looks at: the next contents, and if these give the first counters of all, the ones
after them too. -/
def looks (earlier : Option CpuCounters) (f : StatFeed) : List FileText :=
  if earlier.isNone ∧ (f.contents 0).counters?.isSome then [f.contents 0, f.contents 1]
  else [f.contents 0]

/-- A cycle looks at least once, and at nothing but what comes next. -/
theorem looks_eq (earlier : Option CpuCounters) (f : StatFeed) :
    ∃ n, 0 < n ∧ f.looks earlier = (List.range n).map f.contents := by
  unfold looks
  split
  · exact ⟨2, Nat.zero_lt_succ _, rfl⟩
  · exact ⟨1, Nat.zero_lt_succ _, rfl⟩

end StatFeed

theorem LiveHost.readCpu_toOption (live : LiveHost) :
    live.readCpu.toOption = live.host.stat.counters? := by
  unfold readCpu FileText.counters?
  cases live.host.stat with
  | error cause => rfl
  | ok text =>
    dsimp only
    cases CpuCounters.parse? text <;> rfl

theorem LiveHost.readCpu_error_iff (live : LiveHost) :
    (∃ e, live.readCpu = .error e) ↔ live.host.stat.counters? = none := by
  rw [← live.readCpu_toOption]
  cases live.readCpu <;> simp [Except.toOption]

/-- What a cycle measures on a feed. The contents that it looks at make the readings of the
processor, and they make nothing else. -/
theorem Readings.take_feed (earlier : Option CpuCounters) (due : Bool) (f : StatFeed) :
    let r := (take earlier due f).1
    r.cpu = f.atLook.readCpu ∧
      r.cpuAgain = (if r.cpu.toBool && earlier.isNone then some f.passed.atLook.readCpu else none) ∧
      r.memory = (f.live.readMemory).1 ∧ r.disk = f.live.readDisk ∧ r.load = .ok f.live.readLoad ∧
      r.updates =
        (if due then some (PackageTool.countUpdates f.live.host.run PackageTool.all) else none) ∧
      (take earlier due f).2.contents =
        fun i => f.contents (i + (f.looks earlier).length) := by
  have given : f.atLook.readCpu.toOption = (f.contents 0).counters? := f.atLook.readCpu_toOption
  unfold take StatFeed.looks
  rw [← given]
  dsimp only [Sampler.cpu]
  cases f.atLook.readCpu <;> cases earlier <;> cases due <;>
    exact ⟨rfl, rfl, rfl, rfl, rfl, rfl, rfl⟩

theorem Readings.fits_iff {r : Readings} :
    r.Fits ↔ (∀ c ∈ r.cpu.toOption, c.Fits) ∧
      ∀ again ∈ r.cpuAgain, ∀ c ∈ again.toOption, c.Fits := by
  have given (x : Except SampleError CpuCounters) (c : CpuCounters) :
      c ∈ x.toOption ↔ x = .ok c := by
    cases x <;> simp [Except.toOption]
  refine ⟨fun h => ⟨fun c mem => h.cpu c ((given _ c).1 mem), fun again mem c mem' => ?_⟩,
    fun h => ⟨fun c read => h.1 c ((given _ c).2 read), fun c read => ?_⟩⟩
  · exact h.cpuAgain c (mem.trans (congrArg some ((given _ c).1 mem')))
  · exact h.2 _ read c ((given _ c).2 rfl)

/-- The readings of a cycle fit just if the counters do that are given by what it looks at. -/
theorem Readings.fits_take_feed (earlier : Option CpuCounters) (due : Bool) (f : StatFeed) :
    (take earlier due f).1.Fits ↔ ∀ text ∈ f.looks earlier, ∀ c ∈ text.counters?, c.Fits := by
  obtain ⟨cpu, again, -⟩ := take_feed earlier due f
  have first : f.atLook.readCpu.toOption = (f.contents 0).counters? := f.atLook.readCpu_toOption
  have second : f.passed.atLook.readCpu.toOption = (f.contents 1).counters? :=
    f.passed.atLook.readCpu_toOption
  rw [fits_iff, again, cpu, StatFeed.looks, ← first]
  cases now : f.atLook.readCpu with
  | error e =>
    rw [now] at first
    simp [← first, Except.toOption, Except.toBool]
  | ok c =>
    rw [now] at first
    cases earlier <;> simp [← first, ← second, Except.toOption, Except.toBool]

/-- A span of readings fits just if the readings of the cycle do. -/
theorem Readings.cpuSpan_fits_iff {r : Readings} {earlier : Option CpuCounters} {due : Bool}
    (taken : r.Taken earlier due) (fits : ∀ c ∈ earlier, c.Fits) :
    (∀ s ∈ r.cpuSpan earlier, s.1.Fits ∧ s.2.Fits) ↔ r.Fits := by
  refine ⟨fun span => fits_iff.2 ?_, fun hr => hr.cpuSpan fits⟩
  have twice := taken.cpuAgain
  unfold cpuSpan at span
  generalize r.cpu = cpu, r.cpuAgain = again at span twice ⊢
  cases cpu <;> cases earlier <;> rcases again with _ | _ | _ <;>
    simp_all [Except.toOption, Except.toBool]

namespace Watch

/-! ## Cycles -/

section Cycles

variable {settings : Settings} {now : Int} {r : Readings} {w : Watch}

/-- A cycle comes to its end unless it deletes old alerts. -/
theorem conclude_error_or_keeps (settings : Settings) (now : Int) (s : Snapshot) (w : Watch) :
    (0 < settings.alerts.retentionDays ∧
      w.conclude settings now s = .error .cutoffOutOfRange) ∨
      ∃ w', w.conclude settings now s = .ok w' ∧ w.Keeps w' := by
  by_cases range : InRange settings now w.monitor.cycles
  · exact .inr (keeps_conclude range)
  · by_cases held : w.storeHeld = true
    · exact .inl ⟨(Classical.not_imp.1 range).1.1, conclude_error held range⟩
    · exact .inr ⟨_, if_neg held, rfl, rfl, rfl, rfl⟩

/-- Readings that fit do not end a run, and the next ones are compared with some of them. -/
theorem cycleWith_fits (fits : w.monitor.Fits) (hr : r.Fits) (settings : Settings) (now : Int) :
    (0 < settings.alerts.retentionDays ∧
      w.cycleWith settings now r = .error .cutoffOutOfRange) ∨
      ∃ w', w.cycleWith settings now r = .ok w' ∧ w'.monitor.Fits := by
  obtain ⟨m, s, measured, -, fits'⟩ := Monitor.measured_ok fits hr now
  unfold cycleWith
  rw [measured]
  let w₁ := { w with monitor := m.reap }
  have kept := keeps_raiseAll settings now w₁ (w₁.findings settings s)
  rcases conclude_error_or_keeps settings now s (w₁.raiseAll settings now (w₁.findings settings s))
    with ended | ⟨w', ok, kept'⟩
  · exact .inl ended
  · refine .inr ⟨w', ok, fun c hc => ?_⟩
    rw [(kept.trans kept').earlierCpu] at hc
    exact fits' c hc

theorem cycleWith_overflow {due : Bool} (taken : r.Taken w.monitor.earlierCpu due)
    (fits : w.monitor.Fits) (unfit : ¬ r.Fits) (settings : Settings) (now : Int) :
    w.cycleWith settings now r = .error .counterOverflow := by
  rw [← Readings.cpuSpan_fits_iff taken fits] at unfit
  unfold cycleWith Monitor.measured
  dsimp only
  rw [if_neg unfit]

end Cycles

/-- The contents that the next cycle looks at give counters that fit. -/
def LooksFit (w : Watch) (f : StatFeed) : Prop :=
  ∀ text ∈ f.looks w.monitor.earlierCpu, ∀ c ∈ text.counters?, c.Fits

/-- **Cycles.** A cycle on a feed overflows just if the counters that it looks at do not fit.
Otherwise it comes to its end, or to a sweep that is out of range. -/
theorem cycle_cases {w : Watch} (fits : w.monitor.Fits) (settings : Settings) (clock : Int)
    (f : StatFeed) :
    (¬ w.LooksFit f ∧ w.cycle settings clock f = .error .counterOverflow) ∨
    w.LooksFit f ∧
      ((0 < settings.alerts.retentionDays ∧
        w.cycle settings clock f = .error .cutoffOutOfRange) ∨
      ∃ w' clock' f', w.cycle settings clock f = .ok (w', clock', f') ∧ w'.monitor.Fits ∧
        f'.contents = fun i => f.contents (i + (f.looks w.monitor.earlierCpu).length)) := by
  let due := decide (w.monitor.UpdatesDue settings)
  let now := (clock + (Readings.take w.monitor.earlierCpu due f).1.waited) / 1000
  have looked := Readings.fits_take_feed w.monitor.earlierCpu due f
  have taken := Readings.taken_take w.monitor.earlierCpu due f
  obtain ⟨-, -, -, -, -, -, contents⟩ := Readings.take_feed w.monitor.earlierCpu due f
  have result : w.cycle settings clock f =
      (w.cycleWith settings now (Readings.take w.monitor.earlierCpu due f).1).map
        (·, clock + (Readings.take w.monitor.earlierCpu due f).1.waited,
          (Readings.take w.monitor.earlierCpu due f).2) := rfl
  rw [result]
  by_cases hr : (Readings.take w.monitor.earlierCpu due f).1.Fits
  · refine .inr ⟨looked.1 hr, ?_⟩
    rcases cycleWith_fits fits hr settings now with ⟨sweeps, ended⟩ | ⟨w', ok, fits'⟩
    · rw [ended]
      exact .inl ⟨sweeps, rfl⟩
    · rw [ok]
      exact .inr ⟨w', _, _, rfl, fits', contents⟩
  · rw [cycleWith_overflow taken fits hr]
    exact .inl ⟨fun h => hr (looked.2 h), rfl⟩

/-! ## Many cycles -/

/-- Cycles one after another on a source, each with its settings and at its time. -/
def cyclesOn [Sampler σ] (w : Watch) (source : σ) (rounds : List (Settings × Int)) :
    Except CycleFault (Watch × σ) :=
  rounds.foldlM (fun s round =>
    (s.1.cycle round.1 round.2 s.2).map fun ended => (ended.1, ended.2.2)) (w, source)

theorem cyclesOn_cons [Sampler σ] (w : Watch) (source : σ) (round : Settings × Int)
    (rounds : List (Settings × Int)) :
    w.cyclesOn source (round :: rounds) =
      w.cycle round.1 round.2 source >>= fun ended => ended.1.cyclesOn ended.2.2 rounds := by
  unfold cyclesOn
  rw [List.foldlM_cons]
  cases w.cycle round.1 round.2 source <;> rfl

/-- **Runs.** Where all counters fit, no cycle overflows. -/
theorem cyclesOn_ne_overflow {w : Watch} (fits : w.monitor.Fits) {f : StatFeed}
    (all : ∀ i, ∀ c ∈ (f.contents i).counters?, c.Fits) (rounds : List (Settings × Int)) :
    w.cyclesOn f rounds ≠ .error .counterOverflow := by
  -- the feed keeps giving counters that fit, and the monitor remembers some of them
  induction rounds generalizing w f with
  | nil => nofun
  | cons round rounds ih =>
    rw [cyclesOn_cons]
    rcases cycle_cases fits round.1 round.2 f with
      ⟨unfit, -⟩ | ⟨-, ⟨-, ended⟩ | ⟨w', clock', f', ok, fits', contents⟩⟩
    · refine absurd (fun text mem => ?_) unfit
      obtain ⟨n, -, looks⟩ := f.looks_eq w.monitor.earlierCpu
      obtain ⟨i, -, rfl⟩ := List.mem_map.1 (looks ▸ mem)
      exact all i
    · rw [ended]
      nofun
    · rw [ok]
      refine ih fits' fun i => ?_
      rw [contents]
      exact all _

/-- Some cycle overflows that looks at counters that do not fit. -/
theorem exists_overflow {w : Watch} (fits : w.monitor.Fits) {f : StatFeed} {i : ℕ}
    (unfit : ¬ ∀ c ∈ (f.contents i).counters?, c.Fits) :
    ∃ rounds, w.cyclesOn f rounds = .error .counterOverflow := by
  -- every cycle that does not overflow goes on by one look at least
  induction i using Nat.strong_induction_on generalizing w f with
  | _ i ih =>
    rcases cycle_cases fits (retaining 0) 0 f with
      ⟨-, overflow⟩ | ⟨looked, ⟨sweeps, -⟩ | ⟨w', clock', f', ok, fits', contents⟩⟩
    · refine ⟨[(retaining 0, 0)], ?_⟩
      rw [cyclesOn_cons, overflow]
      rfl
    · exact absurd sweeps (Nat.lt_irrefl 0)
    · obtain ⟨n, positive, looks⟩ := f.looks_eq w.monitor.earlierCpu
      have past : n ≤ i := by
        refine Nat.le_of_not_lt fun soon => unfit (looked _ ?_)
        rw [looks]
        exact List.mem_map_of_mem (List.mem_range.2 soon)
      have later : f'.contents (i - n) = f.contents i := by
        rw [contents, looks, List.length_map, List.length_range]
        exact congrArg f.contents (Nat.sub_add_cancel past)
      obtain ⟨rounds, overflow⟩ := ih (i - n) (by omega) fits' (later ▸ unfit)
      refine ⟨(retaining 0, 0) :: rounds, ?_⟩
      rw [cyclesOn_cons, ok]
      exact overflow

theorem cyclesOn_ne_overflow_iff {w : Watch} (fits : w.monitor.Fits) (f : StatFeed) :
    (∀ rounds, w.cyclesOn f rounds ≠ .error .counterOverflow) ↔
      ∀ i, ∀ c ∈ (f.contents i).counters?, c.Fits := by
  refine ⟨fun never i => ?_, fun all => cyclesOn_ne_overflow fits all⟩
  by_contra unfit
  obtain ⟨rounds, overflow⟩ := exists_overflow fits unfit
  exact never rounds overflow

end Watch

/-! ## Sampling -/

/-- **Sampling.** A host whose file of the processors holds anything at any look is measured.

* Counters that are read can be held one by one, and words of 64 bits add them up exactly just if
  their sum fits.
* The busy share between any two readings, computed exactly, is between 0 and 100, also of counters
  that ran backwards; what is divided by is a positive number of ticks.
* The reading of the processor fails just if there are no counters in the file. All other
  measurements are what they are, whatever the file holds, and the published share stays.
* The cycles of a monitor that has not read any counters never overflow just if all counters that
  the file gives fit. -/
theorem sampling_overflows_iff (w : Watch) (f : StatFeed) (new : w.monitor.earlierCpu = none) :
    (∀ text c, CpuCounters.parse? text = some c →
      c.Held ∧ ((c.busyWord.toNat = c.busy ∧ c.totalWord.toNat = c.total) ↔ c.Fits)) ∧
    (∀ later earlier : CpuCounters,
      later.usageSince earlier = CpuCounters.shareOver floatOfNat later earlier ∧
      (0 ≤ later.exactUsage earlier ∧ later.exactUsage earlier ≤ 100) ∧
      (later.total ≤ earlier.total → later.exactUsage earlier = 0) ∧
      (earlier.total < later.total →
        0 < ((later.total - earlier.total : ℕ) : ℚ) ∧
        later.exactUsage earlier =
          min 100 (((later.busy - earlier.busy : ℕ) : ℚ) / ((later.total - earlier.total : ℕ) : ℚ)
            * 100))) ∧
    (∀ (earlier : Option CpuCounters) (due : Bool),
      let r := (Readings.take earlier due f).1
      ((∃ e, r.cpu = .error e) ↔ (f.contents 0).counters? = none) ∧
      r.memory = (f.live.readMemory).1 ∧ r.disk = f.live.readDisk ∧ r.load = .ok f.live.readLoad ∧
      r.updates =
        (if due then some (PackageTool.countUpdates f.live.host.run PackageTool.all) else none) ∧
      ∀ previous : Snapshot, (f.contents 0).counters? = none →
        (previous.next earlier r).cpuUsage = previous.cpuUsage) ∧
    ((∀ rounds, w.cyclesOn f rounds ≠ .error .counterOverflow) ↔
      ∀ i, ∀ c ∈ (f.contents i).counters?, c.Fits) := by
  have fits : w.monitor.Fits := by
    intro c mem
    rw [new] at mem
    cases mem
  refine ⟨fun text c read => ⟨CpuCounters.held_of_parse? read, c.sums_exact_iff⟩,
    fun later earlier => ⟨CpuCounters.usageSince_eq later earlier,
      CpuCounters.exactUsage_mem later earlier, CpuCounters.exactUsage_of_le,
      CpuCounters.exactUsage_of_lt⟩, fun earlier due => ?_, Watch.cyclesOn_ne_overflow_iff fits f⟩
  intro r
  obtain ⟨cpu, -, memory, disk, load, updates, -⟩ := Readings.take_feed earlier due f
  have fails : (∃ e, r.cpu = .error e) ↔ (f.contents 0).counters? = none := by
    rw [cpu]
    exact f.atLook.readCpu_error_iff
  refine ⟨fails, memory, disk, load, updates, fun previous absent => ?_⟩
  obtain ⟨e, failed⟩ := fails.2 absent
  rw [Snapshot.next_eq]
  simp only [Readings.cpuSpan, failed, Option.elim_none]

/-- A host that tells nothing by itself. -/
def silentHost : LiveHost where
  host :=
    { stat := .error .notFound, memory := .error .notFound, load := .error .notFound
      mounts := .error .notFound, size := fun _ => none, run := fun _ => .missing }

/-- Counters that run backwards after a look that finds none. -/
def backwards : StatFeed where
  live := silentHost
  contents
    | 0 => .ok "cpu  4705 356 584 3699176 23060 0 277 0 0 0\n"
    | 1 => .ok "intr 1234\n"
    | _ => .ok "cpu 18446744073709551615 0 0 0\n"

theorem sampling_overflows_iff_backwards :
    Watch.newcomer.monitor.earlierCpu = none ∧
      (backwards.contents 0).counters? = some ⟨4705, 356, 584, 3699176, 23060⟩ ∧
      (backwards.contents 2).counters? = some { user := CpuCounters.maxTicks } ∧
      CpuCounters.Held { user := CpuCounters.maxTicks } ∧
      ∀ rounds, Watch.newcomer.cyclesOn backwards rounds ≠ .error .counterOverflow := by
  obtain ⟨sums, -, -, overflow⟩ := sampling_overflows_iff Watch.newcomer backwards rfl
  have first : CpuCounters.parse? "cpu  4705 356 584 3699176 23060 0 277 0 0 0\n" =
      some ⟨4705, 356, 584, 3699176, 23060⟩ := by decide +kernel
  have second : CpuCounters.parse? "intr 1234\n" = none := by decide +kernel
  have later : CpuCounters.parse? "cpu 18446744073709551615 0 0 0\n" =
      some { user := CpuCounters.maxTicks } := by decide +kernel
  refine ⟨rfl, first, later, (sums _ _ later).1, ?_⟩
  refine overflow.2 fun i c given => ?_
  match i with
  | 0 =>
    obtain rfl := Option.some.inj (first.symm.trans given)
    decide +kernel
  | 1 => cases second.symm.trans given
  | i + 2 =>
    obtain rfl := Option.some.inj (later.symm.trans given)
    decide +kernel

/-- Counters that are read, and end the first cycle. -/
theorem accepted_sum_overflows :
    let text := "cpu 18446744073709551615 1 0 0 0\n"
    CpuCounters.parse? text = some ⟨18446744073709551615, 1, 0, 0, 0⟩ ∧
      CpuCounters.busyWord ⟨18446744073709551615, 1, 0, 0, 0⟩ = 0 ∧
      ∃ rounds, Watch.newcomer.cyclesOn (⟨silentHost, fun _ => .ok text⟩ : StatFeed) rounds =
        .error .counterOverflow := by
  intro text
  have read : CpuCounters.parse? text = some ⟨18446744073709551615, 1, 0, 0, 0⟩ := by
    decide +kernel
  have unfit : ¬ CpuCounters.Fits ⟨18446744073709551615, 1, 0, 0, 0⟩ := by decide +kernel
  refine ⟨read, by decide +kernel, Watch.exists_overflow (i := 0) Watch.newcomer_isNew.fits ?_⟩
  intro fits
  exact unfit (fits _ read)

end HostWatch
