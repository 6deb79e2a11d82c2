import HostWatch.Monitor.Journal
import HostWatch.Monitor.Scripted
import HostWatch.Proofs.Monitor.Undisturbed
import HostWatch.Proofs.Settings.Valid

/-!
# What snapshots are made of

`snapshots_follow`: whatever fails in which cycle, and whatever happens beside the cycles, each
group of fields in a published snapshot is what the cycle measured, or as it was in the snapshot
published before if that measurement failed or was not due.

1. A snapshot has each group of its fields from one measurement (`Snapshot.next_eq`).
2. A cycle that begins goes on from what the pages before it tell (`Kept.begin`).
3. Nothing else touches what a monitor remembers of its measurements, but that a cycle publishes its
   snapshot (`Shift.carries_step`, `Shift.step_publishing`).

A cycle that runs at once does what its steps do in a journal (`run_cycle`).
-/

namespace HostWatch

/-! ## Groups of fields -/

/-- What a measurement gave, or what there was before if it failed. -/
def carried (reading : Except ε α) (fresh : α → β) (before : β) : β :=
  match reading with
  | .ok a => fresh a
  | .error _ => before

namespace Snapshot

/-- The fields for memory. -/
def memoryPart (s : Snapshot) : Float × Nat × Nat := (s.memoryUsage, s.memoryUsed, s.memoryTotal)

/-- The fields for the disk. -/
def diskPart (s : Snapshot) : Float × String × Nat × Nat :=
  (s.diskUsage, s.diskMount, s.diskUsed, s.diskTotal)

/-- The fields for updates. -/
def updatesPart (s : Snapshot) : Nat × Nat := (s.pendingUpdates, s.securityUpdates)

/-- Memory and disk have the usage that their own sizes make. -/
structure OwnUsage (s : Snapshot) : Prop where
  memory : s.memoryUsage = percent s.memoryUsed s.memoryTotal
  disk : s.diskUsage = percent s.diskUsed s.diskTotal

end Snapshot

/-- The fields that memory fills. -/
def MemoryUse.part (m : MemoryUse) : Float × Nat × Nat := (percent m.used m.total, m.used, m.total)

/-- The fields that a disk fills. -/
def DiskUse.part (d : DiskUse) : Float × String × Nat × Nat :=
  (percent d.used d.total, d.mount, d.used, d.total)

/-- The fields that updates fill. -/
def UpdateCounts.part (u : UpdateCounts) : Nat × Nat := (u.pending, u.security)

/-- The snapshot follows another one with a cycle's readings: each group of its fields has its own
reading, or is as it was. The processor is compared with an `earlier` reading, or, if there is none,
with a second one of the same cycle. -/
structure Snapshot.Follows (s previous : Snapshot) (earlier : Option CpuCounters) (r : Readings) :
    Prop where
  cpuFailed : ∀ e, r.cpu = .error e → s.cpuUsage = previous.cpuUsage
  cpuSince : ∀ now before, r.cpu = .ok now → earlier = some before →
    s.cpuUsage = now.usageSince before
  cpuFirst : ∀ now, r.cpu = .ok now → earlier = none →
    ∃ again, r.cpuAgain = some again ∧ s.cpuUsage = carried again (·.usageSince now) 0
  cores : s.cpuCores = r.cores
  memory : s.memoryPart = carried r.memory MemoryUse.part previous.memoryPart
  disk : s.diskPart = carried r.disk DiskUse.part previous.diskPart
  load : s.load = carried r.load id previous.load
  updates : s.updatesPart =
    r.updates.elim previous.updatesPart fun u => carried u UpdateCounts.part previous.updatesPart

/-- Counters that have not changed show no use. -/
theorem CpuCounters.usageSince_self (c : CpuCounters) : c.usageSince c = 0 := by
  unfold usageSince
  dsimp only
  rw [Nat.sub_self, if_pos rfl]

namespace Readings

/-- What was measured is what there was to measure: the processor twice just if there was nothing
to compare the first reading with, and updates just if they were due. -/
structure Taken (r : Readings) (earlier : Option CpuCounters) (due : Bool) : Prop where
  cpuAgain : r.cpuAgain.isSome = (r.cpu.toBool && earlier.isNone)
  updates : r.updates.isSome = due

section Taking

variable [Sampler σ]

theorem taken_take (earlier : Option CpuCounters) (due : Bool) (source : σ) :
    (take earlier due source).1.Taken earlier due := by
  unfold take
  rcases read : Sampler.cpu source with ⟨cpu, after⟩
  cases cpu <;> cases earlier <;> cases due <;> exact ⟨rfl, rfl⟩

/-- A source that remembers what it is asked for answers as it does without. -/
theorem take_questioned (earlier : Option CpuCounters) (due : Bool) (q : Questioned σ) :
    (take earlier due q).1 = (take earlier due q.source).1 ∧
      (take earlier due q).2.source = (take earlier due q.source).2 := by
  unfold take
  dsimp only [Sampler.cpu, Questioned.ask]
  cases (Sampler.cpu q.source).1 <;> cases earlier <;> cases due <;> exact ⟨rfl, rfl⟩

/-- Updates are asked for just if they are due. -/
theorem updates_mem_asked (earlier : Option CpuCounters) (due : Bool) (source : σ) :
    .updates ∈ (take earlier due ({ source } : Questioned σ)).2.asked ↔ due = true := by
  unfold take
  dsimp only [Sampler.cpu, Questioned.ask]
  cases (Sampler.cpu source).1 <;> cases earlier <;> cases due <;>
    simp [Questioned.ask, Sampler.cores, Sampler.memory, Sampler.disk, Sampler.load,
      Sampler.updates]

end Taking

end Readings

/-- Each group of fields in the next snapshot is made of one measurement. -/
theorem Snapshot.next_eq (previous : Snapshot) (earlier : Option CpuCounters) (r : Readings) :
    previous.next earlier r =
      let memory := carried r.memory MemoryUse.part previous.memoryPart
      let disk := carried r.disk DiskUse.part previous.diskPart
      let updates := r.updates.elim previous.updatesPart fun u =>
        carried u UpdateCounts.part previous.updatesPart
      { previous with
        cpuUsage := (r.cpuSpan earlier).elim previous.cpuUsage fun s => s.2.usageSince s.1
        cpuCores := r.cores
        load := carried r.load id previous.load
        memoryUsage := memory.1
        memoryUsed := memory.2.1
        memoryTotal := memory.2.2
        diskUsage := disk.1
        diskMount := disk.2.1
        diskUsed := disk.2.2.1
        diskTotal := disk.2.2.2
        pendingUpdates := updates.1
        securityUpdates := updates.2 } := by
  unfold next
  cases r.cpuSpan earlier <;> cases r.memory <;> cases r.disk <;> cases r.load <;>
    rcases r.updates with _ | _ | _ <;> rfl

/-- What a cycle makes of its readings follows what there was. -/
theorem Snapshot.follows_next (previous : Snapshot) {earlier : Option CpuCounters} {r : Readings}
    {due : Bool} (taken : r.Taken earlier due) (cycle : Nat) (timestamp : Int) :
    ({ previous.next earlier r with cycle, timestamp } : Snapshot).Follows previous earlier r := by
  rw [next_eq]
  refine ⟨?_, ?_, ?_, rfl, rfl, rfl, rfl, rfl⟩
  · intro e failed
    simp only [Readings.cpuSpan, failed, Option.elim_none]
  · intro now before read known
    simp only [Readings.cpuSpan, read, known, Option.elim_some]
  · intro now read unknown
    have twice : r.cpuAgain.isSome = true := by
      rw [taken.cpuAgain, read, unknown]
      rfl
    obtain ⟨again, second⟩ := Option.isSome_iff_exists.1 twice
    refine ⟨again, second, ?_⟩
    cases again with
    | ok later => simp only [Readings.cpuSpan, read, unknown, second, Option.elim_some, carried]
    | error e =>
      simp only [Readings.cpuSpan, read, unknown, second, Option.elim_some, carried,
        CpuCounters.usageSince_self]

namespace Snapshot

variable {s previous : Snapshot} {earlier : Option CpuCounters} {r : Readings}

/-- Usage stays that of a snapshot's own sizes. -/
theorem Follows.ownUsage (h : s.Follows previous earlier r) (own : previous.OwnUsage) :
    s.OwnUsage where
  memory := by
    have memory := h.memory
    cases read : r.memory <;> rw [read] at memory <;> injection memory with usage sizes <;>
      injection sizes with used total <;> rw [usage, used, total]
    exact own.memory
  disk := by
    have disk := h.disk
    cases read : r.disk <;> rw [read] at disk <;> injection disk with usage rest <;>
      injection rest with mount sizes <;> injection sizes with used total <;>
      rw [usage, used, total]
    exact own.disk

theorem Follows.counted (h : s.Follows previous earlier r) (w : Watch) :
    (w.counted s).Follows previous earlier r :=
  ⟨h.cpuFailed, h.cpuSince, h.cpuFirst, h.cores, h.memory, h.disk, h.load, h.updates⟩

end Snapshot

namespace Monitor

/-- A cycle counts updates if its number, from 0, is a multiple of the setting. -/
theorem updatesDue_iff (settings : Settings) (m : Monitor) :
    m.UpdatesDue settings ↔
      settings.monitor.updateEvery ∣ m.cycles ∨ settings.monitor.updateEvery = 0 := by
  unfold UpdatesDue
  rw [← Nat.dvd_iff_mod_eq_zero]
  by_cases zero : settings.monitor.updateEvery = 0
  · simp [zero]
  · rw [Nat.max_eq_right (Nat.pos_of_ne_zero zero)]
    simp [zero]

/-- What is remembered of measurements is kept. -/
structure Carries (m m' : Monitor) : Prop where
  earlierCpu : m'.earlierCpu = m.earlierCpu
  cycles : m'.cycles = m.cycles
  snapshot : m'.snapshot = m.snapshot

theorem carries_withCrew (m : Monitor) (crew : Crew) (tasks : List Enrichment) :
    m.Carries (m.withCrew crew tasks) := by
  cases crew <;> exact ⟨rfl, rfl, rfl⟩

end Monitor

/-! ## Pages -/

namespace Page

variable {page : Page} {earlier : List Page}

theorem head?_cpuReads {before : Option CpuCounters} {due : Bool}
    (taken : page.readings.Taken before due) :
    page.cpuReads.head? = (page.readings.cpuSpan before).map (·.2) := by
  have twice := taken.cpuAgain
  unfold cpuReads Readings.cpuSpan
  generalize page.readings.cpu = cpu, page.readings.cpuAgain = again at twice ⊢
  cases cpu <;> cases before <;> rcases again with _ | _ | _ <;> first | rfl | cases twice

theorem lastRead?_cons (page : Page) (earlier : List Page) :
    lastRead? (page :: earlier) = page.cpuReads.head?.or (lastRead? earlier) := by
  rw [lastRead?, List.flatMap_cons, List.head?_append, lastRead?]

theorem lastSnapshot_cons (page : Page) (earlier : List Page) :
    lastSnapshot (page :: earlier) = page.published.getD (lastSnapshot earlier) := by
  unfold lastSnapshot
  cases published : page.published with
  | none => rw [List.filterMap_cons_none published, Option.getD_none]
  | some s => rw [List.filterMap_cons_some published, List.head?_cons, Option.getD_some,
      Option.getD_some]

/-- The snapshot is that of the cycle with a page, after the cycles with earlier pages. -/
structure Shows (page : Page) (earlier : List Page) (s : Snapshot) : Prop where
  follows : s.Follows (lastSnapshot earlier) (lastRead? earlier) page.readings
  own : s.OwnUsage
  cycle : s.cycle = earlier.length + 1

theorem Shows.counted {s : Snapshot} (h : page.Shows earlier s) (w : Watch) :
    page.Shows earlier (w.counted s) := ⟨h.follows.counted w, ⟨h.own.memory, h.own.disk⟩, h.cycle⟩

/-- A page after earlier ones has a question about updates, and an answer, just if its cycle counts
them, and its snapshot is made of its readings. -/
structure Sound (page : Page) (earlier : List Page) : Prop where
  due : .updates ∈ page.asked ↔
    page.settings.monitor.updateEvery ∣ earlier.length ∨ page.settings.monitor.updateEvery = 0
  told : page.readings.updates.isSome = true ↔ .updates ∈ page.asked
  shows : ∀ s ∈ page.published, page.Shows earlier s

end Page

/-! ## Steps beside the measurements -/

namespace Shift

variable {s : Shift} {e : Event}

/-- What is remembered of measurements is kept, also by the cycle that is under way. -/
structure Carries (s s' : Shift) : Prop where
  monitor : s.watch.monitor.Carries s'.watch.monitor
  lap : ∀ lap' ∈ s'.lap, ∃ lap ∈ s.lap, lap'.snapshot = lap.snapshot

theorem carries_goOn {s s' : Shift} {lap : Lap} (here : s.lap = some lap) (stage : Lap.Stage)
    (monitor : s.watch.monitor.Carries s'.watch.monitor) : s.Carries (s'.goOn lap stage) :=
  ⟨monitor, fun _ mem => ⟨lap, here, Option.some.inj mem ▸ rfl⟩⟩

theorem carries_advance {lap : Lap} (here : s.lap = some lap) (going : lap.publishes = false) :
    s.Carries (s.advance lap) := by
  have same : s.watch.monitor.Carries s.watch.monitor := ⟨rfl, rfl, rfl⟩
  unfold advance
  split
  case h_1 => exact carries_goOn here _ ⟨rfl, rfl, rfl⟩
  case h_3 =>
    unfold sweep
    split
    · exact ⟨same, fun _ mem => absurd mem (Option.not_mem_none _)⟩
    · next swept =>
      rcases Watch.of_sweep swept with rfl | ⟨cutoff, rfl⟩ <;> exact carries_goOn here _ same
  case h_5 =>
    unfold report
    split <;> exact carries_goOn here _ same
  case h_6 f a later _ =>
    refine carries_goOn here _ ?_
    unfold ask
    rcases s.watch.monitor.enrich_cases lap.settings f.prompt a with asked | ⟨-, question, asked⟩
    all_goals
      simp only [asked]
      exact ⟨rfl, rfl, rfl⟩
  case h_7 stage =>
    rw [Lap.publishes, stage] at going
    cases going
  all_goals exact carries_goOn here _ same

/-- **Step.** Only the beginning and the end of a cycle touch what is remembered. -/
theorem carries_step (s : Shift) (goes : ¬ e.Begins) (going : s.publishes e = false) :
    s.Carries (s.step e) := by
  have same : s.watch.monitor.Carries s.watch.monitor := ⟨rfl, rfl, rfl⟩
  have still (lap : Lap) (mem : lap ∈ s.lap) : ∃ lap' ∈ s.lap, lap.snapshot = lap'.snapshot :=
    ⟨lap, mem, rfl⟩
  cases e with
  | begin => exact absurd trivial goes
  | advance =>
    cases here : s.lap with
    | none =>
      rw [show s.step .advance = s by simp [step, here]]
      exact ⟨same, still⟩
    | some lap =>
      rw [show s.step .advance = s.advance lap by simp [step, here]]
      exact carries_advance here (by simpa [publishes, here] using going)
  | handle op handles =>
    show s.Carries (s.handle op)
    unfold handle
    split <;> exact ⟨same, still⟩
  | drop => exact ⟨same, still⟩
  | answer crew i a =>
    show s.Carries (s.answer crew i a)
    unfold answer
    split
    · exact ⟨same, still⟩
    · exact ⟨s.watch.monitor.carries_withCrew _ _, still⟩
  | task crew now i =>
    show s.Carries (s.task crew now i)
    unfold task
    split
    · exact ⟨same, still⟩
    · next t _ =>
      have frame := (({ s.watch with storeHeld := s.alive } : Watch).stepTask_frame now t).1
      refine ⟨?_, still⟩
      dsimp only [turned]
      rw [frame]
      exact s.watch.monitor.carries_withCrew _ _
  | stop =>
    show s.Carries s.stop
    unfold stop
    split
    case h_3 => split <;> exact ⟨⟨rfl, rfl, rfl⟩, still⟩
    case h_5 =>
      split
      · exact ⟨same, still⟩
      · split <;> exact ⟨⟨rfl, rfl, rfl⟩, still⟩
    all_goals exact ⟨⟨rfl, rfl, rfl⟩, still⟩

/-- **Step.** A cycle at its end publishes its snapshot, with the counts of the store if it holds
one. -/
theorem step_publishing (s : Shift) (ends : s.publishes e = true) :
    ∃ lap ∈ s.lap, ∃ shown, (shown = lap.snapshot ∨ shown = s.watch.counted lap.snapshot) ∧
      s.step e = { s with watch := s.watch.publish shown, lap := none } := by
  cases e <;> try cases ends
  obtain ⟨lap, here, publishing⟩ := (Option.any_eq_true _ _).1 ends
  have advances : s.step .advance = s.advance lap := by simp [step, here]
  unfold Lap.publishes at publishing
  split at publishing
  · next holds stage =>
    refine ⟨lap, here, if holds then s.watch.counted lap.snapshot else lap.snapshot, ?_, ?_⟩
    · cases holds
      · exact .inl rfl
      · exact .inr rfl
    · rw [advances, advance, stage]
      rfl
  · cases publishing

end Shift

/-! ## Cycles -/

namespace Journal

variable {j : Journal}

section Cycles

variable [Sampler σ]

/-- A cycle that begins measures, and has a page with what it measured. -/
theorem begin_cases (byLoop : Bool) (settings : Settings) (now : Int) (source : σ) (j : Journal) :
    let monitor := j.shift.watch.monitor
    let took := Readings.take monitor.earlierCpu (monitor.UpdatesDue settings)
      ({ source } : Questioned σ)
    j.begin byLoop settings now source = j ∨
      ∃ m snapshot, monitor.measured now took.1 = .ok (m, snapshot) ∧
        j.begin byLoop settings now source =
          { shift := { j.shift with
              watch.monitor := m, lap := some { settings, now, snapshot, byLoop } }
            pages := { settings, asked := took.2.asked, readings := took.1 } :: j.pages } := by
  intro monitor took
  unfold begin Shift.begin
  dsimp only
  cases resting : j.shift.lap with
  | some lap => exact .inl (by simp)
  | none =>
    by_cases refused : byLoop = true ∧ j.shift.watch.monitor.looping = false
    · exact .inl (by simp [refused, resting])
    · cases measured : monitor.measured now took.1 with
      | error e => exact .inl (by simp [refused, resting])
      | ok made =>
        refine .inr ⟨made.1, made.2, rfl, ?_⟩
        simp only [refused, Option.isSome_none, Bool.false_eq_true, or_self, ↓reduceIte,
          Option.isNone_none, Option.isSome_some, and_self]
        rfl

theorem shift_begin (byLoop : Bool) (settings : Settings) (now : Int) (source : σ) (j : Journal) :
    (j.begin byLoop settings now source).shift =
      let monitor := j.shift.watch.monitor
      j.shift.begin byLoop settings now
        (Readings.take monitor.earlierCpu (monitor.UpdatesDue settings) source).1 := by
  dsimp only
  rw [← (Readings.take_questioned _ _ ({ source } : Questioned σ)).1]
  unfold begin
  dsimp only
  split <;> rfl

theorem shift_run_advance (n : Nat) (j : Journal) :
    (j.run (List.replicate n (.other .advance id : Event σ))).shift =
      j.shift.run (List.replicate n .advance) := by
  induction n generalizing j with
  | zero => rfl
  | succ n ih => exact ih (j.other .advance)

/-- **Cycles.** A cycle that completes does to the monitor what it does in a journal when nothing
comes between its steps. -/
theorem run_cycle (alone : j.shift.Alone) (resting : j.shift.lap = none) {settings : Settings}
    {clock ended : Int} {source after : σ} {w : Watch}
    (completes : j.shift.watch.cycle settings clock source = .ok (w, ended, after)) :
    ∃ n deeds,
      (j.run (.begin false settings (ended / 1000) source ::
        List.replicate n (.other .advance id))).shift = { j.shift with watch := w, deeds } := by
  let monitor := j.shift.watch.monitor
  let r := (Readings.take monitor.earlierCpu (monitor.UpdatesDue settings) source).1
  dsimp only [Watch.cycle] at completes
  cases once : j.shift.watch.cycleWith settings ((clock + r.waited) / 1000) r with
  | error e =>
    rw [once] at completes
    cases completes
  | ok w' =>
    rw [once] at completes
    cases completes
    obtain ⟨deeds, n, advances⟩ := Shift.run_cycle alone resting (nofun : false = true → _) once
    refine ⟨n, deeds, ?_⟩
    rw [← advances]
    show ((j.begin _ _ _ _).run _).shift = _
    rw [shift_run_advance, shift_begin]
    rfl

end Cycles

/-! ## Runs -/

/-- What the monitor remembers is what its pages tell, and every page tells what is so. -/
structure Kept (j : Journal) : Prop where
  earlierCpu : j.shift.watch.monitor.earlierCpu = Page.lastRead? j.pages
  cycles : j.shift.watch.monitor.cycles = j.pages.length
  snapshot : j.shift.watch.monitor.snapshot = Page.lastSnapshot j.pages
  own : j.shift.watch.monitor.snapshot.OwnUsage
  /-- The cycle that is under way has the last page. -/
  lap : ∀ lap ∈ j.shift.lap, ∃ page earlier, j.pages = page :: earlier ∧ page.published = none ∧
    page.Shows earlier lap.snapshot
  pages : ∀ page earlier, page :: earlier <:+ j.pages → page.Sound earlier

theorem kept_fresh (store : Store) (hasBackend looping : Bool) (name : Nat → String) :
    (fresh store hasBackend looping name).Kept where
  earlierCpu := rfl
  cycles := rfl
  snapshot := rfl
  own := ⟨rfl, rfl⟩
  lap _ mem := absurd mem (Option.not_mem_none _)
  pages _ _ suffix := absurd (List.suffix_nil.1 suffix) (List.cons_ne_nil _ _)

namespace Kept

variable (h : j.Kept)

include h

/-- **Step.** A cycle that begins goes on from what the pages tell. -/
theorem begin [Sampler σ] (byLoop : Bool) (settings : Settings) (now : Int) (source : σ) :
    (j.begin byLoop settings now source).Kept := by
  rcases begin_cases byLoop settings now source j with same | ⟨m, snapshot, measured, begun⟩
  · rw [same]
    exact h
  · obtain ⟨rfl, rfl⟩ := Monitor.eq_of_measured measured
    rw [begun]
    have taken := Readings.taken_take j.shift.watch.monitor.earlierCpu
      (j.shift.watch.monitor.UpdatesDue settings) ({ source } : Questioned σ)
    have told := Readings.updates_mem_asked j.shift.watch.monitor.earlierCpu
      (j.shift.watch.monitor.UpdatesDue settings) source
    generalize Readings.take j.shift.watch.monitor.earlierCpu
      (j.shift.watch.monitor.UpdatesDue settings) ({ source } : Questioned σ) = took at taken told ⊢
    have due := told.trans decide_eq_true_iff
    rw [Monitor.updatesDue_iff, h.cycles] at due
    let page : Page := { settings, asked := took.2.asked, readings := took.1 }
    have follows := Snapshot.follows_next j.shift.watch.monitor.snapshot taken
      (j.shift.watch.monitor.cycles + 1) now
    have shows : page.Shows j.pages
        { j.shift.watch.monitor.snapshot.next j.shift.watch.monitor.earlierCpu took.1 with
          cycle := j.shift.watch.monitor.cycles + 1, timestamp := now } := by
      refine ⟨?_, follows.ownUsage h.own, congrArg (· + 1) h.cycles⟩
      rw [← h.snapshot, ← h.earlierCpu]
      exact follows
    refine ⟨?_, congrArg (· + 1) h.cycles, ?_, h.own, ?_, ?_⟩
    · have read : page.cpuReads.head? = _ := Page.head?_cpuReads taken
      rw [Page.lastRead?_cons, ← h.earlierCpu, read]
    · rw [Page.lastSnapshot_cons, ← h.snapshot]
      rfl
    · intro lap mem
      obtain rfl := Option.some.inj mem
      exact ⟨page, j.pages, rfl, rfl, shows⟩
    · intro page' earlier suffix
      rcases List.suffix_cons_iff.1 suffix with same | before
      · obtain ⟨rfl, rfl⟩ := List.cons.inj same
        refine ⟨due, ?_, nofun⟩
        rw [taken.updates]
        exact told.symm
      · exact h.pages page' earlier before

/-- **Step.** A cycle that ends publishes what its page shows, and nothing else matters. -/
theorem other {e : Shift.Event} (goes : ¬ e.Begins) : (j.other e).Kept := by
  cases ends : j.shift.publishes e with
  | false =>
    have carries := j.shift.carries_step goes ends
    have pages : (j.other e).pages = j.pages := by rw [Journal.other, if_neg (by simp [ends])]
    refine ⟨?_, ?_, ?_, ?_, ?_, ?_⟩
    · rw [pages]
      exact carries.monitor.earlierCpu.trans h.earlierCpu
    · rw [pages]
      exact carries.monitor.cycles.trans h.cycles
    · rw [pages]
      exact carries.monitor.snapshot.trans h.snapshot
    · exact carries.monitor.snapshot ▸ h.own
    · intro lap mem
      obtain ⟨before, here, same⟩ := carries.lap lap mem
      rw [pages, same]
      exact h.lap before here
    · rw [pages]
      exact h.pages
  | true =>
    obtain ⟨lap, here, s, counted, after⟩ := j.shift.step_publishing ends
    obtain ⟨page, earlier, last, unpublished, shows⟩ := h.lap lap here
    have shown : page.Shows earlier s := by
      rcases counted with rfl | rfl
      · exact shows
      · exact shows.counted _
    have written : j.other e =
        { shift := { j.shift with watch := j.shift.watch.publish s, lap := none }
          pages := { page with published := some s } :: earlier } := by
      rw [Journal.other, after, if_pos ends, last]
      rfl
    rw [written]
    have earlierCpu := h.earlierCpu
    have cycles := h.cycles
    rw [last] at earlierCpu cycles
    refine ⟨earlierCpu, cycles, ?_, shown.own, fun _ mem => absurd mem (Option.not_mem_none _), ?_⟩
    · rw [Page.lastSnapshot_cons]
      rfl
    · intro page' earlier' suffix
      rcases List.suffix_cons_iff.1 suffix with same | before
      · obtain ⟨rfl, rfl⟩ := List.cons.inj same
        have sound := h.pages page earlier' (last ▸ List.suffix_refl _)
        refine ⟨sound.due, sound.told, fun t mem => ?_⟩
        obtain rfl := Option.some.inj mem
        exact ⟨shown.follows, shown.own, shown.cycle⟩
      · exact h.pages page' earlier' (last ▸ before.trans (List.suffix_cons _ _))

theorem step [Sampler σ] (e : Event σ) : (j.step e).Kept := by
  cases e with
  | begin byLoop settings now source => exact h.begin byLoop settings now source
  | other e goes => exact h.other goes

/-- **Runs.** -/
theorem run [Sampler σ] (events : List (Event σ)) : (j.run events).Kept := by
  induction events generalizing j with
  | nil => exact h
  | cons e events ih => exact ih (h.step e)

end Kept

/-- In every run of a monitor that has just been set up, whatever its source of measurements answers
and wherever it fails, the monitor's snapshot is the one published last. Every cycle with a page,
after those with the earlier pages,

* asks for updates just if the number of cycles before it is a multiple of the setting, or the
  setting is 0, which is not valid, and has a reading of them just if it asks;
* if it publishes a snapshot, has in each group of its fields what its own measurement gave, or, if
  that failed or was not made, what was in the snapshot published last before;
* has in it the usage that its own sizes make, and its own number, counted from 1. -/
theorem snapshots_follow [Sampler σ] (store : Store) (hasBackend looping : Bool)
    (name : Nat → String) (events : List (Event σ)) :
    let j := (fresh store hasBackend looping name).run events
    j.shift.watch.monitor.snapshot = Page.lastSnapshot j.pages ∧
    ∀ page earlier, page :: earlier <:+ j.pages →
      (.updates ∈ page.asked ↔ page.settings.monitor.updateEvery ∣ earlier.length ∨
        page.settings.monitor.updateEvery = 0) ∧
      (page.settings.Valid → page.settings.monitor.updateEvery ≠ 0) ∧
      (page.readings.updates.isSome = true ↔ .updates ∈ page.asked) ∧
      ∀ s ∈ page.published,
        s.Follows (Page.lastSnapshot earlier) (Page.lastRead? earlier) page.readings ∧
        s.OwnUsage ∧ s.cycle = earlier.length + 1 := by
  intro j
  have kept : j.Kept := (kept_fresh store hasBackend looping name).run events
  refine ⟨kept.snapshot, fun page earlier suffix => ?_⟩
  have sound := kept.pages page earlier suffix
  refine ⟨sound.due, fun valid => valid.updateEvery_ne_zero, sound.told, fun s mem => ?_⟩
  have shows := sound.shows s mem
  exact ⟨shows.follows, shows.own, shows.cycle⟩

/-- A cycle of the loop that counts updates every other time, from its beginning to its end. -/
def wholeCycle (source : ScriptedHost) : List (Event ScriptedHost) :=
  .begin true { monitor := { updateEvery := 2 } } 1700000000 source ::
    List.replicate 4 (.other .advance id)

/-- Of the first cycle the memory fails, and the second reading of the processor; of the second
cycle the processor and the disk. -/
def failing : List (Event ScriptedHost) :=
  wholeCycle
      { cpu := [some { user := 100, idle := 100 }, none]
        memory := none
        disk := some ⟨"/", 256, 1024⟩
        updates := some ⟨3, 0⟩ }
    ++ wholeCycle
      { cpu := [none]
        memory := some ⟨512, 1024⟩
        disk := none
        updates := some ⟨9, 9⟩ }
    ++ wholeCycle { cpu := [some { user := 150, idle := 250 }] }

/-- The second cycle has memory of its own, the disk and the updates of the first one, and no
question about updates. -/
theorem snapshots_follow_failing :
    let j := (fresh (.onTable "alerts.db" none) false true toString).run failing
    ∃ third second first s, j.pages = [third, second, first] ∧ second.settings.Valid ∧
      .updates ∉ second.asked ∧ second.published = some s ∧
      (s.memoryUsed, s.diskUsed, s.updatesPart) = (512, 256, 3, 0) ∧
      s.Follows (Page.lastSnapshot [first]) (Page.lastRead? [first]) second.readings ∧
      s.OwnUsage := by
  intro j
  have valid : ∀ page ∈ j.pages, page.settings.Valid ∧ page.settings.monitor.updateEvery = 2 := by
    decide +kernel
  have shown : j.pages.map (fun page => page.published.map fun s =>
      (s.memoryUsed, s.diskUsed, s.updatesPart)) =
        [some (0, 0, 0, 0), some (512, 256, 3, 0), some (0, 256, 3, 0)] := by decide +kernel
  obtain ⟨-, sound⟩ :=
    snapshots_follow (.onTable "alerts.db" none) false true toString failing
  have reached : j = (fresh (.onTable "alerts.db" none) false true toString).run failing := rfl
  rw [← reached] at sound
  clear_value j
  obtain ⟨third, second, first, pages⟩ := List.length_eq_three.1
    (by simpa using congrArg List.length shown : j.pages.length = 3)
  simp only [pages, List.map_cons, List.map_nil, List.cons.injEq, Option.map_eq_some_iff,
    and_true] at shown
  obtain ⟨-, ⟨s, published, parts⟩, -⟩ := shown
  obtain ⟨accepted, every⟩ := valid second (by simp [pages])
  obtain ⟨due, counts, -, shows⟩ := sound second [first] (pages ▸ List.suffix_cons _ _)
  obtain ⟨follows, own, -⟩ := shows s published
  refine ⟨third, second, first, s, pages, accepted, ?_, published, parts, follows, own⟩
  rw [due, or_iff_left (counts accepted), every, List.length_singleton]
  decide

end Journal

end HostWatch
