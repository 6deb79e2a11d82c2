import HostWatch.Host.Live
import HostWatch.Proofs.Monitor.Journal

/-!
# Update checks that fail

`counts_kept_by_failed_checks`: which package tool counts updates, when its failure is noticed, and
what a cycle then publishes. The first tool that the host has is the one that is asked. Its failure
is an error, and the published counts stay as they were, but for one case: whatever status the first
of all tools ends with, what it printed is counted (`status_of_apt_unheeded`).

1. The first tool there is decides (`countUpdates_cases`), and its status tells just if it is one of
   the other tools (`interpret_error_iff`).
2. The page of a cycle stays in the journal, with what the cycle measured (`HasPage.run`).
3. The counts in a snapshot are those of its page's check, or else those published before.
-/

namespace HostWatch

namespace PackageTool

/-! ## Which tool counts -/

/-- There is such a program. -/
def Run.IsPresent : Run → Prop
  | .missing => False
  | _ => True

instance : DecidablePred Run.IsPresent := fun r => by
  cases r <;> unfold Run.IsPresent <;> infer_instance

/-- The tool that is asked: the first one that the host has. -/
def first? (run : PackageTool → Run) : Option PackageTool :=
  all.find? fun tool => (run tool).IsPresent

/-- The statuses that a tool uses for success. -/
def successes : PackageTool → List Int
  | apt => [0]
  | checkupdates => [0, 2]
  | dnf => [0, 100]

/-- The tool could not be started, or a signal killed it, or its status is none that it uses for
success. -/
def Fails (tool : PackageTool) : Run → Prop
  | .missing => False
  | .refused _ => True
  | .ended o => ∀ status ∈ tool.successes, o.status ≠ some status

instance (tool : PackageTool) : DecidablePred tool.Fails := fun r => by
  cases r <;> unfold Fails <;> infer_instance

variable {run : PackageTool → Run} {tool : PackageTool} {tools : List PackageTool}

/-- The first tool there is decides. -/
theorem countUpdates_cases
    (first : tools.find? (fun tool => decide (run tool).IsPresent) = some tool) :
    (∃ cause, run tool = .refused cause ∧
      countUpdates run tools = .error (.unreadable tool.program cause)) ∨
    ∃ o, run tool = .ended o ∧ countUpdates run tools = tool.interpret o := by
  induction tools with
  | nil => cases first
  | cons head tools ih =>
    rw [countUpdates]
    cases ran : run head with
    | missing => exact ih (by simpa [List.find?_cons, ran, Run.IsPresent] using first)
    | refused cause =>
      have same : head = tool := by simpa [List.find?_cons, ran, Run.IsPresent] using first
      exact .inl ⟨cause, same ▸ ran, same ▸ rfl⟩
    | ended o =>
      have same : head = tool := by simpa [List.find?_cons, ran, Run.IsPresent] using first
      exact .inr ⟨o, same ▸ ran, same ▸ rfl⟩

theorem countUpdates_none
    (absent : tools.find? (fun tool => decide (run tool).IsPresent) = none) :
    countUpdates run tools = .error (.unavailable "no supported package manager found") := by
  induction tools with
  | nil => rfl
  | cons head tools ih =>
    obtain ⟨missing, absent⟩ := List.forall_mem_cons.1 (List.find?_eq_none.1 absent)
    rw [countUpdates]
    cases ran : run head with
    | missing => exact ih (List.find?_eq_none.2 absent)
    | refused cause => exact absurd trivial (by simp [ran, Run.IsPresent] at missing)
    | ended o => exact absurd trivial (by simp [ran, Run.IsPresent] at missing)

/-- A tool's failure is told by its status, but the first tool's is not. -/
theorem interpret_error_iff (tool : PackageTool) (o : Output) :
    (∃ e, tool.interpret o = .error e) ↔ tool.Fails (.ended o) ∧ tool ≠ apt := by
  obtain ⟨status, printed⟩ := o
  cases tool with
  | apt => simp [interpret]
  | checkupdates =>
    unfold interpret
    split <;> simp_all [Fails, successes]
  | dnf =>
    unfold interpret
    split <;> simp_all [Fails, successes]

theorem fails_of_countUpdates_error {e : SampleError} (first : first? run = some tool)
    (failed : countUpdates run all = .error e) : tool.Fails (run tool) := by
  rcases countUpdates_cases first with ⟨cause, ran, -⟩ | ⟨o, ran, counted⟩
  · rw [ran]
    trivial
  · rw [ran]
    exact ((interpret_error_iff tool o).1 ⟨e, counted.symm.trans failed⟩).1

/-- The first of all tools is asked wherever it is. -/
theorem first?_of_apt {o : Output} (ended : run apt = .ended o) : first? run = some apt := by
  simp [first?, all, ended, Run.IsPresent]

/-- **Checks.** A check is an error just if there is no tool at all, or the one that is asked fails
and is not the first of all that has run to its end. -/
theorem countUpdates_error_iff (run : PackageTool → Run) :
    (∃ e, countUpdates run all = .error e) ↔
      ∀ tool ∈ first? run, tool.Fails (run tool) ∧ ∀ o, run apt ≠ .ended o := by
  constructor
  · rintro ⟨e, failed⟩ tool first
    refine ⟨fails_of_countUpdates_error first failed, fun o ended => ?_⟩
    obtain rfl : apt = tool := Option.some.inj ((first?_of_apt ended).symm.trans first)
    rcases countUpdates_cases first with ⟨cause, ran, -⟩ | ⟨o', -, counted⟩
    · cases ended.symm.trans ran
    · exact ((interpret_error_iff apt o').1 ⟨e, counted.symm.trans failed⟩).2 rfl
  · intro fails
    cases asked : first? run with
    | none => exact ⟨_, countUpdates_none asked⟩
    | some tool =>
      obtain ⟨fails, unended⟩ := fails tool asked
      rcases countUpdates_cases asked with ⟨cause, -, refused⟩ | ⟨o, ran, counted⟩
      · exact ⟨_, refused⟩
      · have other : tool ≠ apt := by
          rintro rfl
          exact unended o ran
        obtain ⟨e, failed⟩ := (interpret_error_iff tool o).2 ⟨ran ▸ fails, other⟩
        exact ⟨e, counted.trans failed⟩

/-- Every failure is noticed just if the first of all tools, where it runs to its end, ends well. -/
theorem failures_noticed_iff (run : PackageTool → Run) :
    (∀ tool ∈ first? run, tool.Fails (run tool) → ∃ e, countUpdates run all = .error e) ↔
      ∀ o, run apt = .ended o → o.status = some 0 := by
  rw [countUpdates_error_iff]
  constructor
  · intro noticed o ended
    by_contra unwell
    have fails : apt.Fails (run apt) := by
      rw [ended]
      simpa [Fails, successes] using unwell
    have asked := first?_of_apt ended
    exact (noticed apt asked fails apt asked).2 o ended
  · intro well tool asked fails tool' asked'
    obtain rfl : tool = tool' := Option.mem_unique asked asked'
    refine ⟨fails, fun o ended => ?_⟩
    obtain rfl : apt = tool := Option.some.inj ((first?_of_apt ended).symm.trans asked)
    rw [ended] at fails
    exact fails 0 (by simp [successes]) (well o ended)

end PackageTool

/-! ## Pages -/

/-- A live host counts updates with its package tools. -/
theorem Readings.updates_take (earlier : Option CpuCounters) (due : Bool) (live : LiveHost) :
    (take earlier due live).1.updates =
      if due then some (PackageTool.countUpdates live.host.run PackageTool.all) else none := by
  unfold take
  dsimp only [Sampler.cpu]
  cases live.readCpu <;> cases earlier <;> cases due <;> rfl

namespace Journal

variable [Sampler σ] {j : Journal} {page : Page} {earlier : List Page}

/-- The journal has a page after earlier ones. Something may have been published on it. -/
def HasPage (j : Journal) (page : Page) (earlier : List Page) : Prop :=
  ∃ later published, j.pages = later ++ { page with published } :: earlier

theorem HasPage.step (h : j.HasPage page earlier) (e : Event σ) : (j.step e).HasPage page earlier := by
  obtain ⟨later, published, pages⟩ := h
  cases e with
  | begin byLoop settings now source =>
    show (j.begin byLoop settings now source).HasPage page earlier
    rcases begin_cases byLoop settings now source j with same | ⟨m, snapshot, -, begun⟩
    · rw [same]
      exact ⟨later, published, pages⟩
    · rw [begun]
      exact ⟨_ :: later, published, congrArg (_ :: ·) pages⟩
  | other e goes =>
    show (j.other e).HasPage page earlier
    unfold Journal.other HasPage
    dsimp only
    rw [pages]
    split
    · cases later with
      | nil => exact ⟨[], _, rfl⟩
      | cons last later => exact ⟨_ :: later, published, rfl⟩
    · exact ⟨later, published, rfl⟩

/-- **Pages.** A page stays after the same earlier ones, whatever happens. -/
theorem HasPage.run (h : j.HasPage page earlier) (events : List (Event σ)) :
    (j.run events).HasPage page earlier := by
  induction events generalizing j with
  | nil => exact h
  | cons e events ih => exact ih (h.step e)

/-- There is only one page after the same earlier ones. -/
theorem HasPage.readings_eq (h : j.HasPage page earlier) {page' : Page}
    (listed : page' :: earlier <:+ j.pages) : page'.readings = page.readings := by
  obtain ⟨later, published, pages⟩ := h
  have suffix : { page with published } :: earlier <:+ j.pages := ⟨later, pages.symm⟩
  have same := (List.suffix_of_suffix_length_le listed suffix (Nat.le_refl _)).eq_of_length rfl
  rw [(List.cons.inj same).1]

/-- A cycle that begins on a live host has a page with what its check of the updates gave. -/
theorem hasPage_begin {byLoop : Bool} {settings : Settings} {now : Int} {live : LiveHost}
    (begins : (j.begin byLoop settings now live).pages ≠ j.pages)
    (due : j.shift.watch.monitor.UpdatesDue settings) :
    ∃ page, (j.begin byLoop settings now live).HasPage page j.pages ∧
      page.readings.updates = some (PackageTool.countUpdates live.host.run PackageTool.all) := by
  rcases begin_cases byLoop settings now live j with same | ⟨m, snapshot, -, begun⟩
  · exact absurd (congrArg Journal.pages same) begins
  · rw [begun]
    refine ⟨{ settings, asked := _, readings := _ }, ⟨[], none, rfl⟩, ?_⟩
    show (Readings.take _ _ ({ source := live } : Questioned LiveHost)).1.updates = _
    rw [(Readings.take_questioned _ _ _).1, Readings.updates_take, if_pos (decide_eq_true due)]

/-- **Update checks.** Of the tools that the host has, the first one is asked for updates.

* The check is an error just if there is none, or if the one that is asked fails and the first of all
  tools has not run to its end.
* So the failure of the tool that is asked is an error wherever the first of all tools, if it runs to
  its end, ends with the status 0, and only there.
* In every run of a monitor that has just been set up, the snapshot of a cycle that checks updates
  has the counts of its own check, or if this is an error those published last before. -/
theorem counts_kept_by_failed_checks (store : Store) (hasBackend looping : Bool)
    (name : Nat → String) (before after : List (Event LiveHost)) (byLoop : Bool)
    (settings : Settings) (now : Int) (live : LiveHost) :
    let run := live.host.run
    let check := PackageTool.countUpdates run PackageTool.all
    let j := (fresh store hasBackend looping name).run before
    let begun := j.step (.begin byLoop settings now live)
    ((∃ e, check = .error e) ↔
      ∀ tool ∈ PackageTool.first? run, tool.Fails (run tool) ∧ ∀ o, run .apt ≠ .ended o) ∧
    ((∀ tool ∈ PackageTool.first? run, tool.Fails (run tool) → ∃ e, check = .error e) ↔
      ∀ o, run .apt = .ended o → o.status = some 0) ∧
    (begun.pages ≠ j.pages →
      settings.monitor.updateEvery ∣ j.pages.length ∨ settings.monitor.updateEvery = 0 →
      ∀ page, page :: j.pages <:+ (begun.run after).pages → ∀ s ∈ page.published,
        s.updatesPart =
          carried check UpdateCounts.part (Page.lastSnapshot j.pages).updatesPart) := by
  intro run check j begun
  refine ⟨PackageTool.countUpdates_error_iff run, PackageTool.failures_noticed_iff run, ?_⟩
  intro begins due page listed s published
  have kept : j.Kept := (kept_fresh store hasBackend looping name).run before
  rw [← kept.cycles, ← Monitor.updatesDue_iff] at due
  obtain ⟨first, stays, checked⟩ := hasPage_begin begins due
  have readings : page.readings = first.readings := (stays.run after).readings_eq listed
  have sound := ((kept.step _).run after).pages page j.pages listed
  rw [(sound.shows s published).follows.updates, readings, checked]
  rfl

/-- A host that tells nothing but what comes of starting its one package tool. -/
def hostWith (tool : PackageTool) (status : Option Int) (printed : String) : LiveHost where
  host :=
    { stat := .error .notFound, memory := .error .notFound, load := .error .notFound
      mounts := .error .notFound, size := fun _ => none
      run := fun other =>
        if other = tool then .ended ⟨status, Text.utf8 printed⟩ else .missing }

/-- The beginning of a cycle that checks updates. -/
def beginCheck (live : LiveHost) : Event LiveHost :=
  .begin true { monitor := { updateEvery := 1 } } 1700000000 live

theorem not_begins_advance : ¬ Shift.Event.Begins .advance := id

/-- The rest of a cycle that finds nothing. -/
def restOfCycle : List (Event LiveHost) := List.replicate 4 (.other .advance not_begins_advance)

/-- A tool counts an update. In the next cycle it fails and prints the same, and what was published
stays. -/
theorem counts_kept_by_failed_checks_dnf :
    let listed := "kernel.x86_64 6.5.12 updates"
    let live := hostWith .dnf (some 1) listed
    let j := (fresh (.onTable "alerts.db" none) false true toString).run
      (beginCheck (hostWith .dnf (some 100) listed) :: restOfCycle)
    let begun := j.step (beginCheck live)
    PackageTool.first? live.host.run = some .dnf ∧
      PackageTool.Fails .dnf (live.host.run .dnf) ∧ begun.pages ≠ j.pages ∧
      ∃ page s, page :: j.pages <:+ (begun.run restOfCycle).pages ∧ page.published = some s ∧
        s.updatesPart = (Page.lastSnapshot j.pages).updatesPart ∧ s.updatesPart = (1, 0) := by
  intro listed live j begun
  have asked : PackageTool.first? live.host.run = some .dnf := by decide +kernel
  have fails : PackageTool.Fails .dnf (live.host.run .dnf) := by decide +kernel
  have lengths : begun.pages.length = 2 ∧ j.pages.length = 1 := by decide +kernel
  have shown : (begun.run restOfCycle).pages.map (fun page => page.published.map (·.updatesPart)) =
      [some (1, 0), some (1, 0)] := by decide +kernel
  have begins : begun.pages ≠ j.pages := fun same => by
    have length := congrArg List.length same
    omega
  obtain ⟨noticed, -, kept⟩ := counts_kept_by_failed_checks (.onTable "alerts.db" none) false true
    toString (beginCheck (hostWith .dnf (some 100) listed) :: restOfCycle) restOfCycle true
    { monitor := { updateEvery := 1 } } 1700000000 live
  obtain ⟨e, failed⟩ := noticed.2 fun tool first => by
    obtain rfl := Option.mem_unique asked first
    exact ⟨fails, nofun⟩
  obtain ⟨page, stays, -⟩ : ∃ page, begun.HasPage page j.pages ∧ _ :=
    hasPage_begin begins (by decide +kernel)
  obtain ⟨later, published, pages⟩ := stays.run restOfCycle
  rw [pages] at shown
  obtain rfl : later = [] := by
    have length := congrArg List.length shown
    simp only [List.length_map, List.length_append, List.length_cons, List.length_nil] at length
    exact List.eq_nil_of_length_eq_zero (by omega)
  obtain ⟨s, rfl, counts⟩ := Option.map_eq_some_iff.1 (List.cons.inj shown).1
  have listed : { page with published := some s } :: j.pages <:+ (begun.run restOfCycle).pages :=
    ⟨[], pages.symm⟩
  refine ⟨asked, fails, begins, _, s, listed, rfl, ?_, counts⟩
  rw [kept begins (.inl (Nat.one_dvd _)) _ listed s rfl, failed]
  rfl

/-- The first of all tools fails without a word, after it has counted an update: the check succeeds
and the published counts are zero. -/
theorem status_of_apt_unheeded :
    let live := hostWith .apt (some 100) ""
    let counted := hostWith .apt (some 0) "bash/jammy-updates 5.1 amd64 [upgradable from: 5.0]"
    let j := (fresh (.onTable "alerts.db" none) false true toString).run
      (beginCheck counted :: restOfCycle ++ beginCheck live :: restOfCycle)
    PackageTool.first? live.host.run = some .apt ∧
      PackageTool.Fails .apt (live.host.run .apt) ∧
      PackageTool.countUpdates live.host.run PackageTool.all = .ok ⟨0, 0⟩ ∧
      j.pages.map (fun page => page.published.map (·.updatesPart)) =
        [some (0, 0), some (1, 0)] := by
  refine ⟨by decide +kernel, by decide +kernel, rfl, by decide +kernel⟩

end Journal

end HostWatch
