import HostWatch.Proofs.Monitor.Patrol
import HostWatch.Proofs.Monitor.Tasks
import HostWatch.Proofs.NameMap

/-!
# What tasks have stored

Every analysis in the store that was not there before was stored by the one task of its parent
(`Ledger`), a task that has not ended has stored nothing (`Crews`), and a task is only made for an
alert that has none yet (`Lap.Sound`). Every event keeps all three (`Sound.step`).
-/

namespace HostWatch

open Store (Op)

/-! ## Deeds -/

namespace Accounted

variable {deeds : List Deed} {p q b c : Alert}

theorem analyses (h : Accounted deeds) (mem : .analysed p b ∈ deeds) : b.Analyses p := by
  induction h with
  | nil => cases mem
  | raised _ _ ih => exact ih (by simpa using mem)
  | asked _ _ _ ih => exact ih (by simpa using mem)
  | analysed _ _ _ _ linked ih =>
    rcases List.mem_cons.1 mem with new | before
    · cases new
      exact linked
    · exact ih before

theorem asked_of_analysed (h : Accounted deeds) (mem : .analysed p b ∈ deeds) :
    .asked p ∈ deeds := by
  induction h with
  | nil => cases mem
  | raised _ _ ih => exact List.mem_cons_of_mem _ (ih (by simpa using mem))
  | asked _ _ _ ih => exact List.mem_cons_of_mem _ (ih (by simpa using mem))
  | analysed _ asked _ _ _ ih =>
    rcases List.mem_cons.1 mem with new | before
    · cases new
      exact List.mem_cons_of_mem _ asked
    · exact List.mem_cons_of_mem _ (ih before)

theorem raised_of_asked (h : Accounted deeds) (mem : .asked p ∈ deeds) : .raised p ∈ deeds := by
  induction h with
  | nil => cases mem
  | raised _ _ ih => exact List.mem_cons_of_mem _ (ih (by simpa using mem))
  | asked _ raised _ ih =>
    rcases List.mem_cons.1 mem with new | before
    · cases new
      exact List.mem_cons_of_mem _ raised
    · exact List.mem_cons_of_mem _ (ih before)
  | analysed _ _ _ _ _ ih => exact List.mem_cons_of_mem _ (ih (by simpa using mem))

/-- An analysis was stored once. -/
theorem eq_of_id (h : Accounted deeds) (hp : .analysed p b ∈ deeds) (hq : .analysed q c ∈ deeds)
    (same : b.id = c.id) : p = q := by
  induction h with
  | nil => cases hp
  | raised _ _ ih => exact ih (by simpa using hp) (by simpa using hq)
  | asked _ _ _ ih => exact ih (by simpa using hp) (by simpa using hq)
  | analysed _ _ _ unused _ ih =>
    rcases List.mem_cons.1 hp with new | before
    · cases new
      rcases List.mem_cons.1 hq with new' | before'
      · cases new'
        rfl
      · exact absurd same.symm (unused _ before' _ rfl)
    · rcases List.mem_cons.1 hq with new' | before'
      · cases new'
        exact absurd same (unused _ before _ rfl)
      · exact ih before before'

end Accounted

/-! ## Alerts and deeds -/

theorem analyses_prepare (fresh : String) (now : Int) (parent : Alert) (text : String) :
    (Store.prepare fresh (analysisOf now parent text)).Analyses parent where
  category := rfl
  severity := rfl
  parent? := by
    show (analysisOf now parent text).metadata.get? Alert.parentKey = some parent.id
    simp [analysisOf, NameMap.get?, NameMap.put, lookup_putEntry, Alert.parentKey,
      Alert.enhancedKey]

/-- What becomes of an alert is an analysis only of what the alert was one of. -/
theorem same_of_fate {op : Op} {a b : Alert} (fate : op.fate a = some b) :
    b.id = a.id ∧ b.category = a.category ∧ b.severity = a.severity ∧ b.parent? = a.parent? := by
  rcases Op.moves_of_fate fate with rfl | moves
  · exact ⟨rfl, rfl, rfl, rfl⟩
  · cases moves <;> exact ⟨rfl, rfl, rfl, rfl⟩

theorem category_of_mem_evaluate {s : Snapshot} {limits : Limits} {f : Finding}
    (h : f ∈ evaluate s limits) : f.category ≠ .aiAnalysis := by
  have := (categories_evaluate s limits).subset (List.mem_map_of_mem h)
  intro analysis
  rw [analysis] at this
  simp at this

/-- The store holds these alerts, and what was done accounts for the analyses among them that are
not old ones. -/
structure Ledger (old : List Alert) (store : Store) (ids : IdSupply) (deeds : List Deed)
    (alerts : List Alert) : Prop where
  holds : store.Holds alerts
  accounted : Accounted deeds
  named : ∀ d ∈ deeds, ∀ a ∈ d.stored?, ∃ k < ids.given, a.id = ids.name k
  recorded : ∀ c ∈ alerts, c.category = .aiAnalysis →
    (∃ a ∈ old, a.category = .aiAnalysis ∧ c.id = a.id) ∨
      ∃ p b, .analysed p b ∈ deeds ∧ c.id = b.id ∧ c.Analyses p

namespace Ledger

variable {old : List Alert} {store : Store} {ids : IdSupply} {deeds : List Deed}
  {alerts : List Alert} (h : Ledger old store ids deeds alerts)

include h

/-- What is done to stored alerts makes no analysis. -/
theorem apply {op : Op} (added : op.added alerts = []) :
    Ledger old (op.apply store) ids deeds (op.after alerts) where
  holds := h.holds.apply op
  accounted := h.accounted
  named := h.named
  recorded c mem category := by
    rw [Op.after, added, List.append_nil] at mem
    obtain ⟨a, before, fate⟩ := List.mem_filterMap.1 mem
    obtain ⟨id, category', severity, parent?⟩ := same_of_fate fate
    rcases h.recorded a before (category' ▸ category) with
      ⟨o, known, analysis, same⟩ | ⟨p, b, deed, same, analyses⟩
    · exact .inl ⟨o, known, analysis, id.trans same⟩
    · exact .inr ⟨p, b, deed, id.trans same, category, severity.trans analyses.severity,
        parent?.trans analyses.parent?⟩

/-- An alert that gets the next id gets one that no other alert has got. -/
theorem unused (distinct : Function.Injective ids.name) {a : Alert} (unnamed : a.id = "") :
    Deed.Unused (Store.prepare ids.next a).id deeds := by
  rw [Store.prepare_id unnamed]
  intro d mem b stored same
  obtain ⟨k, below, id⟩ := h.named d mem b stored
  have : k = ids.given := distinct (id.symm.trans same)
  omega

/-- An alert joins the others with the deed that accounts for it. -/
theorem create {a : Alert} (unnamed : a.id = "")
    (one : Op.added (.create ids.next a) alerts = [Store.prepare ids.next a]) {d : Deed}
    (accounted : Accounted (d :: deeds)) (stored : d.stored? = some (Store.prepare ids.next a))
    (recorded : a.category = .aiAnalysis → ∃ p, d = .analysed p (Store.prepare ids.next a)) :
    Ledger old ((Op.create ids.next a).apply store) ids.advance (d :: deeds)
      (Op.after (.create ids.next a) alerts) where
  holds := h.holds.apply _
  accounted := accounted
  named e mem b hb := by
    rcases List.mem_cons.1 mem with rfl | before
    · obtain rfl : Store.prepare ids.next a = b := Option.some.inj (stored.symm.trans hb)
      exact ⟨ids.given, Nat.lt_succ_self _, Store.prepare_id unnamed _⟩
    · obtain ⟨k, below, id⟩ := h.named e before b hb
      exact ⟨k, Nat.lt_succ_of_lt below, id⟩
  recorded c mem category := by
    rw [Op.after_create, one, List.mem_append, List.mem_singleton] at mem
    rcases mem with before | rfl
    · exact (h.recorded c before category).imp_right fun ⟨p, b, deed, rest⟩ =>
        ⟨p, b, List.mem_cons_of_mem _ deed, rest⟩
    · obtain ⟨p, rfl⟩ := recorded category
      exact .inr ⟨p, _, List.mem_cons_self, rfl, accounted.analyses List.mem_cons_self⟩

/-- A task that is made changes nothing in the store. -/
theorem ask {a : Alert} (raised : .raised a ∈ deeds)
    (once : ∀ q, .asked q ∈ deeds → q.id ≠ a.id) :
    Ledger old store ids (.asked a :: deeds) alerts where
  holds := h.holds
  accounted := .asked h.accounted raised once
  named e mem b hb := by
    rcases List.mem_cons.1 mem with rfl | before
    · cases hb
    · exact h.named e before b hb
  recorded c mem category := (h.recorded c mem category).imp_right
    fun ⟨p, b, deed, rest⟩ => ⟨p, b, List.mem_cons_of_mem _ deed, rest⟩

end Ledger

/-! ## Tasks and deeds -/

/-- Each task was made for an alert of its own, and has stored nothing before it ends. -/
structure Crews (deeds : List Deed) (tasks : List Enrichment) : Prop where
  asked : ∀ t ∈ tasks, .asked t.parent ∈ deeds
  apart : (tasks.map (·.parent.id)).Nodup
  unwritten : ∀ t ∈ tasks, t.phase ≠ .done → ∀ p b, .analysed p b ∈ deeds → p.id ≠ t.parent.id

namespace Crews

variable {deeds : List Deed} {tasks others : List Enrichment} {t t' : Enrichment}

theorem perm (h : Crews deeds tasks) (same : tasks.Perm others) : Crews deeds others where
  asked u mem := h.asked u (same.mem_iff.2 mem)
  apart := (same.map _).nodup_iff.1 h.apart
  unwritten u mem := h.unwritten u (same.mem_iff.2 mem)

theorem sublist (h : Crews deeds tasks) (fewer : others.Sublist tasks) : Crews deeds others where
  asked u mem := h.asked u (fewer.subset mem)
  apart := (fewer.map _).nodup h.apart
  unwritten u mem := h.unwritten u (fewer.subset mem)

theorem eq_of_parent (h : Crews deeds tasks) (ht : t ∈ tasks) (ht' : t' ∈ tasks)
    (same : t.parent.id = t'.parent.id) : t = t' :=
  List.inj_on_of_nodup_map h.apart ht ht' same

theorem raise (h : Crews deeds tasks) (a : Alert) : Crews (.raised a :: deeds) tasks where
  asked u mem := List.mem_cons_of_mem _ (h.asked u mem)
  apart := h.apart
  unwritten u mem going p b deed := h.unwritten u mem going p b (by simpa using deed)

/-- A task is made for an alert that has none. -/
theorem ask (h : Crews deeds tasks) (accounted : Accounted deeds) (asking : t.phase = .asking)
    (once : ∀ q, .asked q ∈ deeds → q.id ≠ t.parent.id) :
    Crews (.asked t.parent :: deeds) (t :: tasks) where
  asked u mem := by
    rcases List.mem_cons.1 mem with rfl | before
    · exact List.mem_cons_self
    · exact List.mem_cons_of_mem _ (h.asked u before)
  apart := by
    refine List.nodup_cons.2 ⟨fun mem => ?_, h.apart⟩
    obtain ⟨u, before, same⟩ := List.mem_map.1 mem
    exact once _ (h.asked u before) same
  unwritten u mem going p b deed := by
    have earlier : .analysed p b ∈ deeds := by simpa using deed
    rcases List.mem_cons.1 mem with rfl | before
    · exact once p (accounted.asked_of_analysed earlier)
    · exact h.unwritten u before going p b earlier

/-- A task turns into another one. -/
theorem turn (h : Crews deeds (t :: others)) (parent : t'.parent = t.parent)
    (going : t'.phase ≠ .done → t.phase ≠ .done) : Crews deeds (t' :: others) where
  asked u mem := by
    rcases List.mem_cons.1 mem with rfl | other
    · exact parent ▸ h.asked t List.mem_cons_self
    · exact h.asked u (List.mem_cons_of_mem _ other)
  apart := by
    have apart := h.apart
    rwa [List.map_cons, ← parent] at apart
  unwritten u mem still := by
    rcases List.mem_cons.1 mem with rfl | other
    · exact parent ▸ h.unwritten t List.mem_cons_self (going still)
    · exact h.unwritten u (List.mem_cons_of_mem _ other) still

/-- A task stores its analysis and ends. -/
theorem write (h : Crews deeds (t :: others)) (b : Alert) :
    Crews (.analysed t.parent b :: deeds) ({ t with phase := .done } :: others) where
  asked u mem := by
    have done : Crews deeds ({ t with phase := .done } :: others) := h.turn rfl (absurd rfl)
    exact List.mem_cons_of_mem _ (done.asked u mem)
  apart := h.apart
  unwritten u mem still p c deed := by
    rcases List.mem_cons.1 mem with rfl | other
    · exact absurd rfl still
    · rcases List.mem_cons.1 deed with new | before
      · cases new
        have apart := (List.nodup_cons.1 h.apart).1
        exact fun same => apart (List.mem_map.2 ⟨u, other, same.symm⟩)
      · exact h.unwritten u (List.mem_cons_of_mem _ other) still p c before

end Crews

/-! ## Cycles and deeds -/

/-- The findings that a cycle has not dealt with. -/
def Lap.Stage.findings : Lap.Stage → List Finding
  | .seeking fs => fs
  | .reporting f later => f :: later
  | .asking _ _ later => later
  | .reaping | .entering | .publishing _ => []

/-- The cycle has this limit on tasks, finds nothing that is an analysis, and makes a task only for
an alert that was raised and has none. -/
structure Lap.Sound (max : Nat) (deeds : List Deed) (lap : Lap) : Prop where
  limit : lap.settings.monitor.maxTasks = max
  findings : ∀ f ∈ lap.stage.findings, f.category ≠ .aiAnalysis
  next : ∀ f a later, lap.stage = .asking f a later →
    .raised a ∈ deeds ∧ ∀ q, .asked q ∈ deeds → q.id ≠ a.id

/-- A stage at which no task is about to be made, with findings that the cycle has. -/
theorem Lap.Sound.goOn {max : Nat} {deeds deeds' : List Deed} {lap : Lap}
    (h : lap.Sound max deeds) {stage : Lap.Stage}
    (findings : ∀ f ∈ stage.findings, f.category ≠ .aiAnalysis)
    (other : ∀ f a later, stage ≠ .asking f a later) :
    Lap.Sound max deeds' { lap with stage } where
  limit := h.limit
  findings := findings
  next f a later same := absurd same (other f a later)

/-- An analysis that a task stores meanwhile does not matter. -/
theorem Lap.Sound.analysed {max : Nat} {deeds : List Deed} {lap : Lap} (h : lap.Sound max deeds)
    (p b : Alert) : lap.Sound max (.analysed p b :: deeds) where
  limit := h.limit
  findings := h.findings
  next f a later stage := by
    obtain ⟨raised, once⟩ := h.next f a later stage
    exact ⟨List.mem_cons_of_mem _ raised, fun q asked => once q (by simpa using asked)⟩

namespace Shift

/-- Everything that is said above. -/
structure Sound (max : Nat) (old : List Alert) (s : Shift) (alerts : List Alert) : Prop where
  ledger : Ledger old s.watch.store s.watch.ids s.deeds alerts
  distinct : Function.Injective s.watch.ids.name
  crews : Crews s.deeds s.everyone
  lap : ∀ lap ∈ s.lap, lap.Sound max s.deeds
  few : s.watch.monitor.tasks.length ≤ max

namespace Sound

variable {max : Nat} {old : List Alert} {s : Shift} {alerts : List Alert}
  (h : s.Sound max old alerts)

include h

theorem goOn {lap : Lap} {stage : Lap.Stage} (sound : Lap.Sound max s.deeds { lap with stage }) :
    (s.goOn lap stage).Sound max old alerts where
  ledger := h.ledger
  distinct := h.distinct
  crews := h.crews
  lap _ mem := Option.some.inj mem ▸ sound
  few := h.few

theorem rest : s.rest.Sound max old alerts where
  ledger := h.ledger
  distinct := h.distinct
  crews := h.crews
  lap _ mem := absurd mem (Option.not_mem_none _)
  few := h.few

theorem begin {byLoop : Bool} {settings : Settings} (limit : settings.monitor.maxTasks = max)
    (now : Int) (r : Readings) : (s.begin byLoop settings now r).Sound max old alerts := by
  unfold Shift.begin
  split
  · exact h
  · split
    · exact h
    · next m snapshot measured =>
      obtain ⟨cycles, cpu, rfl⟩ := Monitor.of_measured measured
      refine ⟨h.ledger, h.distinct, h.crews, ?_, h.few⟩
      intro lap mem
      obtain rfl := Option.some.inj mem
      exact ⟨limit, List.forall_mem_nil _, by simp⟩

/-- Stored alerts are worked with, by whomever. -/
theorem apply {op : Op} (added : op.added alerts = []) :
    Sound max old { s with watch.store := op.apply s.watch.store } (op.after alerts) where
  ledger := h.ledger.apply added
  distinct := h.distinct
  crews := h.crews
  lap := h.lap
  few := h.few

theorem handle {op : Op} (added : op.added alerts = []) :
    ∃ alerts', (s.handle op).Sound max old alerts' := by
  unfold Shift.handle
  split
  · exact ⟨_, h.apply added⟩
  · exact ⟨alerts, h⟩

theorem sweep {lap : Lap} (sound : lap.Sound max s.deeds) :
    ∃ alerts', (s.sweep lap).Sound max old alerts' := by
  unfold Shift.sweep
  split
  · exact ⟨alerts, h.rest⟩
  · next watch swept =>
    have onward : Lap.Sound max s.deeds { lap with stage := .publishing true } :=
      sound.goOn (List.forall_mem_nil _) (by simp)
    rcases Watch.of_sweep swept with rfl | ⟨cutoff, rfl⟩
    · exact ⟨alerts, h.goOn onward⟩
    · exact ⟨_, (h.apply rfl).goOn onward⟩

theorem report {lap : Lap} (sound : lap.Sound max s.deeds) {f : Finding} {later : List Finding}
    (stage : lap.stage = .reporting f later) :
    ∃ alerts', (s.report lap f later).Sound max old alerts' := by
  have findings := sound.findings
  rw [stage] at findings
  have rest : ∀ g ∈ later, g.category ≠ .aiAnalysis :=
    fun g mem => findings g (List.mem_cons_of_mem _ mem)
  unfold Shift.report
  rcases h.ledger.holds.createFresh_cases s.watch.ids (a := f.toAlert lap.now) rfl with
    ⟨-, e, refused⟩ | ⟨one, stored⟩
  · rw [refused]
    exact ⟨alerts, h.goOn (sound.goOn rest (by simp))⟩
  · rw [stored]
    let a := Store.prepare s.watch.ids.next (f.toAlert lap.now)
    have unused : Deed.Unused a.id s.deeds := h.ledger.unused h.distinct rfl
    have accounted : Accounted (.raised a :: s.deeds) := .raised h.ledger.accounted unused
    refine ⟨Op.after (.create s.watch.ids.next (f.toAlert lap.now)) alerts, ?_⟩
    refine ⟨?_, h.distinct, h.crews.raise a, ?_, h.few⟩
    · exact h.ledger.create rfl one accounted rfl fun analysis =>
        absurd analysis (findings f List.mem_cons_self)
    · intro lap' mem
      obtain rfl := Option.some.inj mem
      refine ⟨sound.limit, rest, ?_⟩
      intro f' a' later' same
      obtain ⟨-, rfl, -⟩ : f = f' ∧ a = a' ∧ later = later' := by simpa using same
      refine ⟨List.mem_cons_self, fun q asked => ?_⟩
      -- whoever has a task was raised before, and so under another id
      rcases List.mem_cons.1 asked with new | earlier
      · cases new
      · exact unused _ (h.ledger.accounted.raised_of_asked earlier) q rfl

theorem ask {lap : Lap} (sound : lap.Sound max s.deeds) {f : Finding} {a : Alert}
    {later : List Finding} (stage : lap.stage = .asking f a later) :
    ((s.ask lap f a).goOn lap (.seeking later)).Sound max old alerts := by
  have findings := sound.findings
  rw [stage] at findings
  obtain ⟨raised, once⟩ := sound.next f a later stage
  unfold Shift.ask
  rcases s.watch.monitor.enrich_cases lap.settings f.prompt a with same | ⟨free, question, made⟩
  · simp only [same, Nat.lt_irrefl, if_false]
    exact h.goOn (sound.goOn findings (by simp))
  · simp only [made, List.length_append, List.length_singleton, Nat.lt_add_one, if_true]
    let t : Enrichment := ⟨a, question, .asking⟩
    have among : (t :: s.everyone).Perm
        (s.watch.monitor.tasks ++ [t] ++ s.watch.monitor.leaving) := by
      rw [List.append_assoc]
      exact List.perm_middle.symm
    refine ⟨h.ledger.ask raised once, h.distinct, ?_, ?_, ?_⟩
    · exact (h.crews.ask (t := t) h.ledger.accounted rfl once).perm among
    · intro lap' mem
      obtain rfl := Option.some.inj mem
      exact sound.goOn findings (by simp)
    · rw [sound.limit] at free
      show (s.watch.monitor.tasks ++ [t]).length ≤ max
      rw [List.length_append]
      exact free

theorem advance {lap : Lap} (here : lap ∈ s.lap) :
    ∃ alerts', (s.advance lap).Sound max old alerts' := by
  have sound := h.lap lap here
  have findings := sound.findings
  unfold Shift.advance
  split
  · refine ⟨alerts, h.ledger, h.distinct, ?_, ?_, ?_⟩
    · exact h.crews.sublist (Monitor.everyone_reap_sublist _)
    · intro lap' mem
      obtain rfl := Option.some.inj mem
      exact sound.goOn (List.forall_mem_nil _) (by simp)
    · exact Nat.le_trans (List.length_filter_le _ _) h.few
  · refine ⟨alerts, h.goOn ?_⟩
    split
    · exact sound.goOn (fun f => category_of_mem_evaluate) (by simp)
    · exact sound.goOn (List.forall_mem_nil _) (by simp)
  · exact h.sweep sound
  · next f later stage =>
    rw [stage] at findings
    refine ⟨alerts, h.goOn ?_⟩
    split
    · exact sound.goOn (fun g mem => findings g (List.mem_cons_of_mem _ mem)) (by simp)
    · exact sound.goOn findings (by simp)
  · next f later stage => exact h.report sound stage
  · next f a later stage => exact ⟨alerts, h.ask sound stage⟩
  · refine ⟨alerts, h.ledger, h.distinct, h.crews, ?_, h.few⟩
    exact fun _ mem => absurd mem (Option.not_mem_none _)

/-- A task turns into another one of the same parent. -/
theorem turned {crew : Crew} {i : Nat} {t t' : Enrichment}
    (here : (s.watch.monitor.crew crew)[i]? = some t) (parent : t'.parent = t.parent)
    (going : t'.phase ≠ .done → t.phase ≠ .done) : (s.turned crew i t').Sound max old alerts where
  ledger := h.ledger
  distinct := h.distinct
  crews := by
    obtain ⟨others, before, after⟩ := Monitor.everyone_withCrew_perm here t'
    exact ((h.crews.perm before).turn parent going).perm after.symm
  lap := h.lap
  few := Monitor.length_tasks_withCrew_set s.watch.monitor crew i t' ▸ h.few

theorem answer (crew : Crew) (i : Nat) (a : Answer) : (s.answer crew i a).Sound max old alerts := by
  unfold Shift.answer
  split
  · exact h
  · next t here =>
    unfold Enrichment.answer
    split
    · next asking => exact h.turned here rfl fun _ => by simp [asking]
    · exact h.turned here rfl id

theorem task (crew : Crew) (now : Int) (i : Nat) :
    ∃ alerts', (s.task crew now i).Sound max old alerts' := by
  cases here : (s.watch.monitor.crew crew)[i]? with
  | none => exact ⟨alerts, by simpa [Shift.task, here] using h⟩
  | some t =>
    rcases task_cases now here with ⟨t', turns, same⟩ | ⟨text, holding, same⟩
    · rw [same]
      exact ⟨alerts, h.turned here turns.parent turns.going⟩
    · rw [same]
      have cases := h.ledger.holds.createFresh_cases s.watch.ids
        (a := analysisOf now t.parent text) rfl
      rcases cases with ⟨-, e, refused⟩ | ⟨one, stored⟩
      · simp only [deedsOf, holding, refused, List.nil_append]
        exact ⟨alerts, h.turned here rfl fun _ => by simp [holding]⟩
      · simp only [deedsOf, holding, stored, List.singleton_append]
        let b := Store.prepare s.watch.ids.next (analysisOf now t.parent text)
        have mem := Monitor.mem_everyone_of_crew here
        have accounted : Accounted (.analysed t.parent b :: s.deeds) :=
          .analysed h.ledger.accounted (h.crews.asked t mem)
            (h.crews.unwritten t mem (by simp [holding])) (h.ledger.unused h.distinct rfl)
            (analyses_prepare _ now t.parent text)
        obtain ⟨others, before, after⟩ :=
          Monitor.everyone_withCrew_perm here { t with phase := .done }
        refine ⟨Op.after (.create s.watch.ids.next (analysisOf now t.parent text)) alerts, ?_⟩
        refine ⟨?_, h.distinct, ?_, ?_, ?_⟩
        · exact h.ledger.create rfl one accounted rfl fun _ => ⟨t.parent, rfl⟩
        · exact ((h.crews.perm before).write b).perm after.symm
        · exact fun lap at_work => (h.lap lap at_work).analysed t.parent b
        · exact Monitor.length_tasks_withCrew_set s.watch.monitor crew i _ ▸ h.few

theorem stop : s.stop.Sound max old alerts := by
  unfold Shift.stop
  split
  · exact ⟨h.ledger, h.distinct, h.crews, h.lap, h.few⟩
  · exact ⟨h.ledger, h.distinct, h.crews, h.lap, h.few⟩
  · split
    · exact h
    · exact ⟨h.ledger, h.distinct, h.crews, h.lap, h.few⟩
  · exact ⟨h.ledger, h.distinct, h.crews.perm List.perm_append_comm, h.lap, Nat.zero_le _⟩
  · split
    · exact ⟨h.ledger, h.distinct, h.crews, h.lap, h.few⟩
    · next t others leaving =>
      split
      · have fewer : others.Sublist s.watch.monitor.leaving :=
          leaving ▸ List.sublist_cons_self _ _
        exact ⟨h.ledger, h.distinct, h.crews.sublist (fewer.append_left _), h.lap, h.few⟩
      · exact h

/-- **Step.** Whatever happens, what was done accounts for the analyses. -/
theorem step {e : Event} (limits : e.Limits max) : ∃ alerts', (s.step e).Sound max old alerts' := by
  cases e with
  | begin byLoop settings now r => exact ⟨alerts, h.begin limits now r⟩
  | advance =>
    cases here : s.lap with
    | none => exact ⟨alerts, by simpa [Shift.step, here] using h⟩
    | some lap => simpa [Shift.step, here] using h.advance here
  | handle op handles => exact h.handle (Op.added_of_not_creates handles alerts)
  | drop => exact ⟨alerts, h.ledger, h.distinct, h.crews, h.lap, h.few⟩
  | answer crew i a => exact ⟨alerts, h.answer crew i a⟩
  | task crew now i => exact h.task crew now i
  | stop => exact ⟨alerts, h.stop⟩

/-- **Runs.** However much happens, it does. -/
theorem run {events : List Event} (limits : ∀ e ∈ events, e.Limits max) :
    ∃ alerts', (s.run events).Sound max old alerts' := by
  induction events generalizing s alerts with
  | nil => exact ⟨alerts, h⟩
  | cons e events ih =>
    obtain ⟨alerts', h'⟩ := h.step (limits e List.mem_cons_self)
    exact ih h' fun e' mem => limits e' (List.mem_cons_of_mem _ mem)

end Sound

end Shift

end HostWatch
