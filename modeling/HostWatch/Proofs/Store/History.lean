import HostWatch.Proofs.Store.Contents

/-!
# The life of a stored alert

`alerts_live_forward`: whatever is done to a store, every alert in it keeps its record and only ever
moves forward in its life, until it is purged as a dismissed one.

1. An operation leaves an alert alone, moves it forward or purges it (`Op.fate_cases`).
2. Moves add up (`Alert.Becomes`), so that a run leaves every alert something it may become, unless
   a purge in the run removes it (`Holds.fares`).
3. An operation that names an id leaves the rows of other ids alone, and answers whether it moved
   the alert with that id.
-/

namespace HostWatch

/-! ## Moving forward -/

namespace Alert

/-- What an alert may become: its record stays, its status moves forward or the alert is still the
same, and its acknowledgement stays once it is there and comes only to an alert that was active. -/
structure Becomes (a b : Alert) : Prop where
  id : b.id = a.id
  severity : b.severity = a.severity
  category : b.category = a.category
  source : b.source = a.source
  message : b.message = a.message
  description : b.description = a.description
  createdAt : b.createdAt = a.createdAt
  metadata : b.metadata = a.metadata
  status : b = a ∨ a.status.CanMoveTo b.status
  acknowledgedAt_kept : ∀ t ∈ a.acknowledgedAt, b.acknowledgedAt = some t
  acknowledgedAt_came : b.acknowledgedAt = a.acknowledgedAt ∨
    a.status = .active ∧ a.acknowledgedAt = none ∧ b.status ≠ .active

end Alert

namespace Status

/-- How far a life has come at a status. -/
def stage : Status → Nat
  | active => 0
  | acknowledged => 1
  | dismissed => 2

theorem canMoveTo_iff {a b : Status} : a.CanMoveTo b ↔ a.stage < b.stage := by
  cases a <;> cases b <;> decide

theorem canMoveTo_dismissed {a : Status} : a.CanMoveTo .dismissed ↔ a.IsOpen := by
  cases a <;> decide

theorem ne_active_of_canMoveTo {a b : Status} (h : a.CanMoveTo b) : b ≠ .active := by
  rintro rfl
  exact absurd (canMoveTo_iff.1 h) (Nat.not_lt_zero _)

end Status

namespace Alert

variable {a b c : Alert}

theorem Moves.canMoveTo (h : a.Moves b) : a.status.CanMoveTo b.status := by
  cases h with
  | acknowledge now active =>
    rw [active]
    exact trivial
  | dismiss now isOpen => exact Status.canMoveTo_dismissed.2 isOpen

theorem Becomes.refl (a : Alert) : a.Becomes a where
  id := rfl
  severity := rfl
  category := rfl
  source := rfl
  message := rfl
  description := rfl
  createdAt := rfl
  metadata := rfl
  status := .inl rfl
  acknowledgedAt_kept _ ht := ht
  acknowledgedAt_came := .inl rfl

theorem Becomes.trans (h : a.Becomes b) (h' : b.Becomes c) : a.Becomes c where
  id := h'.id.trans h.id
  severity := h'.severity.trans h.severity
  category := h'.category.trans h.category
  source := h'.source.trans h.source
  message := h'.message.trans h.message
  description := h'.description.trans h.description
  createdAt := h'.createdAt.trans h.createdAt
  metadata := h'.metadata.trans h.metadata
  status := by
    rcases h'.status with rfl | moved'
    · exact h.status
    · rcases h.status with rfl | moved
      · exact .inr moved'
      · rw [Status.canMoveTo_iff] at moved moved' ⊢
        exact .inr (Nat.lt_trans moved moved')
  acknowledgedAt_kept t ht := h'.acknowledgedAt_kept t (h.acknowledgedAt_kept t ht)
  acknowledgedAt_came := by
    have left : b.status ≠ .active → c.status ≠ .active := by
      intro hb
      rcases h'.status with rfl | moved
      · exact hb
      · exact Status.ne_active_of_canMoveTo moved
    rcases h.acknowledgedAt_came with same | ⟨active, none, hb⟩
    · rcases h'.acknowledgedAt_came with same' | ⟨active', none', hc⟩
      · exact .inl (same'.trans same)
      · rcases h.status with rfl | moved
        · exact .inr ⟨active', none', hc⟩
        · exact absurd active' (Status.ne_active_of_canMoveTo moved)
    · exact .inr ⟨active, none, left hb⟩

theorem Moves.ne (h : a.Moves b) : b ≠ a := by
  rintro rfl
  exact absurd (Status.canMoveTo_iff.1 h.canMoveTo) (Nat.lt_irrefl _)

/-- Where an alert moves only under a condition, it has moved only if the condition holds. -/
theorem moves_ite_iff {c : Prop} [Decidable c] (h : c → a.Moves b) :
    (∃ x, (if c then b else a) = x ∧ a.Moves x) ↔ c := by
  by_cases hc : c
  · rw [if_pos hc]
    exact iff_of_true ⟨b, rfl, h hc⟩ hc
  · rw [if_neg hc]
    exact iff_of_false (fun ⟨x, same, moves⟩ => moves.ne same.symm) hc

/-- An alert whose stamps are in order becomes what one move makes of it. -/
theorem Moves.becomes (h : a.Moves b) (stamped : a.IsStamped) : a.Becomes b := by
  have moved := h.canMoveTo
  cases h with
  | acknowledge now active =>
    have none := stamped.acknowledgedAt_none active
    exact { Becomes.refl a with
      status := .inr moved
      acknowledgedAt_kept := fun t ht => by rw [none] at ht; cases ht
      acknowledgedAt_came := .inr ⟨active, none, nofun⟩ }
  | dismiss now isOpen =>
    exact { Becomes.refl a with status := .inr moved, acknowledgedAt_came := .inl rfl }

end Alert

namespace Store

/-! ## Operations that name an id -/

/-- The id that an operation names. -/
def Op.named? : Op → Option String
  | .create fresh a => some (prepare fresh a).id
  | .acknowledge _ id | .dismiss _ id => some id
  | _ => none

/-- An operation that names an id leaves alerts under other ids alone. -/
theorem fate_of_named {op : Op} {id : String} (named : op.named? = some id) {a : Alert}
    (other : a.id ≠ id) : op.fate a = some a := by
  cases op with
  | create => rfl
  | acknowledge now id' | dismiss now id' =>
    cases named
    exact congrArg some (if_neg fun chosen => other chosen.1)
  | _ => cases named

/-! ## Runs -/

/-- How an alert fares in a run: it is still there as something it may become, or a purge of the
run finds what it became dismissed long enough and removes it. -/
def Fares (s : Store) (a : Alert) (ops : List Op) : Prop :=
  (∃ b, (s.run ops).get? a.id = .ok (some b) ∧ a.Becomes b) ∨
    ∃ before cutoff after b, ops = before ++ .purgeDismissedBefore cutoff :: after ∧
      (s.run before).get? a.id = .ok (some b) ∧ a.Becomes b ∧ b.DismissedBefore cutoff ∧
      (s.run (before ++ [.purgeDismissedBefore cutoff])).get? a.id = .ok none

/-- The alert with an id has moved forward from one store to another. -/
def Moved (s t : Store) (id : String) : Prop :=
  ∃ a b, s.get? id = .ok (some a) ∧ t.get? id = .ok (some b) ∧ a.Moves b

/-- What an alert became in one operation fares on. -/
theorem Fares.cons {s : Store} {op : Op} {ops : List Op} {a b : Alert} (moved : a.Becomes b)
    (h : (op.apply s).Fares b ops) : s.Fares a (op :: ops) := by
  rcases h with ⟨c, found, further⟩ | ⟨before, cutoff, after, c, split, found, further, old, gone⟩
  · exact .inl ⟨c, moved.id ▸ found, moved.trans further⟩
  · refine .inr ⟨op :: before, cutoff, after, c, by rw [split, List.cons_append], ?_,
      moved.trans further, old, ?_⟩
    · exact moved.id ▸ found
    · exact moved.id ▸ gone

section Held

variable {s : Store} {alerts : List Alert}

theorem Holds.mem_of_get? (h : s.Holds alerts) (times : ∀ a ∈ alerts, a.IsTimely) {id : String}
    {a : Alert} (found : s.get? id = .ok (some a)) : a ∈ alerts ∧ a.id = id := by
  rw [h.get?_eq times] at found
  have found : alerts.find? (·.id = id) = some a := Except.ok.inj found
  exact ⟨List.mem_of_find?_eq_some found, by simpa using List.find?_some found⟩

theorem Holds.get?_mem (h : s.Holds alerts) (times : ∀ a ∈ alerts, a.IsTimely) {a : Alert}
    (ha : a ∈ alerts) : s.get? a.id = .ok (some a) := by
  rw [h.get?_eq times, find_id h.ids ha]

/-- After an operation the id of an alert finds what has become of it. -/
theorem Holds.get?_apply (h : s.Holds alerts) (times : ∀ a ∈ alerts, a.IsTimely) {op : Op}
    (timely : op.IsTimely) {a : Alert} (ha : a ∈ alerts) :
    (op.apply s).get? a.id = .ok (op.fate a) := by
  rw [(h.apply op).get?_eq (Op.isTimely_after timely times)]
  congr 1
  rcases op.fate_cases a with fate | ⟨b, fate, _⟩ | ⟨fate, cutoff, rfl, old⟩
  · rw [fate]
    exact find_id (op.ids_after h.ids)
      (List.mem_append_left _ (List.mem_filterMap.2 ⟨a, ha, fate⟩))
  · rw [fate, ← Op.id_of_fate fate]
    exact find_id (op.ids_after h.ids)
      (List.mem_append_left _ (List.mem_filterMap.2 ⟨a, ha, fate⟩))
  · -- only the purged alert had this id
    rw [fate, Op.after_purge, List.find?_eq_none]
    intro b hb same
    obtain ⟨hb, kept⟩ := List.mem_filter.1 hb
    obtain rfl : b = a := List.inj_on_of_nodup_map h.ids hb ha (of_decide_eq_true same)
    simp [old] at kept

/-- **Runs.** Every alert of a store fares well in every run. -/
theorem Holds.fares (h : s.Holds alerts) (times : ∀ a ∈ alerts, a.IsTimely) {a : Alert}
    (ha : a ∈ alerts) {ops : List Op} (hops : ∀ op ∈ ops, op.IsTimely) : s.Fares a ops := by
  -- the alert is followed from operation to operation by its fate, under the same id
  induction ops generalizing s alerts a with
  | nil => exact .inl ⟨a, h.get?_mem times ha, .refl a⟩
  | cons op ops ih =>
    have timely := hops op List.mem_cons_self
    have fares {b : Alert} (fate : op.fate a = some b) : (op.apply s).Fares b ops :=
      ih (h.apply op) (Op.isTimely_after timely times)
        (List.mem_append_left _ (List.mem_filterMap.2 ⟨a, ha, fate⟩))
        fun o ho => hops o (List.mem_cons_of_mem _ ho)
    rcases op.fate_cases a with fate | ⟨b, fate, moves⟩ | ⟨fate, cutoff, rfl, old⟩
    · exact (fares fate).cons (.refl a)
    · exact (fares fate).cons (moves.becomes (h.stamped a ha))
    · exact .inr ⟨[], cutoff, ops, a, rfl, h.get?_mem times ha, .refl a, old,
        (h.get?_apply times timely ha).trans (congrArg _ fate)⟩

/-- An alert that was stored is added as it was prepared. -/
theorem Holds.added_of_create (h : s.Holds alerts) {fresh : String} {a stored : Alert}
    (ok : (s.create fresh a).1 = .ok stored) :
    stored = prepare fresh a ∧ Op.added (.create fresh a) alerts = [prepare fresh a] := by
  rcases h.create_cases fresh a with ⟨_, e, refused⟩ | ⟨one, created⟩
  · rw [refused] at ok
    cases ok
  · rw [created] at ok
    exact ⟨(Except.ok.inj ok).symm, one⟩

/-- A created alert is found as it was prepared. -/
theorem Holds.created (h : s.Holds alerts) (times : ∀ a ∈ alerts, a.IsTimely) {fresh : String}
    {a stored : Alert} (time : IsTime a.createdAt) (ok : (s.create fresh a).1 = .ok stored) :
    stored = prepare fresh a ∧ (s.create fresh a).2.get? stored.id = .ok (some stored) := by
  obtain ⟨rfl, added⟩ := h.added_of_create ok
  have timely : (Op.create fresh a).IsTimely := time
  have after := h.apply (.create fresh a)
  refine ⟨rfl, after.get?_mem (Op.isTimely_after timely times) ?_⟩
  rw [Op.after_create, added]
  exact List.mem_append_right _ (List.mem_singleton_self _)

/-- Every row is found under its id, as an alert whose stamps are in order. -/
theorem Holds.stored (h : s.Holds alerts) (times : ∀ a ∈ alerts, a.IsTimely) {r : Row}
    (hr : r ∈ s.rows) : ∃ a, r = .ofAlert a ∧ s.get? r.id = .ok (some a) ∧ a.IsStamped := by
  rw [h.rows_eq] at hr
  obtain ⟨a, ha, rfl⟩ := List.mem_map.1 hr
  exact ⟨a, rfl, h.get?_mem times ha, h.stamped a ha⟩

/-- An alert that is still there after one operation is the same or has made one move. -/
theorem Holds.step (h : s.Holds alerts) (times : ∀ a ∈ alerts, a.IsTimely) {op : Op}
    (timely : op.IsTimely) {id : String} {a b : Alert} (before : s.get? id = .ok (some a))
    (after : (op.apply s).get? id = .ok (some b)) : b = a ∨ a.Moves b := by
  obtain ⟨ha, rfl⟩ := h.mem_of_get? times before
  rw [h.get?_apply times timely ha] at after
  exact Op.moves_of_fate (Except.ok.inj after)

/-! ## Operations that name an id -/

/-- Rows under other ids than the one an operation names stay as they are. -/
theorem Holds.rows_of_named (h : s.Holds alerts) {op : Op} {id : String}
    (named : op.named? = some id) :
    (op.apply s).rows.filter (·.id ≠ id) = s.rows.filter (·.id ≠ id) := by
  have fates : (alerts.filterMap op.fate).filter (·.id ≠ id) = alerts.filter (·.id ≠ id) := by
    clear h
    induction alerts with
    | nil => rfl
    | cons a l ih =>
      by_cases same : a.id = id
      · have dropped : (a :: l).filter (·.id ≠ id) = l.filter (·.id ≠ id) :=
          List.filter_cons_of_neg (by simpa using same)
        rw [dropped, ← ih, List.filterMap_cons]
        cases fate : op.fate a with
        | none => rfl
        | some b =>
          exact List.filter_cons_of_neg (by simpa using (Op.id_of_fate fate).trans same)
      · rw [List.filterMap_cons_some (fate_of_named named same),
          List.filter_cons_of_pos (by simpa using same),
          List.filter_cons_of_pos (by simpa using same), ih]
  have added : (op.added alerts).filter (·.id ≠ id) = [] := by
    rcases op.added_cases alerts with none | ⟨fresh, a, one, rfl, _⟩
    · rw [none]
      rfl
    · cases named
      rw [one]
      exact List.filter_cons_of_neg (by simp)
  have ids (alerts : List Alert) : (alerts.map Row.ofAlert).filter (·.id ≠ id) =
      (alerts.filter (·.id ≠ id)).map .ofAlert := List.filter_map
  rw [(h.apply op).rows_eq, h.rows_eq, ids, ids, Op.after, List.filter_append, fates, added,
    List.append_nil]

theorem Holds.acknowledge_iff (h : s.Holds alerts) (now : Int) (id : String) :
    (s.acknowledge now id).1 = true ↔ ∃ a ∈ alerts, a.id = id ∧ a.status = .active := by
  rw [acknowledge, h.acknowledgeWhere_eq now (q := (·.id = id)) fun _ => rfl]
  constructor
  · intro one
    have one : alerts.countP (fun a => a.id = id ∧ a.status = .active) = 1 :=
      of_decide_eq_true one
    have pos : 0 < alerts.countP (fun a => a.id = id ∧ a.status = .active) := by omega
    obtain ⟨a, ha, chosen⟩ := List.countP_pos_iff.1 pos
    exact ⟨a, ha, of_decide_eq_true chosen⟩
  · rintro ⟨a, ha, rfl, active⟩
    refine decide_eq_true ?_
    rw [countP_id h.ids ha (·.status = .active), if_pos active]

theorem Holds.dismiss_iff (h : s.Holds alerts) (now : Int) (id : String) :
    (s.dismiss now id).1 = true ↔ ∃ a ∈ alerts, a.id = id ∧ a.status.IsOpen := by
  rw [h.dismiss_eq]
  by_cases e : ∃ a ∈ alerts, a.id = id ∧ a.status.IsOpen
  · rw [if_pos e]
    exact iff_of_true rfl e
  · rw [if_neg e]
    exact iff_of_false Bool.false_ne_true e

/-- An operation moves the alert with an id just where the fate of that alert is a move. -/
theorem Holds.moved_iff (h : s.Holds alerts) (times : ∀ a ∈ alerts, a.IsTimely) {op : Op}
    (timely : op.IsTimely) (id : String) :
    s.Moved (op.apply s) id ↔ ∃ a ∈ alerts, a.id = id ∧ ∃ b, op.fate a = some b ∧ a.Moves b := by
  constructor
  · rintro ⟨a, b, before, after, moves⟩
    obtain ⟨ha, rfl⟩ := h.mem_of_get? times before
    rw [h.get?_apply times timely ha] at after
    exact ⟨a, ha, rfl, b, Except.ok.inj after, moves⟩
  · rintro ⟨a, ha, rfl, b, fate, moves⟩
    exact ⟨a, b, h.get?_mem times ha, (h.get?_apply times timely ha).trans (congrArg _ fate), moves⟩

theorem Holds.acknowledge_moved (h : s.Holds alerts) (times : ∀ a ∈ alerts, a.IsTimely)
    {now : Int} (time : IsTime now) (id : String) :
    (s.acknowledge now id).1 = true ↔ s.Moved (s.acknowledge now id).2 id := by
  have timely : (Op.acknowledge now id).IsTimely := time
  rw [h.acknowledge_iff now id]
  refine Iff.trans ?_ (h.moved_iff times timely id).symm
  refine exists_congr fun a => and_congr_right fun _ => and_congr_right fun same => ?_
  simp only [Op.fate, Option.some.injEq]
  rw [Alert.moves_ite_iff fun chosen => .acknowledge now chosen.2]
  exact (and_iff_right same).symm

theorem Holds.dismiss_moved (h : s.Holds alerts) (times : ∀ a ∈ alerts, a.IsTimely)
    {now : Int} (time : IsTime now) (id : String) :
    (s.dismiss now id).1 = true ↔ s.Moved (s.dismiss now id).2 id := by
  have timely : (Op.dismiss now id).IsTimely := time
  rw [h.dismiss_iff now id]
  refine Iff.trans ?_ (h.moved_iff times timely id).symm
  refine exists_congr fun a => and_congr_right fun _ => and_congr_right fun same => ?_
  simp only [Op.fate, Option.some.injEq]
  rw [Alert.moves_ite_iff fun chosen => .dismiss now chosen.2]
  exact (and_iff_right same).symm

end Held

/-! ## Reachable stores -/

/-- The alerts of the store only ever move forward in their lives, each by itself. -/
structure LivesForward (s : Store) : Prop where
  stored : ∀ r ∈ s.rows, ∃ a, r = .ofAlert a ∧ s.get? r.id = .ok (some a) ∧ a.IsStamped
  created : ∀ fresh a stored, IsTime a.createdAt → (s.create fresh a).1 = .ok stored →
    stored = prepare fresh a ∧ (s.create fresh a).2.get? stored.id = .ok (some stored)
  step : ∀ op : Op, op.IsTimely → ∀ id a b, s.get? id = .ok (some a) →
    (op.apply s).get? id = .ok (some b) → b = a ∨ a.Moves b
  fares : ∀ ops : List Op, (∀ op ∈ ops, op.IsTimely) → ∀ id a, s.get? id = .ok (some a) →
    s.Fares a ops
  others : ∀ (op : Op) id, op.named? = some id →
    (op.apply s).rows.filter (·.id ≠ id) = s.rows.filter (·.id ≠ id)
  acknowledge_iff : ∀ now id, IsTime now →
    ((s.acknowledge now id).1 = true ↔ s.Moved (s.acknowledge now id).2 id)
  dismiss_iff : ∀ now id, IsTime now →
    ((s.dismiss now id).1 = true ↔ s.Moved (s.dismiss now id).2 id)

/-- **Lives.** After any operations on an empty store, every stored alert lives forward in whatever
is done to the store from there on. -/
theorem alerts_live_forward {s : Store} (h : s.Reachable) : s.LivesForward := by
  obtain ⟨alerts, h, times⟩ := h.holds
  exact {
    stored := fun r hr => h.stored times hr
    created := fun fresh a stored time ok => h.created times time ok
    step := fun op timely id a b before after => h.step times timely before after
    fares := fun ops hops id a found => h.fares times (h.mem_of_get? times found).1 hops
    others := fun op id named => h.rows_of_named named
    acknowledge_iff := fun now id time => h.acknowledge_moved times time id
    dismiss_iff := fun now id time => h.dismiss_moved times time id }

theorem alerts_live_forward_seasoned :
    seasoned.Reachable ∧ seasoned.LivesForward ∧
      seasoned.rows.map (·.status) = ["dismissed", "dismissed", "dismissed", "active"] :=
  ⟨seasoned_reachable, alerts_live_forward seasoned_reachable, by decide⟩

end Store

end HostWatch
