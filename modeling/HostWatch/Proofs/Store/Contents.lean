import HostWatch.Proofs.Store.Census
import HostWatch.Store.Run
import Mathlib.Data.List.Nodup

/-!
# The alerts in a store

A store that was only ever written by its own operations holds the rows of some alerts and counts
just these (`Holds`). What an operation does to the store is then said of the alerts alone:

1. Every alert has a fate of its own (`Op.fate`), whatever else is stored: it stays the same, makes
   one move forward in its life (`Alert.Moves`) or is purged (`Op.fate_cases`).
2. Only creating adds an alert (`Op.added`), and only one at the end.
3. `Holds.apply` ties the two to the operation on rows and counters, and `Holds.run` to any number
   of operations.
4. `Reachable.holds`: every reachable store holds alerts.
-/

namespace HostWatch

/-- The stamps of the alert are those that go with its status. -/
structure Alert.IsStamped (a : Alert) : Prop where
  acknowledgedAt_none : a.status = .active → a.acknowledgedAt = none
  acknowledgedAt_some : a.status = .acknowledged → a.acknowledgedAt.isSome
  dismissedAt_isSome : a.dismissedAt.isSome ↔ a.status = .dismissed

/-- One move forward in the life of an alert. -/
inductive Alert.Moves (a : Alert) : Alert → Prop where
  | acknowledge (now : Int) (active : a.status = .active) : Moves a (a.acknowledge now)
  | dismiss (now : Int) (isOpen : a.status.IsOpen) : Moves a (a.dismiss now)

namespace Store

/-! ## Alerts under operations -/

/-- What becomes of a stored alert, if it stays. -/
def Op.fate (op : Op) (a : Alert) : Option Alert :=
  match op with
  | .create _ _ | .reopen => some a
  | .acknowledge now id => some (if a.id = id ∧ a.status = .active then a.acknowledge now else a)
  | .acknowledgeAll now => some (if a.status = .active then a.acknowledge now else a)
  | .dismiss now id => some (if a.id = id ∧ a.status.IsOpen then a.dismiss now else a)
  | .dismissAll now => some (if a.status.IsOpen then a.dismiss now else a)
  | .purgeDismissedBefore cutoff => if a.DismissedBefore cutoff then none else some a

/-- The alert that is stored, unless its id is taken or no row is left for it. -/
def Op.added (op : Op) (alerts : List Alert) : List Alert :=
  match op with
  | .create fresh a =>
    if alerts.any (·.id = (prepare fresh a).id) ∨ maxRows ≤ alerts.length then []
    else [prepare fresh a]
  | _ => []

/-- The alerts after an operation. -/
def Op.after (op : Op) (alerts : List Alert) : List Alert :=
  alerts.filterMap op.fate ++ op.added alerts

/-- The store holds these alerts under different ids, and counts them. -/
structure Holds (s : Store) (alerts : List Alert) : Prop where
  table : s.table = some (alerts.map .ofAlert)
  counters : s.counters = census alerts
  ids : (alerts.map (·.id)).Nodup
  length_le : alerts.length ≤ maxRows
  stamped : ∀ a ∈ alerts, a.IsStamped

theorem prepare_id {a : Alert} (unnamed : a.id = "") (fresh : String) :
    (prepare fresh a).id = fresh := by
  show (if a.id.isEmpty then fresh else a.id) = fresh
  rw [unnamed]
  rfl

/-! ## What a fate keeps -/

/-- An operation leaves an alert alone, moves it forward or purges it. -/
theorem Op.fate_cases (op : Op) (a : Alert) :
    op.fate a = some a ∨ (∃ b, op.fate a = some b ∧ a.Moves b) ∨
      op.fate a = none ∧ ∃ cutoff, op = .purgeDismissedBefore cutoff ∧ a.DismissedBefore cutoff := by
  cases op with
  | create | reopen => exact .inl rfl
  | acknowledge now id =>
    by_cases h : a.id = id ∧ a.status = .active
    · exact .inr (.inl ⟨_, congrArg some (if_pos h), .acknowledge now h.2⟩)
    · exact .inl (congrArg some (if_neg h))
  | acknowledgeAll now =>
    by_cases h : a.status = .active
    · exact .inr (.inl ⟨_, congrArg some (if_pos h), .acknowledge now h⟩)
    · exact .inl (congrArg some (if_neg h))
  | dismiss now id =>
    by_cases h : a.id = id ∧ a.status.IsOpen
    · exact .inr (.inl ⟨_, congrArg some (if_pos h), .dismiss now h.2⟩)
    · exact .inl (congrArg some (if_neg h))
  | dismissAll now =>
    by_cases h : a.status.IsOpen
    · exact .inr (.inl ⟨_, congrArg some (if_pos h), .dismiss now h⟩)
    · exact .inl (congrArg some (if_neg h))
  | purgeDismissedBefore cutoff =>
    by_cases h : a.DismissedBefore cutoff
    · exact .inr (.inr ⟨if_pos h, cutoff, rfl, h⟩)
    · exact .inl (if_neg h)

theorem Op.moves_of_fate {op : Op} {a b : Alert} (h : op.fate a = some b) : b = a ∨ a.Moves b := by
  rcases op.fate_cases a with same | ⟨c, fate, moves⟩ | ⟨gone, _⟩
  · exact .inl (Option.some.inj (h.symm.trans same))
  · exact .inr (Option.some.inj (fate.symm.trans h) ▸ moves)
  · exact absurd (h.symm.trans gone) nofun

theorem Op.id_of_fate {op : Op} {a b : Alert} (h : op.fate a = some b) : b.id = a.id := by
  rcases Op.moves_of_fate h with rfl | moves
  · rfl
  · cases moves <;> rfl

theorem isStamped_acknowledge {a : Alert} (h : a.IsStamped) (active : a.status = .active)
    (now : Int) : (a.acknowledge now).IsStamped where
  acknowledgedAt_none := nofun
  acknowledgedAt_some _ := rfl
  dismissedAt_isSome := by
    have := h.dismissedAt_isSome
    rw [active] at this
    exact ⟨fun some => absurd (this.1 some) (by decide), nofun⟩

theorem isStamped_dismiss (a : Alert) (now : Int) : (a.dismiss now).IsStamped where
  acknowledgedAt_none := nofun
  acknowledgedAt_some := nofun
  dismissedAt_isSome := ⟨fun _ => rfl, fun _ => rfl⟩

theorem isStamped_prepare (fresh : String) (a : Alert) : (prepare fresh a).IsStamped where
  acknowledgedAt_none _ := rfl
  acknowledgedAt_some := nofun
  dismissedAt_isSome := ⟨nofun, nofun⟩

theorem Op.isStamped_of_fate {op : Op} {a b : Alert} (ha : a.IsStamped)
    (h : op.fate a = some b) : b.IsStamped := by
  rcases Op.moves_of_fate h with rfl | moves
  · exact ha
  · cases moves with
    | acknowledge now active => exact isStamped_acknowledge ha active now
    | dismiss now _ => exact isStamped_dismiss a now

theorem Op.isTimely_of_fate {op : Op} (hop : op.IsTimely) {a b : Alert} (ha : a.IsTimely)
    (h : b ∈ op.fate a) : b.IsTimely := by
  cases op with
  | create | reopen => cases h; exact ha
  | acknowledge now id | acknowledgeAll now =>
    cases h
    split
    · exact { ha with acknowledgedAt := fun _ ht => Option.some.inj ht ▸ hop }
    · exact ha
  | dismiss now id | dismissAll now =>
    cases h
    split
    · exact { ha with dismissedAt := fun _ ht => Option.some.inj ht ▸ hop }
    · exact ha
  | purgeDismissedBefore cutoff =>
    rw [Op.fate] at h
    split at h
    · cases h
    · cases h; exact ha

/-! ## Alerts after one operation -/

theorem Op.after_of_map {op : Op} {f : Alert → Alert} (fate : ∀ a, op.fate a = some (f a))
    {alerts : List Alert} (added : op.added alerts = []) : op.after alerts = alerts.map f := by
  rw [after, added, List.append_nil, show op.fate = some ∘ f from funext fate,
    List.filterMap_eq_map]

theorem Op.after_create (fresh : String) (a : Alert) (alerts : List Alert) :
    Op.after (.create fresh a) alerts = alerts ++ Op.added (.create fresh a) alerts := by
  rw [after, show Op.fate (.create fresh a) = some from rfl, List.filterMap_some]

theorem Op.after_purge (cutoff : Int) (alerts : List Alert) :
    Op.after (.purgeDismissedBefore cutoff) alerts =
      alerts.filter fun a => !decide (a.DismissedBefore cutoff) := by
  have guard : Op.fate (.purgeDismissedBefore cutoff) =
      Option.guard fun a => !decide (a.DismissedBefore cutoff) := by
    funext a
    by_cases h : a.DismissedBefore cutoff <;> simp [fate, Option.guard, h]
  rw [after, guard, List.filterMap_eq_filter]
  exact List.append_nil _

theorem Op.added_create (fresh : String) (a : Alert) (alerts : List Alert) :
    Op.added (.create fresh a) alerts =
      if alerts.any (·.id = (prepare fresh a).id) ∨ maxRows ≤ alerts.length then []
      else [prepare fresh a] := rfl

theorem Op.eq_of_mem_added {fresh : String} {a b : Alert} {alerts : List Alert}
    (h : b ∈ Op.added (.create fresh a) alerts) : b = prepare fresh a := by
  rw [Op.added_create] at h
  split at h
  · exact absurd h List.not_mem_nil
  · exact List.mem_singleton.1 h

/-- What is added has an id of its own, and room. -/
theorem Op.added_cases (op : Op) (alerts : List Alert) :
    op.added alerts = [] ∨ ∃ fresh a, op.added alerts = [prepare fresh a] ∧
      op = .create fresh a ∧ (∀ b ∈ alerts, b.id ≠ (prepare fresh a).id) ∧
        alerts.length < maxRows := by
  cases op with
  | create fresh a =>
    by_cases h : alerts.any (·.id = (prepare fresh a).id) ∨ maxRows ≤ alerts.length
    · exact .inl (if_pos h)
    · refine .inr ⟨fresh, a, if_neg h, rfl, ?_, by omega⟩
      simpa using (not_or.1 h).1
  | _ => exact .inl rfl

section After

variable {alerts : List Alert} (op : Op)

theorem Op.ids_after (h : (alerts.map (·.id)).Nodup) : ((op.after alerts).map (·.id)).Nodup := by
  have fates : ((alerts.filterMap op.fate).map (·.id)).Nodup := by
    rw [List.Nodup, List.pairwise_map] at h ⊢
    refine h.filterMap _ fun a a' ne b hb b' hb' => ?_
    rwa [Op.id_of_fate hb, Op.id_of_fate hb']
  rw [after, List.map_append]
  rcases op.added_cases alerts with none | ⟨fresh, a, one, _, ids, _⟩
  · rwa [none, List.map_nil, List.append_nil]
  · rw [one, List.map_singleton, List.nodup_append]
    refine ⟨fates, List.nodup_singleton _, fun id hid x hx same => ?_⟩
    rw [List.mem_singleton.1 hx] at same
    obtain ⟨b, hb, rfl⟩ := List.mem_map.1 hid
    obtain ⟨c, hc, hbc⟩ := List.mem_filterMap.1 hb
    exact ids c hc ((Op.id_of_fate hbc).symm.trans same)

theorem Op.length_after_le (h : alerts.length ≤ maxRows) : (op.after alerts).length ≤ maxRows := by
  have fates := List.length_filterMap_le op.fate alerts
  rw [after, List.length_append]
  rcases op.added_cases alerts with none | ⟨fresh, a, one, _, _, room⟩
  · rw [none, List.length_nil]
    omega
  · rw [one, List.length_singleton]
    omega

/-- What every fate keeps and every new alert has, the alerts have after the operation. -/
theorem Op.forall_after {P : Alert → Prop} (fates : ∀ a b, P a → b ∈ op.fate a → P b)
    (created : ∀ fresh a, op = .create fresh a → P (prepare fresh a))
    (h : ∀ a ∈ alerts, P a) : ∀ a ∈ op.after alerts, P a := by
  intro b hb
  rcases List.mem_append.1 hb with hb | hb
  · obtain ⟨a, ha, hab⟩ := List.mem_filterMap.1 hb
    exact fates a b (h a ha) hab
  · rcases op.added_cases alerts with none | ⟨fresh, a, one, isCreate, _⟩
    · rw [none] at hb
      exact absurd hb List.not_mem_nil
    · rw [one, List.mem_singleton] at hb
      exact hb ▸ created fresh a isCreate

theorem Op.isStamped_after (h : ∀ a ∈ alerts, a.IsStamped) :
    ∀ a ∈ op.after alerts, a.IsStamped :=
  op.forall_after (fun _ _ ha => Op.isStamped_of_fate ha)
    (fun fresh a _ => isStamped_prepare fresh a) h

theorem Op.isTimely_after {op : Op} (hop : op.IsTimely) (h : ∀ a ∈ alerts, a.IsTimely) :
    ∀ a ∈ op.after alerts, a.IsTimely := by
  refine op.forall_after (fun _ _ ha => Op.isTimely_of_fate hop ha) (fun fresh a isCreate => ?_) h
  subst isCreate
  exact { createdAt := hop, acknowledgedAt := nofun, dismissedAt := nofun }

end After

/-! ## Reading a store -/

/-- Of alerts under different ids, an id finds the alert that bears it. -/
theorem find_id {alerts : List Alert} (h : (alerts.map (·.id)).Nodup) {a : Alert}
    (ha : a ∈ alerts) : alerts.find? (·.id = a.id) = some a := by
  cases found : alerts.find? (·.id = a.id) with
  | none => exact absurd (List.find?_eq_none.1 found a ha) (by simp)
  | some b =>
    have same : b.id = a.id := by simpa using List.find?_some found
    rw [List.inj_on_of_nodup_map h (List.mem_of_find?_eq_some found) ha same]

theorem find_ofAlert (alerts : List Alert) (id : String) :
    (alerts.map Row.ofAlert).find? (·.id = id) = (alerts.find? (·.id = id)).map .ofAlert := by
  rw [List.find?_map]
  rfl

theorem mapM_alertOf {alerts : List Alert} (h : ∀ a ∈ alerts, a.IsTimely) :
    (alerts.map Row.ofAlert).mapM alertOf = .ok alerts :=
  mapM_map_ok fun a ha => alertOf_ofAlert (h a ha)

namespace Holds

variable {s : Store} {alerts : List Alert} (h : s.Holds alerts)

include h

theorem rows_eq : s.rows = alerts.map .ofAlert := by
  rw [rows, h.table]
  rfl

/-- The whole list is the alerts in some order. -/
theorem list_all (times : ∀ a ∈ alerts, a.IsTimely) :
    ∃ listed, s.list .all = .ok listed ∧ listed.Perm alerts := by
  let newest := alerts.reverse.mergeSort fun a b => b.createdAt ≤ a.createdAt
  have perm : newest.Perm alerts := (List.mergeSort_perm _ _).trans alerts.reverse_perm
  have all : (alerts.map Row.ofAlert).filter (fun r => decide (r.Selected .all)) =
      alerts.map .ofAlert := List.filter_eq_self.2 fun r _ => decide_eq_true r.selected_all
  have sorted : newestFirst (alerts.map .ofAlert) = newest.map .ofAlert := by
    rw [newestFirst, ← List.map_reverse]
    symm
    apply List.map_mergeSort
    intro a _ b _
    rfl
  refine ⟨newest, ?_, perm⟩
  have unlimited : Filter.all.limit = none := rfl
  simp only [list, h.table, select, unlimited, all, sorted, Option.mem_def, reduceCtorEq, false_and,
    exists_false, if_false]
  exact mapM_alertOf fun a ha => times a (perm.mem_iff.1 ha)

theorem get?_eq (times : ∀ a ∈ alerts, a.IsTimely) (id : String) :
    s.get? id = .ok (alerts.find? (·.id = id)) := by
  simp only [get?, h.table, find_ofAlert]
  cases found : alerts.find? (·.id = id) with
  | none => rfl
  | some a =>
    simp only [Option.map_some, alertOf_ofAlert (times a (List.mem_of_find?_eq_some found))]
    rfl

theorem hasOpen_eq (category : Category) (severity : Severity) (source : String) :
    s.hasOpen category severity source = alerts.any fun a =>
      a.category = category ∧ a.severity = severity ∧ a.source = source ∧ a.status.IsOpen := by
  rw [hasOpen, h.rows_eq, List.any_map]
  refine congrArg alerts.any (funext fun a => decide_eq_decide.2 ?_)
  change a.category.name = category.name ∧ a.severity.name = severity.name ∧ _ ↔ _
  rw [Category.name_inj, Severity.name_inj, Row.namesOpen_ofAlert]
  rfl

end Holds

/-! ## One operation on a store -/

namespace Holds

variable {s : Store} {alerts : List Alert} (h : s.Holds alerts)

include h

theorem create_eq (fresh : String) (a : Alert) :
    s.create fresh a =
      if alerts.any (·.id = (prepare fresh a).id) then (.error .duplicateId, s)
      else if maxRows ≤ alerts.length then (.error .tableFull, s)
      else (.ok (prepare fresh a),
        { s with
          table := some ((alerts ++ [prepare fresh a]).map .ofAlert)
          counters := census (alerts ++ [prepare fresh a]) }) := by
  have taken : (alerts.map Row.ofAlert).any (·.id = (Row.ofAlert (prepare fresh a)).id) =
      alerts.any (·.id = (prepare fresh a).id) := by
    rw [List.any_map]
    rfl
  simp only [create, h.table, insertRow, taken, List.length_map]
  by_cases id : alerts.any (·.id = (prepare fresh a).id) = true
  · rw [if_pos id, if_pos id]
  · rw [if_neg id, if_neg id]
    by_cases full : maxRows ≤ alerts.length
    · rw [if_pos full, if_pos full]
    · have room : alerts.length < maxCount := by
        have : maxRows < maxCount := by decide
        omega
      rw [if_neg full, if_neg full, h.counters, created_eq_addRow _ rfl, ← census_concat room,
        List.map_append]
      rfl

/-- Creating either refuses the alert, and nothing has happened, or adds it as it was prepared. -/
theorem create_cases (fresh : String) (a : Alert) :
    (Op.added (.create fresh a) alerts = [] ∧ ∃ e, s.create fresh a = (.error e, s)) ∨
      Op.added (.create fresh a) alerts = [prepare fresh a] ∧
        s.create fresh a = (.ok (prepare fresh a), (Op.create fresh a).apply s) := by
  rw [show (Op.create fresh a).apply s = (s.create fresh a).2 from rfl, h.create_eq,
    Op.added_create]
  by_cases id : alerts.any (·.id = (prepare fresh a).id) = true
  · rw [if_pos id, if_pos (.inl id)]
    exact .inl ⟨rfl, _, rfl⟩
  · by_cases full : maxRows ≤ alerts.length
    · rw [if_neg id, if_pos full, if_pos (.inr full)]
      exact .inl ⟨rfl, _, rfl⟩
    · rw [if_neg id, if_neg full, if_neg (not_or.2 ⟨id, full⟩)]
      exact .inr ⟨rfl, rfl⟩

theorem acknowledgeWhere_eq (now : Int) {p : Row → Bool} {q : Alert → Prop} [DecidablePred q]
    (hp : ∀ a, p (.ofAlert a) = decide (q a)) :
    s.acknowledgeWhere now p =
      (alerts.countP fun a => q a ∧ a.status = .active,
        let alerts := alerts.map fun a =>
          if q a ∧ a.status = .active then a.acknowledge now else a
        { s with table := some (alerts.map .ofAlert), counters := census alerts }) := by
  have chosen (a : Alert) : (p (.ofAlert a) && decide ((Row.ofAlert a).HasStatus .active)) =
      decide (q a ∧ a.status = .active) := by
    simp [hp]
  have number : (alerts.map Row.ofAlert).countP
        (fun r => p r && decide (r.HasStatus .active)) =
      alerts.countP fun a => q a ∧ a.status = .active := by
    rw [List.countP_map]
    exact List.countP_congr fun a _ => by rw [Function.comp_apply, chosen]
  simp only [acknowledgeWhere, h.table, h.counters, number, census_acknowledge,
    updateRows_ofAlert (p := fun r => p r && decide (r.HasStatus .active)) chosen
      (acknowledgeRow_ofAlert now)]

theorem dismiss_eq (now : Int) (id : String) :
    s.dismiss now id =
      if ∃ a ∈ alerts, a.id = id ∧ a.status.IsOpen then
        (true,
          let alerts := alerts.map fun a =>
            if a.id = id ∧ a.status.IsOpen then a.dismiss now else a
          { s with table := some (alerts.map .ofAlert), counters := census alerts })
      else (false, s) := by
  by_cases e : ∃ a ∈ alerts, a.id = id ∧ a.status.IsOpen
  · rw [if_pos e]
    obtain ⟨a, ha, rfl, hopen⟩ := e
    -- the row is looked up by its id alone; it is the only one, and it is open
    have only (b : Alert) (hb : b ∈ alerts) : b.id = a.id ↔ b.id = a.id ∧ b.status.IsOpen :=
      ⟨fun same => ⟨same, List.inj_on_of_nodup_map h.ids hb ha same ▸ hopen⟩, And.left⟩
    have changed : updateRows (·.id = a.id) (dismissRow now) (alerts.map .ofAlert) =
        (alerts.map fun b =>
          if b.id = a.id ∧ b.status.IsOpen then b.dismiss now else b).map .ofAlert := by
      rw [updateRows_ofAlert (q := (·.id = a.id)) (fun _ => rfl) (dismissRow_ofAlert now)]
      congr 1
      refine List.map_congr_left fun b hb => ?_
      simp only [← only b hb]
    simp only [dismiss, h.table, h.counters, find_ofAlert, find_id h.ids ha, Option.map_some,
      Option.bind_some, dismissible?_ofAlert, if_pos hopen, changed,
      census_dismiss now h.ids ha hopen]
  · rw [if_neg e]
    have none : ((alerts.find? (·.id = id)).map Row.ofAlert).bind dismissible? = none := by
      cases got : alerts.find? (·.id = id) with
      | none => rfl
      | some a =>
        have ha := List.mem_of_find?_eq_some got
        have same : a.id = id := by simpa using List.find?_some got
        rw [Option.map_some, Option.bind_some, dismissible?_ofAlert,
          if_neg fun hopen => e ⟨a, ha, same, hopen⟩]
    simp only [dismiss, h.table, find_ofAlert, none]

theorem dismissAll_eq (now : Int) :
    s.dismissAll now =
      (alerts.countP (·.status.IsOpen),
        let alerts := alerts.map fun a => if a.status.IsOpen then a.dismiss now else a
        { s with table := some (alerts.map .ofAlert), counters := census alerts }) := by
  have chosen (a : Alert) : decide (Row.ofAlert a).NamesOpen = decide a.status.IsOpen :=
    decide_eq_decide.2 Row.namesOpen_ofAlert
  have number : (alerts.map Row.ofAlert).countP (fun r => decide r.NamesOpen) =
      alerts.countP (·.status.IsOpen) := by
    rw [List.countP_map]
    exact List.countP_congr fun a _ => by rw [Function.comp_apply, chosen]
  simp only [dismissAll, h.table, h.counters, number, census_dismissAll,
    updateRows_ofAlert (p := fun r => decide r.NamesOpen) chosen (dismissRow_ofAlert now)]

theorem purge_eq (cutoff : Int) :
    s.purgeDismissedBefore cutoff =
      (alerts.countP (·.DismissedBefore cutoff),
        let alerts := alerts.filter fun a => !decide (a.DismissedBefore cutoff)
        { s with table := some (alerts.map .ofAlert), counters := census alerts }) := by
  have chosen : (fun r : Row => decide (r.DismissedBefore cutoff)) ∘ Row.ofAlert =
      fun a => decide (a.DismissedBefore cutoff) :=
    funext fun a => decide_eq_decide.2 Row.dismissedBefore_ofAlert
  have kept : (alerts.map Row.ofAlert).filter (fun r => !decide (r.DismissedBefore cutoff)) =
      (alerts.filter fun a => !decide (a.DismissedBefore cutoff)).map .ofAlert := by
    rw [List.filter_map]
    simp only [Function.comp_def, Row.dismissedBefore_ofAlert]
  have severities : ((alerts.map Row.ofAlert).filter
        fun r => decide (r.DismissedBefore cutoff)).mapM (fun r => Severity.parse r.severity) =
      .ok ((alerts.filter fun a => decide (a.DismissedBefore cutoff)).map (·.severity)) := by
    rw [List.filter_map, chosen, List.mapM_map]
    simp only [Function.comp_def, Row.ofAlert_severity, Severity.parse_name]
    exact List.mapM_pure
  simp only [purgeDismissedBefore, h.table, severities, kept, h.counters, List.length_map,
    ← List.countP_eq_length_filter]
  rw [census_purge (·.DismissedBefore cutoff) fun a old => old.1]

theorem reopen_eq : s.reopen = s := by
  have room : alerts.length ≤ maxCount := Nat.le_trans h.length_le (by decide)
  obtain ⟨location, table, counters⟩ := s
  obtain rfl : table = some (alerts.map .ofAlert) := h.table
  obtain rfl : counters = census alerts := h.counters
  rw [reopen, onTable, Option.getD_some, ofRows_ofAlert room]

/-- **Step.** An operation leaves the store holding what it makes of the alerts. -/
theorem apply (op : Op) : (op.apply s).Holds (op.after alerts) := by
  suffices moved : (op.apply s).table = some ((op.after alerts).map .ofAlert) ∧
      (op.apply s).counters = census (op.after alerts) from
    ⟨moved.1, moved.2, op.ids_after h.ids, op.length_after_le h.length_le,
      op.isStamped_after h.stamped⟩
  -- what the alerts are like follows from their fates; the rows and the counters are left
  cases op with
  | create fresh a =>
    rw [Op.apply, h.create_eq, Op.after_create, Op.added_create]
    by_cases id : alerts.any (·.id = (prepare fresh a).id) = true
    · rw [if_pos id, if_pos (.inl id), List.append_nil]
      exact ⟨h.table, h.counters⟩
    · rw [if_neg id]
      by_cases full : maxRows ≤ alerts.length
      · rw [if_pos full, if_pos (.inr full), List.append_nil]
        exact ⟨h.table, h.counters⟩
      · rw [if_neg full, if_neg (not_or.2 ⟨id, full⟩)]
        exact ⟨rfl, rfl⟩
  | acknowledge now id =>
    rw [Op.apply, acknowledge, h.acknowledgeWhere_eq now (q := (·.id = id)) fun _ => rfl,
      Op.after_of_map (fun _ => rfl) rfl]
    exact ⟨rfl, rfl⟩
  | acknowledgeAll now =>
    rw [Op.apply, acknowledgeAll, h.acknowledgeWhere_eq now (q := fun _ => True) fun _ => rfl,
      Op.after_of_map (fun _ => rfl) rfl]
    simp only [true_and, and_self]
  | dismiss now id =>
    rw [Op.apply, h.dismiss_eq, Op.after_of_map (fun _ => rfl) rfl]
    by_cases e : ∃ a ∈ alerts, a.id = id ∧ a.status.IsOpen
    · rw [if_pos e]
      exact ⟨rfl, rfl⟩
    · have same : (alerts.map fun a =>
          if a.id = id ∧ a.status.IsOpen then a.dismiss now else a) = alerts := by
        refine (List.map_congr_left fun a ha => ?_).trans (List.map_id alerts)
        exact if_neg fun chosen => e ⟨a, ha, chosen⟩
      rw [if_neg e, same]
      exact ⟨h.table, h.counters⟩
  | dismissAll now =>
    rw [Op.apply, h.dismissAll_eq, Op.after_of_map (fun _ => rfl) rfl]
    exact ⟨rfl, rfl⟩
  | purgeDismissedBefore cutoff =>
    rw [Op.apply, h.purge_eq, Op.after_purge]
    exact ⟨rfl, rfl⟩
  | reopen =>
    rw [Op.apply, h.reopen_eq, Op.after_of_map (f := id) (fun _ => rfl) rfl, List.map_id]
    exact ⟨h.table, h.counters⟩

end Holds

/-! ## Ids -/

/-- The ids in the store, in the order in which they came. -/
def ids (s : Store) : List String := s.rows.map (·.id)

/-- What stays under an operation stays in its order. -/
theorem Op.fates_sublist (op : Op) (alerts : List Alert) :
    ((alerts.filterMap op.fate).map (·.id)).Sublist (alerts.map (·.id)) := by
  induction alerts with
  | nil => exact List.Sublist.slnil
  | cons a l ih =>
    rw [List.filterMap_cons, List.map_cons]
    cases fate : op.fate a with
    | none => exact ih.cons _
    | some b =>
      show ((b :: l.filterMap op.fate).map (·.id)).Sublist _
      rw [List.map_cons, Op.id_of_fate fate]
      exact ih.cons_cons _

namespace Holds

variable {s : Store} {alerts : List Alert} (h : s.Holds alerts)

include h

theorem ids_eq : s.ids = alerts.map (·.id) := by
  rw [Store.ids, h.rows_eq, List.map_map]
  rfl

/-- Different rows have different ids. -/
theorem eq_of_id {r r' : Row} (hr : r ∈ s.rows) (hr' : r' ∈ s.rows) (same : r.id = r'.id) :
    r = r' := by
  have ids : s.ids.Nodup := h.ids_eq ▸ h.ids
  exact List.inj_on_of_nodup_map ids hr hr' same

/-- An operation leaves the ids that stay in their order, and a new one comes last. -/
theorem ids_apply (op : Op) : ∃ kept new, (op.apply s).ids = kept ++ new ∧
    kept.Sublist s.ids ∧ new.length ≤ 1 ∧ ∀ id ∈ new, id ∉ s.ids := by
  rw [h.ids_eq, (h.apply op).ids_eq, Op.after, List.map_append]
  refine ⟨_, _, rfl, op.fates_sublist alerts, ?_⟩
  rcases op.added_cases alerts with none | ⟨fresh, a, one, _, free, _⟩
  · rw [none]
    exact ⟨Nat.zero_le 1, nofun⟩
  · rw [one]
    refine ⟨Nat.le_refl 1, fun id hid taken => ?_⟩
    rw [List.mem_singleton.1 hid] at taken
    obtain ⟨b, hb, same⟩ := List.mem_map.1 taken
    exact free b hb same

end Holds

/-! ## Any number of operations -/

theorem run_append (s : Store) (ops more : List Op) : s.run (ops ++ more) = (s.run ops).run more :=
  List.foldl_append

theorem holds_onTable_none (location : String) : (onTable location none).Holds [] where
  table := rfl
  counters := rfl
  ids := List.nodup_nil
  length_le := Nat.zero_le _
  stamped _ ha := absurd ha List.not_mem_nil

/-- **Runs.** Operations one after another leave the store holding what they make of its alerts. -/
theorem Holds.run {s : Store} {alerts : List Alert} (h : s.Holds alerts) (ops : List Op) :
    (s.run ops).Holds (ops.foldl (fun alerts op => op.after alerts) alerts) := by
  induction ops generalizing s alerts with
  | nil => exact h
  | cons op ops ih => exact ih (h.apply op)

theorem isTimely_run {ops : List Op} (hops : ∀ op ∈ ops, op.IsTimely) {alerts : List Alert}
    (h : ∀ a ∈ alerts, a.IsTimely) :
    ∀ a ∈ ops.foldl (fun alerts op => op.after alerts) alerts, a.IsTimely := by
  induction ops generalizing alerts with
  | nil => exact h
  | cons op ops ih =>
    exact ih (fun o ho => hops o (List.mem_cons_of_mem _ ho))
      (Op.isTimely_after (hops op List.mem_cons_self) h)

/-- A reachable store holds alerts at times. -/
theorem Reachable.holds {s : Store} (h : s.Reachable) :
    ∃ alerts, s.Holds alerts ∧ ∀ a ∈ alerts, a.IsTimely := by
  obtain ⟨location, ops, hops, rfl⟩ := h
  exact ⟨_, (holds_onTable_none location).run ops,
    isTimely_run hops fun a ha => absurd ha List.not_mem_nil⟩

/-- A store that has seen every kind of operation, a refused one among them. -/
def seasoned : Store :=
  run (onTable "alerts.db" none)
    [.create "a" (.new 1700000000 .critical .disk "system_monitor" "disk full"),
      .create "b" (.new 1700000060 .warning .cpu "system_monitor" "cpu busy"),
      .create "a" (.new 1700000120 .info .service "tests" "refused"),
      .acknowledge 1700000180 "a", .dismiss 1700000240 "a", .purgeDismissedBefore 1700000241,
      .create "c" (.new 1700000300 .critical .memory "system_monitor" "memory full"),
      .acknowledgeAll 1700000360, .reopen,
      .create "d" (.new 1700000420 .error .service "system_monitor" "unit failed"),
      .dismissAll 1700000480, .create "e" (.new 1700000540 .info .system "tests" "noted")]

theorem seasoned_reachable : seasoned.Reachable := ⟨"alerts.db", _, by decide, rfl⟩

end Store

end HostWatch
