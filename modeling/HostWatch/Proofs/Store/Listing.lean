import HostWatch.Proofs.Store.History
import HostWatch.Store.Query

/-!
# What a store lists

`listed_exactly`: a reachable store lists exactly the alerts that match the filter, newest first and
of those of one second the one that came later first, and no more of them than the limit says.

1. The query that a filter is put as asks of a row what the filter says (`Filter.admits_query`), and
   of the row of an alert what the filter asks of the alert (`Row.selected_ofAlert`).
2. Sorting is stable: what is equal stays in the order it had (`pairwise_mergeSort_stable`), and the
   rows were turned round before.
3. Nothing that is done to a store changes the order of its alerts, and a new one comes last
   (`Holds.ids_apply`), so that the place of an alert tells when it came.
-/

namespace HostWatch

/-! ## Filters as queries -/

namespace Clause

theorem meets_append {r : Row} {clauses more : List Clause} {values others : List String}
    (bound : (clauses.flatMap places).length = values.length) :
    Meets r (clauses ++ more) (values ++ others) ↔
      Meets r clauses values ∧ Meets r more others := by
  induction clauses generalizing values with
  | nil =>
    obtain rfl : values = [] := List.length_eq_zero_iff.1 bound.symm
    exact (and_iff_right trivial).symm
  | cons c clauses ih =>
    cases c with
    | holds column =>
      cases values with
      | nil => cases bound
      | cons v values =>
        exact (and_congr_right fun _ => ih (Nat.succ.inj bound)).trans and_assoc.symm
    | notDismissed => exact (and_congr_right fun _ => ih bound).trans and_assoc.symm

end Clause

namespace Query

variable (q : Query) (r : Row)

theorem admits_all : all.Admits r := trivial

theorem admits_and (c : Clause) (values : List String) (bound : c.places.length = values.length) :
    (q.and c values bound).Admits r ↔ q.Admits r ∧ Clause.Meets r [c] values :=
  Clause.meets_append q.bound

theorem admits_holding (column : Row → String) (value : Option String) :
    (q.holding column value).Admits r ↔ q.Admits r ∧ ∀ v ∈ value, column r = v := by
  cases value with
  | none => exact (and_iff_left nofun).symm
  | some v =>
    refine (q.admits_and r _ [v] rfl).trans (and_congr_right fun _ => ?_)
    show column r = v ∧ True ↔ _
    simp

end Query

theorem Filter.admits_columns (f : Filter) (r : Row) :
    f.columns.Admits r ↔ (∀ s ∈ f.severity, r.severity = s.name) ∧
      (∀ c ∈ f.category, r.category = c.name) ∧ ∀ s ∈ f.source, r.source = s := by
  unfold columns
  rw [Query.admits_holding, Query.admits_holding, Query.admits_holding, and_assoc, and_assoc]
  simp [Query.admits_all]

/-- **Queries.** The clauses of a filter, with the values bound to them, select what the filter
selects. -/
theorem Filter.admits_query (f : Filter) (r : Row) : f.query.Admits r ↔ r.Selected f := by
  unfold query Row.Selected
  rw [← and_assoc, ← and_assoc, and_assoc (a := ∀ s ∈ f.severity, _), ← admits_columns]
  cases f.status with
  | some s =>
    refine (Query.admits_holding _ r _ _).trans (and_congr_right fun _ => ?_)
    simp [Row.HasStatus]
  | none =>
    cases f.includeDismissed with
    | true => simp
    | false =>
      refine (Query.admits_and _ r _ _ rfl).trans (and_congr_right fun _ => ?_)
      simp [Clause.Meets]

/-- Either both ask for the status of the alert, or neither asks for a dismissed one. -/
theorem Filter.status_iff (f : Filter) (a : Alert) :
    (match f.status with
      | some s => a.status = s
      | none => f.includeDismissed = true ∨ ¬ a.status = .dismissed) ↔
      (a.status = .dismissed → f.AdmitsDismissed) ∧ Agrees f.status a.status := by
  unfold AdmitsDismissed Agrees
  cases f.status with
  | some s =>
    constructor
    · rintro rfl
      exact ⟨fun dismissed => .inr (congrArg some dismissed), fun w hw => Option.some.inj hw⟩
    · exact fun h => h.2 s rfl
  | none =>
    simp only [reduceCtorEq, or_false, Option.not_mem_none, false_imp_iff, implies_true, and_true]
    exact Decidable.imp_iff_or_not.symm

/-- A row of an alert is selected where the alert matches. -/
theorem Row.selected_ofAlert {f : Filter} {a : Alert} :
    (ofAlert a).Selected f ↔ f.Matches a := by
  have severity : (∀ s ∈ f.severity, a.severity.name = s.name) ↔
      Filter.Agrees f.severity a.severity := forall₂_congr fun s _ => Severity.name_inj
  have category : (∀ c ∈ f.category, a.category.name = c.name) ↔
      Filter.Agrees f.category a.category := forall₂_congr fun c _ => Category.name_inj
  have source : (∀ s ∈ f.source, a.source = s) ↔ Filter.Agrees f.source a.source := Iff.rfl
  unfold Selected Filter.Matches
  simp only [hasStatus_ofAlert]
  refine (and_congr severity (and_congr category (and_congr source (f.status_iff a)))).trans ?_
  tauto

/-! ## Stable sorting -/

/-- Sorting keeps the order of what is equal. -/
theorem pairwise_mergeSort_stable {le : α → α → Bool}
    (trans : ∀ a b c, le a b = true → le b c = true → le a c = true)
    (total : ∀ a b, (le a b || le b a) = true) {R : α → α → Prop} {l : List α}
    (h : l.Pairwise R) :
    (l.mergeSort le).Pairwise fun a b => le a b = true ∧ (le b a = true → R a b) := by
  -- every element is sorted together with its place in the list
  let placed := l.zipIdx.mergeSort (List.zipIdxLE le)
  have perm : placed.Perm l.zipIdx := List.mergeSort_perm _ _
  have sorted : placed.Pairwise fun x y => List.zipIdxLE le x y = true :=
    List.pairwise_mergeSort (List.zipIdxLE_trans trans) (List.zipIdxLE_total total) _
  have different : placed.Pairwise fun x y => x.2 ≠ y.2 := by
    have places : (placed.map (·.2)).Nodup := by
      rw [(perm.map (·.2)).nodup_iff, List.zipIdx_map_snd]
      exact List.nodup_range'
    rwa [List.Nodup, List.pairwise_map] at places
  rw [← List.mergeSort_zipIdx, List.pairwise_map]
  refine (sorted.and different).imp_of_mem fun {x y} hx hy ⟨le', ne⟩ => ?_
  obtain ⟨hi, hxi⟩ := List.mem_zipIdx' (perm.mem_iff.1 hx)
  obtain ⟨hj, hyj⟩ := List.mem_zipIdx' (perm.mem_iff.1 hy)
  unfold List.zipIdxLE at le'
  by_cases first : le x.1 y.1 = true
  · refine ⟨first, fun equal => ?_⟩
    rw [if_pos first, if_pos equal] at le'
    have lt : x.2 < y.2 := Nat.lt_of_le_of_ne (of_decide_eq_true le') ne
    rw [hxi, hyj]
    exact List.pairwise_iff_getElem.1 h _ _ hi hj lt
  · rw [if_neg first] at le'
    cases le'

/-! ## Listing -/

/-- Of two alerts with their places in a store, the first is listed before the second. -/
def ListedBefore (x y : Alert × Nat) : Prop :=
  y.1.createdAt < x.1.createdAt ∨ x.1.createdAt = y.1.createdAt ∧ y.2 < x.2

/-- What is left of a list that a filter limits. -/
def Filter.cut (f : Filter) (l : List α) : List α :=
  match f.limit with
  | none => l
  | some n => l.take n

theorem Filter.cut_map (f : Filter) (g : α → β) (l : List α) :
    f.cut (l.map g) = (f.cut l).map g := by
  unfold cut
  cases f.limit with
  | none => rfl
  | some n => exact List.map_take.symm

theorem Filter.mem_of_mem_cut {f : Filter} {l : List α} {a : α} (h : a ∈ f.cut l) : a ∈ l := by
  unfold cut at h
  cases limit : f.limit with
  | none => rwa [limit] at h
  | some n =>
    rw [limit] at h
    exact List.mem_of_mem_take h

theorem Filter.length_cut_le (f : Filter) (l : List α) : (f.cut l).length ≤ l.length := by
  unfold cut
  cases f.limit with
  | none => exact Nat.le_refl _
  | some n => exact List.length_take_le' n l

namespace Store

/-- The alerts that match a filter, each with its place, in the order in which they are listed. -/
def matching (f : Filter) (alerts : List Alert) : List (Alert × Nat) :=
  ((alerts.zipIdx.filter fun x => decide (f.Matches x.1)).reverse).mergeSort fun x y =>
    decide (y.1.createdAt ≤ x.1.createdAt)

theorem matching_perm (f : Filter) (alerts : List Alert) :
    (matching f alerts).Perm (alerts.zipIdx.filter fun x => decide (f.Matches x.1)) :=
  (List.mergeSort_perm _ _).trans (List.reverse_perm _)

theorem matching_sorted (f : Filter) (alerts : List Alert) :
    (matching f alerts).Pairwise ListedBefore := by
  have places : alerts.zipIdx.Pairwise fun x y => x.2 < y.2 := by
    rw [← List.pairwise_map, List.zipIdx_map_snd]
    exact List.pairwise_lt_range'
  have turned := List.pairwise_reverse.2 (places.filter fun x => decide (f.Matches x.1))
  refine (pairwise_mergeSort_stable ?_ ?_ turned).imp ?_
  · intro x y z hxy hyz
    exact decide_eq_true (Int.le_trans (of_decide_eq_true hyz) (of_decide_eq_true hxy))
  · intro x y
    rw [Bool.or_eq_true, decide_eq_true_eq, decide_eq_true_eq]
    exact Int.le_total _ _
  · rintro x y ⟨le, stable⟩
    rw [decide_eq_true_eq] at le stable
    rcases Int.lt_or_le y.1.createdAt x.1.createdAt with lt | ge
    · exact .inl lt
    · exact .inr ⟨Int.le_antisymm ge le, stable ge⟩

theorem mem_of_mem_matching {f : Filter} {alerts : List Alert} {x : Alert × Nat}
    (h : x ∈ matching f alerts) : x.1 ∈ alerts ∧ f.Matches x.1 := by
  obtain ⟨placed, wanted⟩ := List.mem_filter.1 ((matching_perm f alerts).mem_iff.1 h)
  obtain ⟨_, at'⟩ := List.mem_zipIdx' placed
  exact ⟨at' ▸ List.getElem_mem _, of_decide_eq_true wanted⟩

/-- The rows that a filter selects are those of the alerts that match it. -/
theorem select_ofAlert (f : Filter) (alerts : List Alert) :
    select f (alerts.map .ofAlert) = ((f.cut (matching f alerts)).map (·.1)).map .ofAlert := by
  let places := alerts.zipIdx.filter fun x => decide (f.Matches x.1)
  have wanted : (alerts.map Row.ofAlert).filter (fun r => decide (r.Selected f)) =
      places.map fun x => .ofAlert x.1 := by
    have chosen : (fun r : Row => decide (r.Selected f)) ∘ Row.ofAlert =
        fun a => decide (f.Matches a) :=
      funext fun a => decide_eq_decide.2 Row.selected_ofAlert
    have matched : alerts.filter (fun a => decide (f.Matches a)) = places.map (·.1) := by
      conv_lhs => rw [← List.zipIdx_map_fst 0 alerts]
      exact List.filter_map
    rw [List.filter_map, chosen, matched, List.map_map]
    rfl
  have sorted : newestFirst (places.map fun x => .ofAlert x.1) =
      (matching f alerts).map fun x => .ofAlert x.1 := by
    rw [newestFirst, ← List.map_reverse]
    symm
    apply List.map_mergeSort
    intro x _ y _
    rfl
  have cut : select f (alerts.map .ofAlert) =
      f.cut (newestFirst ((alerts.map Row.ofAlert).filter fun r => decide (r.Selected f))) := rfl
  rw [cut, wanted, sorted, Filter.cut_map, List.map_map]
  rfl

namespace Holds

variable {s : Store} {alerts : List Alert} (h : s.Holds alerts)
  (times : ∀ a ∈ alerts, a.IsTimely)

include h times

/-- A store with a filter whose limit is understood lists what matches. -/
theorem list_eq {f : Filter} (understood : ∀ n ∈ f.limit, n ≤ maxLimit) :
    s.list f = .ok ((f.cut (matching f alerts)).map (·.1)) := by
  have within : ¬ ∃ n ∈ f.limit, maxLimit < n :=
    fun ⟨n, hn, beyond⟩ => Nat.not_lt.2 (understood n hn) beyond
  simp only [list, h.table, if_neg within, select_ofAlert]
  refine mapM_alertOf fun a ha => ?_
  obtain ⟨x, hx, rfl⟩ := List.mem_map.1 ha
  exact times x.1 (mem_of_mem_matching (Filter.mem_of_mem_cut hx)).1

/-- An open alert of a kind is there where something is listed when asked for this kind. -/
theorem hasOpen_iff_list (category : Category) (severity : Severity) (source : String) :
    s.hasOpen category severity source = true ↔ ∃ a rest,
      s.list { severity := some severity, category := some category, source := some source } =
        .ok (a :: rest) := by
  let f : Filter :=
    { severity := some severity, category := some category, source := some source }
  have wanted (a : Alert) : f.Matches a ↔
      a.category = category ∧ a.severity = severity ∧ a.source = source ∧ a.status.IsOpen := by
    simp [f, Filter.Matches, Filter.Agrees, Filter.AdmitsDismissed, Status.IsOpen]
    tauto
  have unlimited : ∀ n ∈ f.limit, n ≤ maxLimit := by rintro n ⟨⟩
  have listed : s.list f = .ok ((matching f alerts).map (·.1)) := h.list_eq times unlimited
  rw [h.hasOpen_eq, List.any_eq_true, show s.list _ = _ from listed]
  constructor
  · rintro ⟨a, ha, isOpen⟩
    obtain ⟨i, hi, rfl⟩ := List.mem_iff_getElem.1 ha
    have found : (alerts[i], i) ∈ matching f alerts := by
      rw [(matching_perm f alerts).mem_iff, List.mem_filter]
      refine ⟨List.mem_zipIdx_iff_getElem?.2 (List.getElem?_eq_getElem hi), ?_⟩
      exact decide_eq_true ((wanted _).2 (of_decide_eq_true isOpen))
    cases all : matching f alerts with
    | nil =>
      rw [all] at found
      cases found
    | cons x rest => exact ⟨x.1, rest.map (·.1), rfl⟩
  · rintro ⟨a, rest, listed⟩
    have first : a ∈ (matching f alerts).map (·.1) := by
      rw [Except.ok.inj listed]
      exact List.mem_cons_self
    obtain ⟨x, hx, rfl⟩ := List.mem_map.1 first
    obtain ⟨stored, matched⟩ := mem_of_mem_matching hx
    exact ⟨x.1, stored, decide_eq_true ((wanted _).1 matched)⟩

end Holds

/-- What a reachable store lists has times, and no more alerts than a table has rows. -/
theorem Reachable.list_timely {s : Store} (h : s.Reachable) {f : Filter}
    (understood : ∀ n ∈ f.limit, n ≤ maxLimit) :
    ∃ listed, s.list f = .ok listed ∧ (∀ a ∈ listed, a.IsTimely) ∧ listed.length ≤ maxRows := by
  obtain ⟨alerts, holds, times⟩ := h.holds
  refine ⟨_, holds.list_eq times understood, fun a ha => ?_, ?_⟩
  · obtain ⟨x, hx, rfl⟩ := List.mem_map.1 ha
    exact times x.1 (mem_of_mem_matching (Filter.mem_of_mem_cut hx)).1
  · calc ((f.cut (matching f alerts)).map (·.1)).length
        = (f.cut (matching f alerts)).length := List.length_map _
      _ ≤ (matching f alerts).length := f.length_cut_le _
      _ = (alerts.zipIdx.filter fun x => decide (f.Matches x.1)).length :=
        (matching_perm f alerts).length_eq
      _ ≤ alerts.zipIdx.length := List.length_filter_le _ _
      _ = alerts.length := List.length_zipIdx
      _ ≤ maxRows := holds.length_le

/-- **Listing.** In a reachable store are alerts, each found under its id, and they stand in the
order in which they came, which no operation changes. For every filter whose limit the table
understands the store lists just those that match, the newest first and of those created in one
second the one that came last, as far as the limit goes; the clauses of the query select the same
rows. And an open alert of a kind is there just where listing this kind lists something. -/
theorem listed_exactly {s : Store} (h : s.Reachable) :
    ∃ alerts, s.Holds alerts ∧ (∀ a, a ∈ alerts ↔ s.get? a.id = .ok (some a)) ∧
      (∀ op : Op, ∃ kept new, (op.apply s).ids = kept ++ new ∧ kept.Sublist s.ids ∧
        new.length ≤ 1 ∧ ∀ id ∈ new, id ∉ s.ids) ∧
      (∀ f : Filter, (∀ n ∈ f.limit, n ≤ maxLimit) → ∃ order : List (Alert × Nat),
        order.Perm (alerts.zipIdx.filter fun x => decide (f.Matches x.1)) ∧
          order.Pairwise ListedBefore ∧ s.list f = .ok (f.cut (order.map (·.1)))) ∧
      (∀ f : Filter, ∀ r ∈ s.rows, f.query.Admits r ↔ r.Selected f) ∧
      ∀ category severity source, s.hasOpen category severity source = true ↔ ∃ a rest,
        s.list { severity := some severity, category := some category, source := some source } =
          .ok (a :: rest) := by
  obtain ⟨alerts, h, times⟩ := h.holds
  refine ⟨alerts, h, fun a => ⟨h.get?_mem times, fun found => (h.mem_of_get? times found).1⟩,
    h.ids_apply, fun f understood => ?_, fun f r _ => f.admits_query r, h.hasOpen_iff_list times⟩
  refine ⟨matching f alerts, matching_perm f alerts, matching_sorted f alerts, ?_⟩
  rw [Filter.cut_map]
  exact h.list_eq times understood

theorem listed_exactly_seasoned :
    seasoned.Reachable ∧ ∃ a rest, seasoned.list { severity := some .info
                                                   category := some .system
                                                   source := some "tests" } = .ok (a :: rest) := by
  have isOpen : seasoned.hasOpen .system .info "tests" = true := by decide
  obtain ⟨_, _, _, _, _, _, listed⟩ := listed_exactly seasoned_reachable
  exact ⟨seasoned_reachable, (listed .system .info "tests").1 isOpen⟩

end Store

end HostWatch
