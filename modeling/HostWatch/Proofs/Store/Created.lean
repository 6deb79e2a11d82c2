import HostWatch.Proofs.Store.Contents

/-!
# What was created is found again

`created_until_touched`: creating an alert fails just where it brings a taken id, and then nothing
has happened; an alert that was stored is found as it was stored until something may change its
status. This holds of every store that has a table with room, whatever else stands in its rows.

1. An active row stays what its id finds under every operation that does not touch its status
   (`Finds.apply`), and so under any number of them (`Finds.run`).
2. What is found there is the alert that was written (`Finds.get?_eq`).
3. Creating appends a row, or its id is taken (`create_or_taken`).
-/

namespace HostWatch.Store

/-- The operation may change the status of the alert with that id. -/
def Op.Touches (id : String) : Op → Prop
  | .acknowledge _ other | .dismiss _ other => other = id
  | .acknowledgeAll _ | .dismissAll _ => True
  | .create _ _ | .purgeDismissedBefore _ | .reopen => False

instance (id : String) : DecidablePred (Op.Touches id)
  | .acknowledge _ other | .dismiss _ other => inferInstanceAs (Decidable (other = id))
  | .acknowledgeAll _ | .dismissAll _ => .isTrue trivial
  | .create _ _ | .purgeDismissedBefore _ | .reopen => .isFalse fun touches => touches

/-- There is a table, in which the id finds the row. -/
def Finds (s : Store) (id : String) (r : Row) : Prop :=
  ∃ rows, s.table = some rows ∧ rows.find? (·.id = id) = some r

/-! ## Rows -/

section Rows

variable {rows : List Row} {id : String} {r : Row}

theorem id_of_find? (found : rows.find? (·.id = id) = some r) : r.id = id := by
  simpa using List.find?_some found

/-- A row that is left alone by a change is found as before. -/
theorem find?_updateRows {p : Row → Bool} {f : Row → Row} (sameId : ∀ r, (f r).id = r.id)
    (found : rows.find? (·.id = id) = some r) (left : p r = false) :
    (updateRows p f rows).find? (·.id = id) = some r := by
  have ids : ((fun r : Row => decide (r.id = id)) ∘ fun r => if p r then f r else r) =
      fun r => decide (r.id = id) := by
    funext r
    by_cases h : p r <;> simp [h, sameId]
  rw [updateRows, List.find?_map, ids, found, Option.map_some, left]
  rfl

/-- A row that stays when others are removed is found as before. -/
theorem find?_filter_kept {p : Row → Bool} (found : rows.find? (·.id = id) = some r)
    (kept : p r = true) : (rows.filter p).find? (·.id = id) = some r := by
  obtain ⟨named, before, after, split, others⟩ := List.find?_eq_some_iff_append.1 found
  rw [split, List.filter_append, List.filter_cons_of_pos kept]
  refine List.find?_eq_some_iff_append.2 ⟨named, _, _, rfl, fun x hx => ?_⟩
  exact others x (List.mem_of_mem_filter hx)

theorem eq_of_insertRow {rows' : List Row} (inserted : insertRow rows r = .ok rows') :
    rows' = rows ++ [r] := by
  rw [insertRow] at inserted
  split_ifs at inserted
  exact (Except.ok.inj inserted).symm

end Rows

/-! ## Operations -/

variable {s : Store} {id : String} {r : Row}

/-- **Step.** An active row is what its id finds after any operation that does not touch it. -/
theorem Finds.apply (h : s.Finds id r) (active : r.HasStatus .active) {op : Op}
    (untouched : ¬ op.Touches id) : (op.apply s).Finds id r := by
  obtain ⟨rows, table, found⟩ := h
  have named := id_of_find? found
  cases op with
  | create fresh a =>
    rw [Op.apply, create, table]
    dsimp only
    cases inserted : insertRow rows (.ofAlert (prepare fresh a)) with
    | error e => exact ⟨rows, table, found⟩
    | ok rows' =>
      obtain rfl := eq_of_insertRow inserted
      exact ⟨_, rfl, by rw [List.find?_append, found, Option.some_or]⟩
  | acknowledge now other =>
    have left : (decide (r.id = other) && decide (r.HasStatus .active)) = false := by
      have : r.id ≠ other := fun same => untouched (same.symm.trans named)
      simp [this]
    rw [Op.apply, acknowledge, acknowledgeWhere, table]
    exact ⟨_, rfl, find?_updateRows (f := acknowledgeRow now) (fun _ => rfl) found left⟩
  | acknowledgeAll | dismissAll => exact absurd trivial untouched
  | dismiss now other =>
    have left : decide (r.id = other) = false := by
      have : r.id ≠ other := fun same => untouched (same.symm.trans named)
      simp [this]
    rw [Op.apply, dismiss, table]
    dsimp only
    cases (rows.find? (·.id = other)).bind dismissible? with
    | none => exact ⟨rows, table, found⟩
    | some previous =>
      exact ⟨_, rfl, find?_updateRows (f := dismissRow now) (fun _ => rfl) found left⟩
  | purgeDismissedBefore cutoff =>
    -- an active row is not among those that are removed
    have kept : (!decide (r.DismissedBefore cutoff)) = true := by
      have : ¬ r.DismissedBefore cutoff := fun old =>
        absurd (active.unique old.1) (by decide)
      simp [this]
    rw [Op.apply, purgeDismissedBefore, table]
    dsimp only
    cases (rows.filter fun r => decide (r.DismissedBefore cutoff)).mapM
        fun r => Severity.parse r.severity with
    | error e => exact ⟨rows, table, found⟩
    | ok severities => exact ⟨_, rfl, find?_filter_kept found kept⟩
  | reopen =>
    refine ⟨rows, ?_, found⟩
    rw [Op.apply, reopen, table]
    rfl

/-- **Runs.** An active row is what its id finds until an operation touches it. -/
theorem Finds.run (h : s.Finds id r) (active : r.HasStatus .active) {ops : List Op}
    (untouched : ∀ op ∈ ops, ¬ op.Touches id) : (s.run ops).Finds id r := by
  induction ops generalizing s with
  | nil => exact h
  | cons op ops ih =>
    obtain ⟨first, others⟩ := List.forall_mem_cons.1 untouched
    exact ih (h.apply active first) others

/-- The row of an alert is found as the alert. -/
theorem Finds.get?_eq {a : Alert} (h : s.Finds id (.ofAlert a)) (times : a.IsTimely) :
    s.get? id = .ok (some a) := by
  obtain ⟨rows, table, found⟩ := h
  simp only [get?, table, found, alertOf_ofAlert times]
  rfl

/-! ## Creating -/

theorem ids_eq_map {rows : List Row} (table : s.table = some rows) :
    s.ids = rows.map (·.id) := by
  rw [ids, Store.rows, table]
  rfl

theorem prepare_eq (fresh : String) (a : Alert) : prepare fresh a =
    { a with
      id := if a.id = "" then fresh else a.id
      status := .active, acknowledgedAt := none, dismissedAt := none } := by
  simp only [prepare, String.isEmpty_iff]

/-- With a table that has room, creating appends the row of the alert, or its id is taken. -/
theorem create_or_taken {rows : List Row} (table : s.table = some rows)
    (room : rows.length < maxRows) (fresh : String) (a : Alert) :
    ((prepare fresh a).id ∉ s.ids ∧ (s.create fresh a).1 = .ok (prepare fresh a) ∧
        (s.create fresh a).2.table = some (rows ++ [.ofAlert (prepare fresh a)])) ∨
      ((prepare fresh a).id ∈ s.ids ∧ s.create fresh a = (.error .duplicateId, s)) := by
  have taken : rows.any (·.id = (Row.ofAlert (prepare fresh a)).id) = true ↔
      (prepare fresh a).id ∈ s.ids := by
    rw [ids_eq_map table, List.any_eq_true, List.mem_map]
    exact exists_congr fun r => and_congr_right fun _ => decide_eq_true_iff
  by_cases h : (prepare fresh a).id ∈ s.ids
  · refine .inr ⟨h, ?_⟩
    simp only [create, table, insertRow, if_pos (taken.2 h)]
  · refine .inl ⟨h, ?_⟩
    simp only [create, table, insertRow, if_neg (mt taken.1 h), if_neg (Nat.not_le.2 room),
      true_and]

/-- A row that was appended under an id of its own is found under it. -/
theorem find?_append_new {rows : List Row} {r : Row} (new : ∀ x ∈ rows, x.id ≠ r.id) :
    (rows ++ [r]).find? (·.id = r.id) = some r := by
  have none : rows.find? (·.id = r.id) = none :=
    List.find?_eq_none.2 fun x hx same => new x hx (of_decide_eq_true same)
  rw [List.find?_append, none, Option.none_or, List.find?_singleton, if_pos (decide_eq_true rfl)]

/-- **Created alerts.** In a store that has a table with room, creating an alert fails just where
the alert brings an id that is stored already, and then the store is as it was. An alert that was
stored is the one that was given, but active, without stamps, and under a new id if it had none; its
id finds it in whatever the store becomes, until an operation touches its status. -/
theorem create_until_touched {rows : List Row} {fresh : String} {a : Alert}
    (table : s.table = some rows) (room : rows.length < maxRows) (unused : fresh ∉ s.ids)
    (time : IsTime a.createdAt) :
    (∀ b, (s.create fresh a).1 = .ok b →
      b = { a with
        id := if a.id = "" then fresh else a.id
        status := .active, acknowledgedAt := none, dismissedAt := none } ∧
      ∀ ops : List Op, (∀ op ∈ ops, ¬ op.Touches b.id) →
        ((s.create fresh a).2.run ops).get? b.id = .ok (some b)) ∧
    ((∃ e, (s.create fresh a).1 = .error e) ↔ a.id ≠ "" ∧ a.id ∈ s.ids) ∧
    (∀ e, (s.create fresh a).1 = .error e → (s.create fresh a).2 = s) := by
  have times : (prepare fresh a).IsTimely :=
    { createdAt := time, acknowledgedAt := nofun, dismissedAt := nofun }
  have taken_iff : (prepare fresh a).id ∈ s.ids ↔ a.id ≠ "" ∧ a.id ∈ s.ids := by
    rw [prepare_eq]
    by_cases unnamed : a.id = ""
    · simp [unnamed, unused]
    · simp [unnamed]
  rw [← prepare_eq, ← taken_iff]
  rcases create_or_taken table room fresh a with ⟨free, created, appended⟩ | ⟨taken, refused⟩
  · have finds : (s.create fresh a).2.Finds (prepare fresh a).id (.ofAlert (prepare fresh a)) :=
      ⟨_, appended, find?_append_new (r := .ofAlert (prepare fresh a)) fun x hx same => by
        rw [ids_eq_map table] at free
        exact free (List.mem_map.2 ⟨x, hx, same⟩)⟩
    refine ⟨fun b ok => ?_, iff_of_false ?_ free, fun e failed => ?_⟩
    · obtain rfl : prepare fresh a = b := Except.ok.inj (created.symm.trans ok)
      refine ⟨rfl, fun ops untouched => (finds.run ?_ untouched).get?_eq times⟩
      exact Row.hasStatus_ofAlert.2 rfl
    · rintro ⟨e, failed⟩
      exact nomatch created.symm.trans failed
    · exact nomatch created.symm.trans failed
  · rw [refused]
    exact ⟨fun _ ok => (nomatch ok), iff_of_true ⟨_, rfl⟩ taken, fun _ _ => rfl⟩

/-- An alert without an id, which says that it is dismissed, in a store that has seen every kind of
operation; then a refused alert under its id, moves and purges of others, and a new opening. -/
theorem create_until_touched_seasoned :
    let a : Alert := { Alert.new 1700000600 .error .packages "tests" "it said \"no\"" with
      metadata := .ofList [("tab\t", "\u0001"), ("", "😀")]
      status := .dismissed, dismissedAt := some 1700000601 }
    let b : Alert := { a with id := "f", status := .active, dismissedAt := none }
    "f" ∉ seasoned.ids ∧ (seasoned.create "f" a).1 = .ok b ∧
      ((seasoned.create "f" a).2.run [.create "g" b, .acknowledge 1700000700 "e",
        .dismiss 1700000710 "e", .purgeDismissedBefore 1700000720, .reopen]).get? "f" =
          .ok (some b) ∧
      (seasoned.create "g" { a with id := "e" }).2 = seasoned := by
  intro a b
  have free : "f" ∉ seasoned.ids := by decide
  have alsoFree : "g" ∉ seasoned.ids := by decide
  have stored : (seasoned.create "f" a).1 = .ok b := rfl
  have kept := (create_until_touched (a := a) rfl (by decide) free (by decide)).1 b stored
  obtain ⟨-, fails, unchanged⟩ := create_until_touched (a := { a with id := "e" }) rfl (by decide)
    alsoFree (by decide)
  obtain ⟨e, failed⟩ := fails.2 ⟨by decide, by decide⟩
  exact ⟨free, stored, kept.2 _ (by decide), unchanged e failed⟩

end HostWatch.Store
