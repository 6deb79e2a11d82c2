import HostWatch.NameMap

/-!
# Maps by name

Entries that are in order already keep their places when they are put into a map
(`putEntries_of_sortedNames`); in any case the last entry of a name is the one that is found
(`lookup_putEntries`).
-/

namespace HostWatch

theorem putEntry_of_forall_lt {name : String} {value : α} {entries : List (String × α)}
    (h : ∀ e ∈ entries, e.1 < name) : putEntry name value entries = entries ++ [(name, value)] := by
  induction entries with
  | nil => rfl
  | cons e rest ih =>
    have lt : e.1 < name := h e List.mem_cons_self
    have ne : name ≠ e.1 := fun same => String.lt_irrefl _ (same ▸ lt)
    rw [putEntry, if_neg ne, if_neg (String.lt_asymm lt),
      ih fun e he => h e (List.mem_cons_of_mem _ he)]
    rfl

/-- Entries in the order of their names stay as they are. -/
theorem putEntries_of_sortedNames {entries : List (String × α)} (h : SortedNames entries) :
    putEntries entries = entries := by
  suffices ∀ (entries acc : List (String × α)), SortedNames (acc ++ entries) →
      entries.foldl (fun acc e => putEntry e.1 e.2 acc) acc = acc ++ entries from this entries [] h
  intro entries
  induction entries with
  | nil => intro acc _; exact (List.append_nil acc).symm
  | cons e rest ih =>
    intro acc h
    have below : ∀ x ∈ acc, x.1 < e.1 := fun x hx =>
      (List.pairwise_append.1 h).2.2 x hx e List.mem_cons_self
    rw [List.foldl_cons, putEntry_of_forall_lt below, ih, List.append_assoc, List.singleton_append]
    rwa [List.append_assoc, List.singleton_append]

theorem NameMap.ofList_entries (m : NameMap α) : NameMap.ofList m.entries = m := by
  obtain ⟨entries, sorted⟩ := m
  simp only [NameMap.ofList, putEntries_of_sortedNames sorted]

theorem lookup_cons_eq (n name : String) (value : α) (rest : List (String × α)) :
    ((name, value) :: rest).lookup n = if n = name then some value else rest.lookup n := by
  rw [List.lookup_cons]
  by_cases same : n = name
  · rw [if_pos same, beq_iff_eq.2 same]
  · rw [if_neg same, beq_eq_false_iff_ne.2 same]

theorem lookup_putEntry (name : String) (value : α) (entries : List (String × α)) (n : String) :
    (putEntry name value entries).lookup n = if n = name then some value else entries.lookup n := by
  induction entries with
  | nil => rw [putEntry, lookup_cons_eq]
  | cons e rest ih =>
    obtain ⟨k, v⟩ := e
    rw [putEntry]
    by_cases same : name = k
    · subst same
      rw [if_pos rfl, lookup_cons_eq, lookup_cons_eq]
      by_cases found : n = name
      · rw [if_pos found, if_pos found]
      · rw [if_neg found, if_neg found, if_neg found]
    · rw [if_neg same]
      by_cases less : name < k
      · rw [if_pos less, lookup_cons_eq]
      · rw [if_neg less, lookup_cons_eq, ih, lookup_cons_eq]
        by_cases found : n = k
        · subst found
          rw [if_pos rfl, if_neg (Ne.symm same), if_pos rfl]
        · rw [if_neg found, if_neg found]

/-- Of entries with one name the last counts. -/
theorem lookup_putEntries (entries : List (String × α)) (n : String) :
    (putEntries entries).lookup n = entries.reverse.lookup n := by
  suffices ∀ acc, (entries.foldl (fun acc e => putEntry e.1 e.2 acc) acc).lookup n =
      (entries.reverse ++ acc).lookup n by
    rw [putEntries, this, List.append_nil]
  induction entries with
  | nil => intro acc; rfl
  | cons e rest ih =>
    intro acc
    rw [List.foldl_cons, ih, List.reverse_cons, List.append_assoc, List.singleton_append]
    induction rest.reverse with
    | nil => rw [List.nil_append, List.nil_append, lookup_putEntry, lookup_cons_eq]
    | cons f rest ih => rw [List.cons_append, List.cons_append, lookup_cons_eq, lookup_cons_eq, ih]

/-! ## Maps of images -/

theorem lookup_map (f : α → β) (entries : List (String × α)) (n : String) :
    (entries.map fun e => (e.1, f e.2)).lookup n = (entries.lookup n).map f := by
  induction entries with
  | nil => rfl
  | cons e rest ih =>
    rw [List.map_cons, lookup_cons_eq, lookup_cons_eq, ih]
    split <;> rfl

/-- The map with `f` of every value. -/
def NameMap.map (f : α → β) (m : NameMap α) : NameMap β where
  entries := m.entries.map fun e => (e.1, f e.2)
  sorted := by
    unfold SortedNames
    rw [List.pairwise_map]
    exact m.sorted

theorem NameMap.get?_map (f : α → β) (m : NameMap α) (n : String) :
    (m.map f).get? n = (m.get? n).map f := lookup_map f m.entries n

end HostWatch
