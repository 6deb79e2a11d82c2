/-!
# Values by name

Entries in the order of their names, each name once. `put` keeps that order, and an entry put
under a name already there replaces the old one; so a map is determined by what is found in it.
-/

namespace HostWatch

/-- Puts an entry in its place by name; a name already there gets the new value. -/
def putEntry (name : String) (value : α) : List (String × α) → List (String × α)
  | [] => [(name, value)]
  | (n, v) :: rest =>
    if name = n then (name, value) :: rest
    else if name < n then (name, value) :: (n, v) :: rest
    else (n, v) :: putEntry name value rest

/-- Entries in any order put one after another; of entries with one name the last counts. -/
def putEntries (entries : List (String × α)) : List (String × α) :=
  entries.foldl (fun acc e => putEntry e.1 e.2 acc) []

/-- Names in strictly increasing order. -/
def SortedNames (entries : List (String × α)) : Prop :=
  entries.Pairwise (fun a b => a.1 < b.1)

instance (entries : List (String × α)) : Decidable (SortedNames entries) := by
  unfold SortedNames; infer_instance

theorem mem_putEntry {name : String} {value : α} {entries : List (String × α)} {e : String × α}
    (h : e ∈ putEntry name value entries) : e = (name, value) ∨ e ∈ entries := by
  induction entries with
  | nil => simpa [putEntry] using h
  | cons head rest ih =>
    obtain ⟨n, v⟩ := head
    unfold putEntry at h
    split at h
    · rcases List.mem_cons.1 h with h | h
      · exact .inl h
      · exact .inr (List.mem_cons_of_mem _ h)
    · split at h
      · exact List.mem_cons.1 h
      · rcases List.mem_cons.1 h with h | h
        · exact .inr (h ▸ List.mem_cons_self)
        · rcases ih h with h | h
          · exact .inl h
          · exact .inr (List.mem_cons_of_mem _ h)

theorem SortedNames.putEntry {entries : List (String × α)} (h : SortedNames entries)
    (name : String) (value : α) : SortedNames (putEntry name value entries) := by
  induction entries with
  | nil => simp [SortedNames, HostWatch.putEntry]
  | cons head rest ih =>
    obtain ⟨n, v⟩ := head
    obtain ⟨below, sorted⟩ := List.pairwise_cons.1 h
    unfold HostWatch.putEntry
    split
    · next same => exact List.pairwise_cons.2 ⟨fun e he => same ▸ below e he, sorted⟩
    · next differ =>
      split
      · next less =>
        refine List.pairwise_cons.2 ⟨fun e he => ?_, h⟩
        rcases List.mem_cons.1 he with he | he
        · exact he ▸ less
        · exact String.lt_trans less (below e he)
      · next notLess =>
        refine List.pairwise_cons.2 ⟨fun e he => ?_, ih sorted⟩
        rcases mem_putEntry he with he | he
        · subst he
          exact Std.lt_of_le_of_ne (String.not_lt.1 notLess) (Ne.symm differ)
        · exact below e he

theorem sortedNames_putEntries (entries : List (String × α)) :
    SortedNames (putEntries entries) := by
  suffices ∀ acc : List (String × α), SortedNames acc →
      SortedNames (entries.foldl (fun acc e => putEntry e.1 e.2 acc) acc) from
    this [] List.Pairwise.nil
  induction entries with
  | nil => exact fun acc h => h
  | cons e rest ih => exact fun acc h => ih _ (h.putEntry e.1 e.2)

/-- Values by name. -/
structure NameMap (α : Type) where
  entries : List (String × α)
  sorted : SortedNames entries

instance [DecidableEq α] : DecidableEq (NameMap α) := fun a b =>
  decidable_of_iff (a.entries = b.entries) <| by cases a; cases b; simp

namespace NameMap

/-- No values. -/
def empty : NameMap α := ⟨[], List.Pairwise.nil⟩

/-- The value of a name. -/
def get? (m : NameMap α) (name : String) : Option α := m.entries.lookup name

/-- The map with a value put under a name. -/
def put (m : NameMap α) (name : String) (value : α) : NameMap α :=
  ⟨putEntry name value m.entries, m.sorted.putEntry name value⟩

/-- Entries in any order; of entries with one name the last counts. -/
def ofList (entries : List (String × α)) : NameMap α :=
  ⟨putEntries entries, sortedNames_putEntries entries⟩

end NameMap

end HostWatch
