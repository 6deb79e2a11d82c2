import HostWatch.Proofs.Json.RoundTrip

/-!
# Objects

An object that is built by its members finds the last of each name (`get?_object`), and is plain and
as shallow as its members are (`plain_object`, `depth_object_le`).
-/

namespace HostWatch

/-- What is put into a map was there before or comes from the entries. -/
theorem mem_foldl_putEntry {entries acc : List (String × α)} {e : String × α}
    (h : e ∈ entries.foldl (fun acc e => putEntry e.1 e.2 acc) acc) : e ∈ acc ∨ e ∈ entries := by
  induction entries generalizing acc with
  | nil => exact .inl h
  | cons f rest ih =>
    rcases ih h with h | h
    · rcases mem_putEntry h with rfl | h
      · exact .inr List.mem_cons_self
      · exact .inl h
    · exact .inr (List.mem_cons_of_mem _ h)

theorem mem_putEntries {entries : List (String × α)} {e : String × α} (h : e ∈ putEntries entries) :
    e ∈ entries := by
  rcases mem_foldl_putEntry h with h | h
  · cases h
  · exact h

namespace Json

/-! ## Members -/

theorem inRangeMembers_iff {members : List Member} :
    InRangeMembers members ↔ ∀ m ∈ members, InRange m.2 := by
  induction members with
  | nil => exact iff_of_true trivial nofun
  | cons m rest ih =>
    rw [List.forall_mem_cons, ← ih]
    rfl

theorem plainMembers_iff {members : List Member} :
    PlainMembers members ↔ ∀ m ∈ members, Plain m.2 := by
  induction members with
  | nil => exact iff_of_true trivial nofun
  | cons m rest ih =>
    rw [List.forall_mem_cons, ← ih]
    rfl

theorem depthMembers_le_iff {members : List Member} {n : Nat} :
    depthMembers members ≤ n ↔ ∀ m ∈ members, depth m.2 ≤ n := by
  induction members with
  | nil => exact iff_of_true (Nat.zero_le n) nofun
  | cons m rest ih =>
    rw [List.forall_mem_cons, ← ih]
    exact Nat.max_le

theorem plainItems_iff {items : List Json} : PlainItems items ↔ ∀ j ∈ items, Plain j := by
  induction items with
  | nil => exact iff_of_true trivial nofun
  | cons j rest ih =>
    rw [List.forall_mem_cons, ← ih]
    rfl

theorem depthItems_le_iff {items : List Json} {n : Nat} :
    depthItems items ≤ n ↔ ∀ j ∈ items, depth j ≤ n := by
  induction items with
  | nil => exact iff_of_true (Nat.zero_le n) nofun
  | cons j rest ih =>
    rw [List.forall_mem_cons, ← ih]
    exact Nat.max_le

/-! ## Objects of members -/

theorem get?_object (members : List Member) (name : String) :
    (object members).get? name = members.reverse.lookup name := lookup_putEntries members name

theorem plain_object {members : List Member} (h : ∀ m ∈ members, Plain m.2) :
    Plain (object members) :=
  ⟨sortedNames_putEntries members, plainMembers_iff.2 fun m hm => h m (mem_putEntries hm)⟩

theorem depth_object_le {members : List Member} {n : Nat} (h : ∀ m ∈ members, depth m.2 ≤ n) :
    depth (object members) ≤ n + 1 :=
  Nat.succ_le_succ (depthMembers_le_iff.2 fun m hm => h m (mem_putEntries hm))

end Json

end HostWatch
