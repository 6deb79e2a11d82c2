import HostWatch.Health
import HostWatch.Proofs.Alert.Documents
import HostWatch.Proofs.Rpc.Responses

/-!
# Snapshots in documents

`Snapshot.ofJson_reread`: when its JSON has come through a text, a snapshot whose numbers fit their
fields is read from it as it was, but for its doubles, which are what is read of their texts.

The members are in the order of their names (`sortedMembers`), and each fills its own field of the
draft (`gathers`).
-/

namespace HostWatch

/-- The double is a number and not infinite. -/
def IsFinite (x : Float) : Prop := (x.isNaN || x.isInf) = false

instance : DecidablePred IsFinite := fun x =>
  inferInstanceAs (Decidable ((x.isNaN || x.isInf) = false))

namespace Json

/-! ## Numbers -/

/-- What is read of the text of a double, if that is a double. -/
def rereadDouble (x : Float) : Float :=
  match rereadFloat x with
  | .float y => y
  | _ => x

theorem rereadFloat_eq_float {x : Float} (finite : IsFinite x) :
    rereadFloat x = .float (rereadDouble x) := by
  obtain ⟨y, reads⟩ := rereadFloat_of_finite finite
  rw [rereadDouble, reads]

/-- An object has its members in the order of their names. -/
theorem sortedNames_of_object {members sorted : List Member} (h : object members = .obj sorted) :
    SortedNames sorted := obj.inj h ▸ sortedNames_putEntries members

/-- Members in the order of their names stay so. -/
theorem reread_obj {members : List Member} (sorted : SortedNames members) :
    reread (.obj members) = .obj (members.map fun m => (m.1, reread m.2)) := by
  have kept : SortedNames (members.map fun m => (m.1, reread m.2)) := List.pairwise_map.2 sorted
  rw [reread, rereadMembers_eq, object, putEntries_of_sortedNames kept]

theorem ofJson_float (x : Float) (source : Source) : Shape.float.ofJson source (.float x) = .ok x :=
  rfl

theorem ofJson_integer {n low high : Int} (range : low ≤ n ∧ n ≤ high) (expected : String)
    (source : Source) : (Shape.integer expected low high).ofJson source (.int n) = .ok n :=
  if_pos range

theorem ofJson_natural {n bits : Nat} (fits : n < Nat.pow 2 bits) (expected : String)
    (source : Source) : (Shape.natural expected bits).ofJson source (.int n) = .ok n := by
  have power : ((Nat.pow 2 bits : Nat) : Int) = Int.pow 2 bits := Int.natCast_pow 2 bits
  have range : (0 : Int) ≤ n ∧ (n : Int) ≤ Int.pow 2 bits - 1 := by omega
  show ((Shape.integer expected 0 (Int.pow 2 bits - 1)).ofJson source (.int n)).map _ = _
  rw [ofJson_integer range]
  rfl

end Json

open Json (Gathers ofJson_field ofJson_float ofJson_natural)

/-! ## Load averages -/

namespace Load

/-- Every average is a number. -/
def IsFinite (l : Load) : Prop := ∀ x ∈ [l.one, l.five, l.fifteen], HostWatch.IsFinite x

/-- The averages as they are read of their texts. -/
def reread (l : Load) : Load :=
  ⟨Json.rereadDouble l.one, Json.rereadDouble l.five, Json.rereadDouble l.fifteen⟩

theorem toJson_eq (l : Load) : l.toJson =
    .obj [("fifteen", .float l.fifteen), ("five", .float l.five), ("one", .float l.one)] := by
  simp only [toJson, Json.object, putEntries, putEntry, List.foldl_cons, List.foldl_nil,
    String.reduceEq, String.reduceLT, reduceIte]

theorem reread_toJson {l : Load} (finite : l.IsFinite) :
    Json.reread l.toJson = l.reread.toJson := by
  rw [toJson_eq, toJson_eq, Json.reread_obj (Json.sortedNames_of_object l.toJson_eq)]
  simp only [List.map_cons, List.map_nil, Json.reread,
    Json.rereadFloat_eq_float (finite l.one (by simp)),
    Json.rereadFloat_eq_float (finite l.five (by simp)),
    Json.rereadFloat_eq_float (finite l.fifteen (by simp))]
  rfl

theorem depth_toJson (l : Load) : Json.depth l.toJson = 1 := by
  rw [toJson_eq]
  rfl

theorem inRange_toJson (l : Load) : Json.InRange l.toJson := by
  rw [toJson_eq]
  exact ⟨trivial, trivial, trivial, trivial⟩

theorem ofJson_toJson (l : Load) (source : Json.Source) :
    record.shape.ofJson source l.toJson = .ok l := by
  have gathers : Gathers record source {}
      [("fifteen", .float l.fifteen), ("five", .float l.five), ("one", .float l.one)]
      ⟨some l.one, some l.five, some l.fifteen⟩ :=
    .field rfl (ofJson_field (ofJson_float _ source))
      (.field rfl (ofJson_field (ofJson_float _ source))
        (.field rfl (ofJson_field (ofJson_float _ source)) (.done _)))
  rw [toJson_eq]
  exact Json.ofJson_record gathers rfl

end Load

/-! ## Snapshots -/

namespace Snapshot

/-- Every whole number fits the field that it is read into. -/
structure InFields (s : Snapshot) : Prop where
  timestamp : -(Int.pow 2 63) ≤ s.timestamp ∧ s.timestamp ≤ Int.pow 2 63 - 1
  counts : ∀ n ∈ [s.cpuCores, s.memoryUsed, s.memoryTotal, s.diskUsed, s.diskTotal, s.activeAlerts,
    s.criticalAlerts, s.cycle], n < Nat.pow 2 64
  updates : ∀ n ∈ [s.pendingUpdates, s.securityUpdates], n < Nat.pow 2 32

/-- Every number is read back from a text. -/
structure Fits (s : Snapshot) : Prop extends s.InFields where
  usages : ∀ x ∈ [s.cpuUsage, s.memoryUsage, s.diskUsage], IsFinite x
  load : s.load.IsFinite

/-- The snapshot with its doubles as they are read of their texts. -/
def reread (s : Snapshot) : Snapshot :=
  { s with
    cpuUsage := Json.rereadDouble s.cpuUsage
    load := s.load.reread
    memoryUsage := Json.rereadDouble s.memoryUsage
    diskUsage := Json.rereadDouble s.diskUsage }

/-- The members of a snapshot in the order of their names. -/
def sortedMembers (s : Snapshot) : List Json.Member :=
  [("active_alerts", .int s.activeAlerts), ("cpu_cores", .int s.cpuCores),
    ("cpu_usage_percent", .float s.cpuUsage), ("critical_alerts", .int s.criticalAlerts),
    ("cycle", .int s.cycle), ("disk_mount", .str s.diskMount),
    ("disk_total_bytes", .int s.diskTotal), ("disk_usage_percent", .float s.diskUsage),
    ("disk_used_bytes", .int s.diskUsed), ("load_average", s.load.toJson),
    ("memory_total_bytes", .int s.memoryTotal), ("memory_usage_percent", .float s.memoryUsage),
    ("memory_used_bytes", .int s.memoryUsed), ("pending_updates", .int s.pendingUpdates),
    ("security_updates", .int s.securityUpdates), ("timestamp", .int s.timestamp)]

theorem toJson_eq (s : Snapshot) : s.toJson = .obj s.sortedMembers := by
  simp only [toJson, sortedMembers, Json.object, putEntries, putEntry, List.foldl_cons,
    List.foldl_nil, String.reduceEq, String.reduceLT, reduceIte]

variable {s : Snapshot}

theorem reread_toJson (fits : s.Fits) : Json.reread s.toJson = s.reread.toJson := by
  rw [toJson_eq, toJson_eq, Json.reread_obj (Json.sortedNames_of_object s.toJson_eq)]
  simp only [sortedMembers, List.map_cons, List.map_nil, Json.reread, Load.reread_toJson fits.load,
    Json.rereadFloat_eq_float (fits.usages s.cpuUsage (by simp)),
    Json.rereadFloat_eq_float (fits.usages s.memoryUsage (by simp)),
    Json.rereadFloat_eq_float (fits.usages s.diskUsage (by simp))]
  rfl

/-- A response can carry it. -/
theorem canCarry_toJson (fits : s.InFields) : Rpc.Response.CanCarry s.toJson := by
  have within {n : Int} {bits : Nat} (small : bits ≤ 64) (h : 0 ≤ n ∧ n < Nat.pow 2 bits) :
      Json.InRange (.int n) := by
    have power : Nat.pow 2 bits ≤ Nat.pow 2 64 := Nat.pow_le_pow_right (by decide) small
    have limits : Json.minInt ≤ 0 ∧ ((Nat.pow 2 64 : Nat) : Int) - 1 = Json.maxInt := by decide
    exact ⟨by omega, by omega⟩
  have count (n : Nat) (h : n ∈ [s.cpuCores, s.memoryUsed, s.memoryTotal, s.diskUsed, s.diskTotal,
      s.activeAlerts, s.criticalAlerts, s.cycle]) : Json.InRange (.int n) :=
    within (Nat.le_refl 64) ⟨Int.natCast_nonneg n, Int.ofNat_lt.2 (fits.counts n h)⟩
  have update (n : Nat) (h : n ∈ [s.pendingUpdates, s.securityUpdates]) :
      Json.InRange (.int n) :=
    within (by decide) ⟨Int.natCast_nonneg n, Int.ofNat_lt.2 (fits.updates n h)⟩
  have timestamp : Json.InRange (.int s.timestamp) := by
    have limits : Json.minInt ≤ -(Int.pow 2 63) ∧ Int.pow 2 63 - 1 ≤ Json.maxInt := by decide
    exact ⟨limits.1.trans fits.timestamp.1, fits.timestamp.2.trans limits.2⟩
  rw [toJson_eq]
  refine ⟨Json.inRangeMembers_iff.2 ?_, Nat.succ_le_succ (Json.depthMembers_le_iff.2 ?_)⟩
  · simp only [sortedMembers, List.forall_mem_cons]
    exact ⟨count _ (by simp), count _ (by simp), trivial, count _ (by simp), count _ (by simp),
      trivial, count _ (by simp), trivial, count _ (by simp), s.load.inRange_toJson,
      count _ (by simp), trivial, count _ (by simp), update _ (by simp), update _ (by simp),
      timestamp, nofun⟩
  · simp [sortedMembers, Json.depth, Load.depth_toJson]

/-- A snapshot is read from the value that stands for it. -/
theorem ofJson_toJson (fits : s.InFields) : Snapshot.ofJson s.toJson = .ok s := by
  let src := Json.Source.document
  have count (n : Nat) (expected : String)
      (h : n ∈ [s.cpuCores, s.memoryUsed, s.memoryTotal, s.diskUsed, s.diskTotal, s.activeAlerts,
        s.criticalAlerts, s.cycle]) :
      (Json.Shape.natural expected 64).ofJson src (.int n) = .ok n :=
    ofJson_natural (fits.counts n h) expected src
  have update (n : Nat) (h : n ∈ [s.pendingUpdates, s.securityUpdates]) :
      (Json.Shape.natural "u32" 32).ofJson src (.int n) = .ok n :=
    ofJson_natural (fits.updates n h) "u32" src
  have gathers : Gathers record src {} s.sortedMembers
      { timestamp := some s.timestamp, cpuUsage := some s.cpuUsage, cpuCores := some s.cpuCores
        load := some s.load, memoryUsage := some s.memoryUsage, memoryUsed := some s.memoryUsed
        memoryTotal := some s.memoryTotal, diskUsage := some s.diskUsage
        diskUsed := some s.diskUsed, diskTotal := some s.diskTotal
        diskMount := some s.diskMount, pendingUpdates := some s.pendingUpdates
        securityUpdates := some s.securityUpdates, activeAlerts := some s.activeAlerts
        criticalAlerts := some s.criticalAlerts, cycle := some s.cycle } :=
    .field rfl (ofJson_field (count s.activeAlerts "u64" (by simp)))
    (.field rfl (ofJson_field (count s.cpuCores "usize" (by simp)))
    (.field rfl (ofJson_field (ofJson_float s.cpuUsage src))
    (.field rfl (ofJson_field (count s.criticalAlerts "u64" (by simp)))
    (.field rfl (ofJson_field (count s.cycle "u64" (by simp)))
    (.field rfl (ofJson_field (b := s.diskMount) rfl)
    (.field rfl (ofJson_field (count s.diskTotal "u64" (by simp)))
    (.field rfl (ofJson_field (ofJson_float s.diskUsage src))
    (.field rfl (ofJson_field (count s.diskUsed "u64" (by simp)))
    (.field rfl (ofJson_field (s.load.ofJson_toJson src))
    (.field rfl (ofJson_field (count s.memoryTotal "u64" (by simp)))
    (.field rfl (ofJson_field (ofJson_float s.memoryUsage src))
    (.field rfl (ofJson_field (count s.memoryUsed "u64" (by simp)))
    (.field rfl (ofJson_field (update s.pendingUpdates (by simp)))
    (.field rfl (ofJson_field (update s.securityUpdates (by simp)))
    (.field rfl (ofJson_field (Json.ofJson_integer fits.timestamp "i64" src))
    (.done _))))))))))))))))
  rw [toJson_eq]
  exact Json.ofJson_record gathers rfl

/-- **Snapshots.** A snapshot whose JSON has come through a text is read but for the last digits of
its doubles. -/
theorem ofJson_reread (fits : s.Fits) : Snapshot.ofJson (Json.reread s.toJson) = .ok s.reread := by
  rw [reread_toJson fits]
  exact ofJson_toJson ⟨fits.timestamp, fits.counts, fits.updates⟩

end Snapshot

end HostWatch
