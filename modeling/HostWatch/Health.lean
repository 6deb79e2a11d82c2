import HostWatch.Json.Shape

/-!
# The health of a host

What one monitor cycle measured, with the counts of open alerts. Sizes are bytes and usage is in
percent.
-/

namespace HostWatch

/-- Load averages over one, five and fifteen minutes. -/
structure Load where
  one : Float := 0
  five : Float := 0
  fifteen : Float := 0
  deriving Inhabited

/-- What one cycle measured. -/
structure Snapshot where
  /-- Seconds since the epoch. -/
  timestamp : Int := 0
  cpuUsage : Float := 0
  cpuCores : Nat := 0
  load : Load := {}
  memoryUsage : Float := 0
  memoryUsed : Nat := 0
  memoryTotal : Nat := 0
  diskUsage : Float := 0
  diskUsed : Nat := 0
  diskTotal : Nat := 0
  diskMount : String := ""
  pendingUpdates : Nat := 0
  securityUpdates : Nat := 0
  activeAlerts : Nat := 0
  criticalAlerts : Nat := 0
  /-- The number of the cycle, counted from 1; 0 before the first. -/
  cycle : Nat := 0
  deriving Inhabited

/-- A cycle has been completed. -/
def Snapshot.IsPopulated (s : Snapshot) : Prop := 0 < s.cycle

instance : DecidablePred Snapshot.IsPopulated := fun s => inferInstanceAs (Decidable (0 < s.cycle))

/-- The double nearest to a number of 64 bits. -/
def floatOfNat (n : Nat) : Float := n.toUInt64.toFloat

/-- A part of a total in percent; nothing of an unknown total. -/
def percent (used total : Nat) : Float :=
  if total = 0 then 0 else floatOfNat used / floatOfNat total * 100

/-! ## Snapshots as JSON -/

/-- Load averages as JSON. -/
def Load.toJson (l : Load) : Json :=
  .object [("one", .float l.one), ("five", .float l.five), ("fifteen", .float l.fifteen)]

/-- A snapshot as JSON. -/
def Snapshot.toJson (s : Snapshot) : Json :=
  .object [("timestamp", .int s.timestamp), ("cpu_usage_percent", .float s.cpuUsage),
    ("cpu_cores", .int s.cpuCores), ("load_average", s.load.toJson),
    ("memory_usage_percent", .float s.memoryUsage), ("memory_used_bytes", .int s.memoryUsed),
    ("memory_total_bytes", .int s.memoryTotal), ("disk_usage_percent", .float s.diskUsage),
    ("disk_used_bytes", .int s.diskUsed), ("disk_total_bytes", .int s.diskTotal),
    ("disk_mount", .str s.diskMount), ("pending_updates", .int s.pendingUpdates),
    ("security_updates", .int s.securityUpdates), ("active_alerts", .int s.activeAlerts),
    ("critical_alerts", .int s.criticalAlerts), ("cycle", .int s.cycle)]

/-- Load averages as they are read. -/
structure Load.Draft where
  one : Option Float := none
  five : Option Float := none
  fifteen : Option Float := none

/-- The record of load averages. -/
def Load.record : Json.Record Load.Draft Load where
  name := "struct LoadAverage"
  fields :=
    [.of "one" false .float (·.one) fun v d => { d with one := some v },
      .of "five" false .float (·.five) fun v d => { d with five := some v },
      .of "fifteen" false .float (·.fifteen) fun v d => { d with fifteen := some v }]
  start := {}
  finish d := do
    let one ← Json.required "one" d.one
    let five ← Json.required "five" d.five
    let fifteen ← Json.required "fifteen" d.fifteen
    return ⟨one, five, fifteen⟩

namespace Snapshot

/-- The fields of a snapshot as they are read. -/
structure Draft where
  timestamp : Option Int := none
  cpuUsage : Option Float := none
  cpuCores : Option Nat := none
  load : Option Load := none
  memoryUsage : Option Float := none
  memoryUsed : Option Nat := none
  memoryTotal : Option Nat := none
  diskUsage : Option Float := none
  diskUsed : Option Nat := none
  diskTotal : Option Nat := none
  diskMount : Option String := none
  pendingUpdates : Option Nat := none
  securityUpdates : Option Nat := none
  activeAlerts : Option Nat := none
  criticalAlerts : Option Nat := none
  cycle : Option Nat := none

/-- A number of bytes or of things. -/
def count : Json.Shape Nat := .natural "u64" 64

/-- The record of a snapshot. -/
def record : Json.Record Draft Snapshot where
  name := "struct HealthSnapshot"
  fields :=
    [.of "timestamp" false (.integer "i64" (-(Int.pow 2 63)) (Int.pow 2 63 - 1)) (·.timestamp) fun v d =>
        { d with timestamp := some v },
      .of "cpu_usage_percent" false .float (·.cpuUsage) fun v d => { d with cpuUsage := some v },
      .of "cpu_cores" false (.natural "usize" 64) (·.cpuCores) fun v d =>
        { d with cpuCores := some v },
      .of "load_average" false Load.record.shape (·.load) fun v d => { d with load := some v },
      .of "memory_usage_percent" false .float (·.memoryUsage) fun v d =>
        { d with memoryUsage := some v },
      .of "memory_used_bytes" false count (·.memoryUsed) fun v d => { d with memoryUsed := some v },
      .of "memory_total_bytes" false count (·.memoryTotal) fun v d =>
        { d with memoryTotal := some v },
      .of "disk_usage_percent" false .float (·.diskUsage) fun v d => { d with diskUsage := some v },
      .of "disk_used_bytes" false count (·.diskUsed) fun v d => { d with diskUsed := some v },
      .of "disk_total_bytes" false count (·.diskTotal) fun v d => { d with diskTotal := some v },
      .of "disk_mount" false .string (·.diskMount) fun v d => { d with diskMount := some v },
      .of "pending_updates" false (.natural "u32" 32) (·.pendingUpdates) fun v d =>
        { d with pendingUpdates := some v },
      .of "security_updates" false (.natural "u32" 32) (·.securityUpdates) fun v d =>
        { d with securityUpdates := some v },
      .of "active_alerts" false count (·.activeAlerts) fun v d => { d with activeAlerts := some v },
      .of "critical_alerts" false count (·.criticalAlerts) fun v d =>
        { d with criticalAlerts := some v },
      .of "cycle" false count (·.cycle) fun v d => { d with cycle := some v }]
  start := {}
  finish d := do
    let timestamp ← Json.required "timestamp" d.timestamp
    let cpuUsage ← Json.required "cpu_usage_percent" d.cpuUsage
    let cpuCores ← Json.required "cpu_cores" d.cpuCores
    let load ← Json.required "load_average" d.load
    let memoryUsage ← Json.required "memory_usage_percent" d.memoryUsage
    let memoryUsed ← Json.required "memory_used_bytes" d.memoryUsed
    let memoryTotal ← Json.required "memory_total_bytes" d.memoryTotal
    let diskUsage ← Json.required "disk_usage_percent" d.diskUsage
    let diskUsed ← Json.required "disk_used_bytes" d.diskUsed
    let diskTotal ← Json.required "disk_total_bytes" d.diskTotal
    let diskMount ← Json.required "disk_mount" d.diskMount
    let pendingUpdates ← Json.required "pending_updates" d.pendingUpdates
    let securityUpdates ← Json.required "security_updates" d.securityUpdates
    let activeAlerts ← Json.required "active_alerts" d.activeAlerts
    let criticalAlerts ← Json.required "critical_alerts" d.criticalAlerts
    let cycle ← Json.required "cycle" d.cycle
    return {
      timestamp, cpuUsage, cpuCores, load, memoryUsage, memoryUsed, memoryTotal, diskUsage
      diskUsed, diskTotal, diskMount, pendingUpdates, securityUpdates, activeAlerts
      criticalAlerts, cycle }

/-- A snapshot from a JSON value. -/
def ofJson (j : Json) : Except Json.DataFault Snapshot := record.shape.ofJson .document j

end Snapshot

end HostWatch
