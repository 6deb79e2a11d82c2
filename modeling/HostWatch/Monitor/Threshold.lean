import HostWatch.Alert.Alert
import HostWatch.Decimal.Fixed
import HostWatch.Health

/-!
# Thresholds

Which parts of a snapshot are worth an alert. Each resource yields at most one finding, at the
highest level it reached; security updates and pending updates yield one each.
-/

namespace HostWatch

/-- When to raise alerts. Levels of resources are fractions of 1. -/
structure Limits where
  cpuWarning : Float := 0.80
  cpuCritical : Float := 0.95
  memoryWarning : Float := 0.85
  memoryCritical : Float := 0.95
  diskWarning : Float := 0.80
  diskCritical : Float := 0.90
  pendingUpdates : Nat := 50
  deriving Inhabited

namespace Limits

/-- How limits are read. -/
def shape : Json.Shape Limits :=
  (Json.Record.ofSettings "struct ThresholdConfig" {} [
    .of "cpu_warning" .float fun x l => { l with cpuWarning := x },
    .of "cpu_critical" .float fun x l => { l with cpuCritical := x },
    .of "memory_warning" .float fun x l => { l with memoryWarning := x },
    .of "memory_critical" .float fun x l => { l with memoryCritical := x },
    .of "disk_warning" .float fun x l => { l with diskWarning := x },
    .of "disk_critical" .float fun x l => { l with diskCritical := x },
    .of "pending_updates_warning" (.natural "u32" 32) fun n l =>
      { l with pendingUpdates := n }]).shape

/-- The members of limits, in the order they are written. -/
def members (l : Limits) : List Json.Member :=
  [("cpu_warning", .float l.cpuWarning), ("cpu_critical", .float l.cpuCritical),
    ("memory_warning", .float l.memoryWarning), ("memory_critical", .float l.memoryCritical),
    ("disk_warning", .float l.diskWarning), ("disk_critical", .float l.diskCritical),
    ("pending_updates_warning", .int l.pendingUpdates)]

end Limits

/-- A threshold that was reached. -/
structure Finding where
  severity : Severity
  category : Category
  message : String
  description : String
  metadata : List (String × String)
  /-- The question for an inference backend. -/
  prompt : String
  deriving Repr, DecidableEq

namespace Finding

/-- The source of every alert that the monitor raises. -/
def source : String := "system_monitor"

/-- The alert that a finding stands for. -/
def toAlert (now : Int) (f : Finding) : Alert :=
  { Alert.new now f.severity f.category source f.message with
    description := f.description, metadata := .ofList f.metadata }

end Finding

/-- The highest level that a usage in percent reached. -/
def level (usage warning critical : Float) : Option Severity :=
  let fraction := usage / 100
  if critical ≤ fraction then some .critical
  else if warning ≤ fraction then some .warning
  else none

/-- The finding about a resource, if it reached a level. -/
def resourceFinding (category : Category) (label : String) (usage warning critical : Float)
    (detail : String) : Option Finding :=
  (level usage warning critical).map fun severity =>
    let threshold := if severity = .critical then critical else warning
    let used := Decimal.fixedText 1 usage
    { severity, category
      message := label ++ " usage " ++ severity.name ++ ": " ++ used ++ "%"
      description := label ++ " usage is " ++ used ++ "%, at or above the " ++ severity.name
        ++ " threshold of " ++ Decimal.fixedText 0 (threshold * 100) ++ "%. " ++ detail
      metadata := [("usage_percent", used), ("threshold", Decimal.fixedText 2 threshold)]
      prompt := label ++ " usage on this Linux server is " ++ used ++ "% (" ++ detail
        ++ "). In 2-3 sentences, name the most likely causes and the commands to investigate them." }

/-- Bytes in a mebibyte. -/
def mebibyte : Nat := 1024 * 1024

/-- Bytes in a gibibyte. -/
def gibibyte : Nat := 1024 * mebibyte

/-- The finding about the processor. -/
def cpuFinding (s : Snapshot) (limits : Limits) : Option Finding :=
  let average := Decimal.fixedText 2
  resourceFinding .cpu "CPU" s.cpuUsage limits.cpuWarning limits.cpuCritical
    (toString s.cpuCores ++ " cores, load average " ++ average s.load.one ++ " "
      ++ average s.load.five ++ " " ++ average s.load.fifteen)

/-- The finding about memory. -/
def memoryFinding (s : Snapshot) (limits : Limits) : Option Finding :=
  resourceFinding .memory "Memory" s.memoryUsage limits.memoryWarning limits.memoryCritical
    (toString (s.memoryUsed / mebibyte) ++ " MiB used of " ++ toString (s.memoryTotal / mebibyte)
      ++ " MiB")

/-- The finding about the disk. -/
def diskFinding (s : Snapshot) (limits : Limits) : Option Finding :=
  resourceFinding .disk "Disk" s.diskUsage limits.diskWarning limits.diskCritical
    (toString (s.diskUsed / gibibyte) ++ " GiB used of " ++ toString (s.diskTotal / gibibyte)
      ++ " GiB on " ++ s.diskMount)

/-- The finding about security updates: any at all. -/
def securityFinding (s : Snapshot) : Option Finding :=
  if s.securityUpdates = 0 then none
  else
    let n := toString s.securityUpdates
    some {
      severity := .warning, category := .vulnerability
      message := n ++ " security updates available"
      description := "Security updates are waiting to be installed."
      metadata := [("security_updates", n)]
      prompt := "A Linux server has " ++ n ++ " pending security updates. In 2-3 sentences, "
        ++ "explain the risk of delaying them and how to apply them safely." }

/-- The finding about pending updates: as many as the limit, and at least one. -/
def updatesFinding (s : Snapshot) (limits : Limits) : Option Finding :=
  if s.pendingUpdates = 0 ∨ s.pendingUpdates < limits.pendingUpdates then none
  else
    let n := toString s.pendingUpdates
    some {
      severity := .info, category := .packages
      message := n ++ " package updates available"
      description := n ++ " packages can be upgraded (" ++ toString s.securityUpdates
        ++ " security)."
      metadata := [("pending_updates", n)]
      prompt := "A Linux server has " ++ n ++ " pending package updates. In 2-3 sentences, "
        ++ "suggest how to review and apply them." }

/-- What a snapshot gives reason to report. -/
def evaluate (s : Snapshot) (limits : Limits) : List Finding :=
  (cpuFinding s limits).toList ++ (memoryFinding s limits).toList
    ++ (diskFinding s limits).toList ++ (securityFinding s).toList
    ++ (updatesFinding s limits).toList

end HostWatch
