import HostWatch.Alert.Filter
import HostWatch.Calendar
import HostWatch.Console.Style
import HostWatch.Decimal.Fixed
import HostWatch.Health
import HostWatch.Text.Blank

/-!
# Reports for people

How the console shows the health of a host, alerts, and counts of alerts.
-/

namespace HostWatch.Console

/-- The width of the names in a report. -/
def nameWidth : Nat := 16

/-- A line with a name and a value. -/
def entryLine (name value : String) : String :=
  "  " ++ name ++ "".pushn ' ' (nameWidth - name.length) ++ " " ++ value ++ "\n"

/-- A text on a line of its own. -/
def asLine (text : String) : String := text ++ "\n"

/-! ## Health -/

/-- The colour of a usage in percent. -/
def usageStyle (usage : Float) : Style :=
  if 90 ≤ usage then .brightRed else if 75 ≤ usage then .yellow else .green

/-- A usage in percent. -/
def usageText (usage : Float) : String :=
  (usageStyle usage).paint (Decimal.fixedText 1 usage ++ "%")

/-- Bytes in gibibytes. -/
def sizeText (bytes : Nat) : String :=
  Decimal.fixedText 1 (floatOfNat bytes / (1024 * 1024 * 1024)) ++ " GiB"

/-- Load averages. -/
def loadText (l : Load) : String :=
  Decimal.fixedText 2 l.one ++ " " ++ Decimal.fixedText 2 l.five ++ " "
    ++ Decimal.fixedText 2 l.fifteen

/-- The counts of open alerts. -/
def openText (s : Snapshot) : String :=
  toString s.activeAlerts ++ " open"
    ++ (if 0 < s.criticalAlerts then
      ", " ++ Style.brightRed.paint (toString s.criticalAlerts) ++ " critical"
    else "")

/-- A moment, or a dash if it has no date. -/
def momentOrDash (seconds : Int) : String := if IsTime seconds then momentText seconds else "-"

/-- The health of a host. -/
def healthReport (s : Snapshot) : String :=
  asLine (Style.bold.paint "System health")
    ++ (if s.IsPopulated then
      entryLine "cpu" (usageText s.cpuUsage ++ " of " ++ toString s.cpuCores ++ " cores")
        ++ entryLine "load" (loadText s.load)
        ++ entryLine "memory" (usageText s.memoryUsage ++ " (" ++ sizeText s.memoryUsed ++ " / "
          ++ sizeText s.memoryTotal ++ ")")
        ++ entryLine "disk" (usageText s.diskUsage ++ " (" ++ sizeText s.diskUsed ++ " / "
          ++ sizeText s.diskTotal ++ " on " ++ s.diskMount ++ ")")
        ++ entryLine "updates" (toString s.pendingUpdates ++ " pending, "
          ++ toString s.securityUpdates ++ " security")
        ++ entryLine "alerts" (openText s)
        ++ entryLine "sampled" (momentOrDash s.timestamp ++ " (cycle " ++ toString s.cycle ++ ")")
    else asLine ("  " ++ Style.dimmed.paint "No sample yet, first check still running"))

/-! ## Alerts -/

/-- How the tag of a severity is painted. -/
def tagStyles : Severity → List Style
  | .critical => [.brightRed, .bold]
  | .error => [.red]
  | .warning => [.yellow]
  | .info => [.cyan]

/-- The tag of a severity. -/
def severityTag (s : Severity) : String :=
  (tagStyles s).foldl (fun text style => style.paint text) ("[" ++ s.name.map Char.toUpper ++ "]")

/-- The status of an alert that is not active any more. -/
def statusText : Status → String
  | .active => ""
  | status => Style.dimmed.paint (" (" ++ status.name ++ ")")

/-- A line that belongs to the alert above it. -/
def detailLine (text : String) : String := asLine ("    " ++ text)

/-- An alert. -/
def alertReport (a : Alert) : String :=
  asLine (severityTag a.severity ++ " " ++ a.message
      ++ Style.magenta.paint (if a.isEnhanced then " [AI]" else "") ++ statusText a.status)
    ++ detailLine (Style.dimmed.paint "id" ++ " " ++ a.id ++ " | " ++ a.category.name ++ " | "
      ++ momentText a.createdAt)
    ++ (match a.parent? with
      | none => ""
      | some parent => detailLine (Style.dimmed.paint "analysis of" ++ " " ++ parent))
    ++ String.join (((Text.Str.lines a.description).filter fun line =>
      !Text.Str.isAllBlank line).map detailLine)

/-- Alerts, with their number. -/
def alertsReport : List Alert → String
  | [] => asLine (Style.green.paint "No alerts")
  | alerts =>
    String.join (alerts.map alertReport)
      ++ asLine (Style.dimmed.paint (toString alerts.length ++ " alerts"))

/-! ## Counts -/

/-- What is counted, in the order of the report. -/
def countNames : List String :=
  Severity.all.reverse.map Severity.name ++ ["total", "active", "acknowledged"]

/-- Counts of alerts; what is no count is shown as zero. -/
def countsReport (counts : Json) : String :=
  String.join (countNames.map fun name =>
    entryLine name (toString (((counts.get? name).bind Json.nat?).getD 0)))

end HostWatch.Console
