import HostWatch.Daemon.Params
import HostWatch.Console.Call
import HostWatch.Console.Report

/-!
# Commands of the console

What a user can ask for, the request that asks the daemon for it, and how the result is shown.
-/

namespace HostWatch.Console

open Rpc (Request)

/-- What a user asks for. -/
inductive Command where
  | ping
  | version
  | health
  | check
  | alerts (filter : Filter)
  | acknowledge (target : Target)
  | dismiss (target : Target)
  | counts
  | showSettings
  | reloadSettings
  | shutdown
  deriving Repr, DecidableEq

/-! ## Requests -/

/-- The parameters for a filter: only what it sets. -/
def filterParams (f : Filter) : Json :=
  .object (Filter.fieldMember "severity" (fun s => .str s.name) f.severity
    ++ Filter.fieldMember "category" (fun c => .str c.name) f.category
    ++ Filter.fieldMember "status" (fun s => .str s.name) f.status
    ++ Filter.fieldMember "source" .str f.source
    ++ (if f.includeDismissed then [("include_dismissed", .bool true)] else [])
    ++ Filter.fieldMember "limit" (fun n => .int n) f.limit)

/-- The parameters for the alerts that a change is about. -/
def targetParams : Target → Json
  | .all => .object [("all", .bool true)]
  | .one id => .object [("id", .str id)]

namespace Command

/-- The request of a command. -/
def request : Command → Request
  | ping => .ofMethod "ping"
  | version => .ofMethod "version"
  | health => .ofMethod "health"
  | check => .ofMethod "health.check"
  | alerts f => (Request.ofMethod "alerts").withParams (filterParams f)
  | acknowledge t => (Request.ofMethod "alerts.acknowledge").withParams (targetParams t)
  | dismiss t => (Request.ofMethod "alerts.dismiss").withParams (targetParams t)
  | counts => .ofMethod "alerts.counts"
  | showSettings => .ofMethod "config.get"
  | reloadSettings => .ofMethod "config.reload"
  | shutdown => .ofMethod "shutdown"

end Command

/-! ## Results -/

/-- What a command prints, and whether it failed. -/
structure Printed where
  out : String := ""
  err : String := ""
  failed : Bool := false
  deriving Repr, DecidableEq

namespace Printed

/-- A report that all is well. -/
def good (message : String) : Printed :=
  { out := asLine (Style.brightGreen.paint "[OK]" ++ " " ++ message) }

/-- A report that something is wrong. -/
def bad (message : String) : Printed :=
  { err := asLine (Style.brightRed.paint "[ERROR]" ++ " " ++ message) }

/-- A failure. -/
def failure (message : String) : Printed := { bad message with failed := true }

/-- A text as it is. -/
def text (t : String) : Printed := { out := t }

/-- A value as indented JSON. -/
def json (j : Json) : Printed := { out := asLine (j.renderIndented 0) }

end Printed

/-- The version of the console. -/
def consoleVersion : String := "0.4.0"

/-- Both versions. -/
def versionReport (result : Json) : String :=
  "cortexctl " ++ consoleVersion ++ "\ncortexd   "
    ++ ((result.get? "version").bind Json.str?).getD "unknown" ++ "\n"

/-- What became of the alerts that a change was about. -/
def changeReport (done : String) (result : Json) : Printed :=
  let id? := (result.get? "id").bind Json.str?
  match result.get? done, id? with
  | some (.bool true), some id => .good ("Alert " ++ id ++ " " ++ done)
  | some (.bool false), some id => .bad ("Alert " ++ id ++ " not found or already " ++ done)
  | some (.int n), _ => .good (Json.render (.int n) ++ " alerts " ++ done)
  | some (.float x), _ => .good (Json.render (.float x) ++ " alerts " ++ done)
  | _, _ => .json result

/-- The alerts in a result. -/
def alertsOf (result : Json) : Except Json.DataFault (List Alert) :=
  (Json.Shape.list Alert.record.shape).ofJson .document ((result.get? "alerts").getD .null)

namespace Command

/-- How the result of a command is shown. -/
def present (c : Command) (result : Json) : Printed :=
  let healthWith (heading : String) : Printed :=
    match Snapshot.ofJson result with
    | .error d => .failure ("unexpected health payload: " ++ d.message)
    | .ok s => .text (heading ++ healthReport s)
  match c with
  | ping => .good "cortexd is running"
  | version => .text (versionReport result)
  | health => healthWith ""
  | check => healthWith (Printed.good "Check queued; showing the latest snapshot").out
  | alerts _ =>
    match alertsOf result with
    | .error d => .failure ("unexpected alerts payload: " ++ d.message)
    | .ok found => .text (alertsReport found)
  | acknowledge _ => changeReport "acknowledged" result
  | dismiss _ => changeReport "dismissed" result
  | counts => .text (countsReport result)
  | showSettings => .json result
  | reloadSettings => .good "Configuration reloaded"
  | shutdown => .good "Shutdown initiated"

/-- Runs a command against the socket at a path. With `raw`, the result is shown as it is. -/
def run (path : String) (user : Option String) (exchange : String → Exchange) (raw : Bool)
    (c : Command) : Printed :=
  match call path user exchange c.request.method c.request.params with
  | .error e => .failure e.fullMessage
  | .ok result => if raw then .json result else c.present result

end Command

end HostWatch.Console
