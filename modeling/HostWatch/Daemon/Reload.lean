import HostWatch.Daemon.Basic

/-!
# Reloading the settings

A reload looks at the settings in force, reads the file, puts what it read in force, and then tells
the limiter and, if the level has changed, the log. The steps are separate: other reloads may take
theirs in between, and the file may change.
-/

namespace HostWatch

/-- How far a reload has come. -/
inductive Reload where
  | begun
  /-- It has seen the log level in force. -/
  | seen (level : String)
  /-- It has read the file. -/
  | read (level : String) (fresh : Settings)
  /-- The new settings are in force. -/
  | published (level : String) (fresh : Settings)
  /-- The limiter knows its limit. -/
  | limited (level : String) (fresh : Settings)
  | ended (result : Except SettingsError Settings)

namespace Reload

/-- The next step of a reload, with the content of the file at that moment. -/
def step (content : FileContent) (desk : DaemonDesk) : Reload → Reload × DaemonDesk
  | begun => (seen desk.state.settings.current.log.level, desk)
  | seen level =>
    match desk.state.settings.fresh content with
    | .error e => (ended (.error e), desk)
    | .ok s => (read level s, desk)
  | read level s =>
    (published level s, { desk with state.settings.current := s })
  | published level s =>
    (limited level s, { desk with limiter := desk.limiter.setLimit s.server.requestsPerSecond })
  | limited level s =>
    (ended (.ok s),
      if s.log.level = level then desk
      else { desk with state.log := (desk.state.log.setLevel s.logLevel).2 })
  | ended result => (ended result, desk)

/-- Steps that bring a reload to its end. -/
def stepCount : Nat := 5

/-- Steps of one reload while the file stays as it is. -/
def steps (content : FileContent) : Nat → Reload → DaemonDesk → Reload × DaemonDesk
  | 0, r, desk => (r, desk)
  | n + 1, r, desk =>
    let (r, desk) := r.step content desk
    steps content n r desk

end Reload

/-- Reloads the settings without interruption. -/
def reloadSettings (content : FileContent) (desk : DaemonDesk) :
    Except SettingsError Settings × DaemonDesk :=
  match Reload.steps content Reload.stepCount .begun desk with
  | (.ended result, desk) => (result, desk)
  | (_, desk) => (.ok desk.state.settings.current, desk)

/-- Reloads the settings again and again, each time from what the file then holds. -/
def reloadAll (contents : List FileContent) (desk : DaemonDesk) : DaemonDesk :=
  contents.foldl (fun desk content => (reloadSettings content desk).2) desk

/-! ## Reloads side by side -/

/-- Reloads under way, the file that they read, and what they work on. -/
structure Reloads where
  desk : DaemonDesk
  content : FileContent
  calls : List Reload

namespace Reloads

/-- What may happen next. -/
inductive Event where
  /-- The file gets other content. -/
  | overwrite (content : FileContent)
  /-- A reload takes its next step. -/
  | advance (call : Nat)

/-- One event. -/
def step (s : Reloads) : Event → Reloads
  | .overwrite content => { s with content }
  | .advance i =>
    match s.calls[i]? with
    | none => s
    | some r =>
      let (r, desk) := r.step s.content s.desk
      { s with desk, calls := s.calls.set i r }

/-- Events one after another. -/
def run (s : Reloads) (events : List Event) : Reloads := events.foldl step s

/-- The reload that takes a step with an event, if it is due for something there. -/
def doer? (due : Reload → Bool) (s : Reloads) : Event → Option Nat
  | .overwrite _ => none
  | .advance i => if (s.calls[i]?).any due then some i else none

/-- The reloads that do what they are due for, in the order in which they do it. -/
def doers (due : Reload → Bool) (s : Reloads) : List Event → List Nat
  | [] => []
  | e :: events => (s.doer? due e).toList ++ (s.step e).doers due events

end Reloads

/-! ## What each reload does once -/

namespace Reload

/-- It has ended without an error. -/
def Succeeded : Reload → Prop
  | ended (.ok _) => True
  | _ => False

instance : DecidablePred Succeeded := fun r =>
  match r with
  | ended (.ok _) => isTrue trivial
  | ended (.error _) | begun | seen _ | read .. | published .. | limited .. => isFalse id

/-- Something that a reload does with the settings that it has read. -/
structure Deed where
  /-- The next step of the reload does it. -/
  due : Reload → Bool
  /-- The settings that the reload has done it with. -/
  done? : Reload → Option Settings
  /-- What the desk shows when these settings were the last that it was done with. -/
  Shown : DaemonDesk → Settings → Prop

/-- Settings are put in force. -/
def publishing : Deed where
  due | read .. => true | _ => false
  done? | published _ s | limited _ s | ended (.ok s) => some s | _ => none
  Shown desk s := desk.state.settings.current = s

/-- The limiter is told its limit. -/
def limiting : Deed where
  due | published .. => true | _ => false
  done? | limited _ s | ended (.ok s) => some s | _ => none
  Shown desk s := desk.limiter.limit = s.server.requestsPerSecond

end Reload

end HostWatch
