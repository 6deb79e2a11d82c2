import HostWatch.Text.Blank
import HostWatch.Text.Caseless

/-!
# Log levels

How much the daemon logs. A handle moves the floor of the log that it belongs to; a handle of no
log changes nothing and says so.
-/

namespace HostWatch

/-- How important a log line is. -/
inductive LogLevel where
  | trace
  | debug
  | info
  | warn
  | error
  deriving Repr, DecidableEq, Inhabited

namespace LogLevel

/-- Every level, from least to most important. -/
def all : List LogLevel := [trace, debug, info, warn, error]

/-- The place of a level in the order of importance. -/
def rank : LogLevel → Nat
  | trace => 0
  | debug => 1
  | info => 2
  | warn => 3
  | error => 4

/-- The name of a level. -/
def name : LogLevel → String
  | trace => "trace"
  | debug => "debug"
  | info => "info"
  | warn => "warn"
  | error => "error"

/-- Reads a level whatever its case, with blanks around it. -/
def parse? (s : String) : Option LogLevel :=
  Text.lookupCaseless ((all.map fun l => (l.name, l)) ++ [("warning", warn)]) (Text.Str.trim s)

/-- A log with this floor keeps lines of that level. -/
def Lets (floor level : LogLevel) : Prop := floor.rank ≤ level.rank

instance (floor level : LogLevel) : Decidable (floor.Lets level) :=
  inferInstanceAs (Decidable (_ ≤ _))

end LogLevel

/-- The log that a handle belongs to: its floor, if there is a log at all. -/
structure LogHandle where
  floor : Option LogLevel
  deriving Repr, DecidableEq

namespace LogHandle

/-- A handle of no log. -/
def disabled : LogHandle := ⟨none⟩

/-- Moves the floor; false when there is no log. -/
def setLevel (h : LogHandle) (level : LogLevel) : Bool × LogHandle :=
  match h.floor with
  | none => (false, h)
  | some _ => (true, ⟨some level⟩)

end LogHandle

end HostWatch
