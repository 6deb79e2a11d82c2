import HostWatch.Store.Row

/-!
# The counters of the store

The store counts its alerts by severity, and its open alerts by status, without looking at the
table. Each operation moves the counters by what it did; counting the rows anew gives the same
numbers.
-/

namespace HostWatch

/-- Greatest value of a counter, where it stays instead of growing further. -/
def maxCount : Nat := Nat.pow 2 64 - 1

/-- Adds to a counter as far as it goes. -/
def countUp (n amount : Nat) : Nat := min (n + amount) maxCount

/-- The counters of a store. -/
structure Counters where
  counts : Counts := {}
  openCounts : OpenCounts := {}
  deriving Repr, DecidableEq

namespace Counts

/-- Changes the count of a severity, and the total with it. -/
def change (c : Counts) (f : Nat → Nat) (s : Severity) : Counts :=
  let c := { c with total := f c.total }
  match s with
  | .info => { c with info := f c.info }
  | .warning => { c with warning := f c.warning }
  | .error => { c with error := f c.error }
  | .critical => { c with critical := f c.critical }

end Counts

namespace Counters

/-- Counts a new alert. -/
def created (c : Counters) (s : Severity) : Counters :=
  { counts := c.counts.change (countUp · 1) s
    openCounts :=
      { c.openCounts with
        active := c.openCounts.active + 1
        critical := c.openCounts.critical + (if s = .critical then 1 else 0) } }

/-- Counts `n` active alerts as acknowledged. -/
def acknowledged (c : Counters) (n : Nat) : Counters :=
  { c with openCounts :=
    { c.openCounts with
      active := c.openCounts.active - n, acknowledged := c.openCounts.acknowledged + n } }

/-- Counts an open alert of that status and severity as dismissed. -/
def dismissed (c : Counters) (previous : Status) (s : Severity) : Counters :=
  let o := c.openCounts
  let o := match previous with
    | .active => { o with active := o.active - 1 }
    | .acknowledged => { o with acknowledged := o.acknowledged - 1 }
    | .dismissed => o
  { c with openCounts := { o with critical := o.critical - (if s = .critical then 1 else 0) } }

/-- Counts every open alert as dismissed. -/
def allDismissed (c : Counters) : Counters := { c with openCounts := {} }

/-- Counts an alert as gone. -/
def purged (c : Counters) (s : Severity) : Counters :=
  { c with counts := c.counts.change (· - 1) s }

/-- Counts a row of a table; a row of unknown severity does not count. -/
def addRow (c : Counters) (r : Row) : Counters :=
  match Severity.parse r.severity with
  | .error _ => c
  | .ok s =>
    let c := { c with counts := c.counts.change (countUp · 1) s }
    let critical := c.openCounts.critical + (if s = .critical then 1 else 0)
    match Status.parse r.status with
    | .ok .active =>
      { c with openCounts := { c.openCounts with active := c.openCounts.active + 1, critical } }
    | .ok .acknowledged =>
      { c with openCounts :=
        { c.openCounts with acknowledged := c.openCounts.acknowledged + 1, critical } }
    | _ => c

/-- The counters of the rows of a table. -/
def ofRows (rows : List Row) : Counters := rows.foldl addRow {}

end Counters

end HostWatch
