import HostWatch.OsError
import HostWatch.Store.Counters

/-!
# The alert store

A table of alerts and the counters that go with it. Creating an alert always makes it active; from
there it is acknowledged, dismissed and in the end purged. Every operation is a function of the
store and, where it stamps a time or an id, of that time or id.
-/

namespace HostWatch

/-- Why a store refused something. -/
inductive StoreError where
  /-- The table is gone. -/
  | noTable
  /-- The id is taken. -/
  | duplicateId
  /-- The table holds as many rows as it can. -/
  | tableFull
  /-- The limit of a filter is greater than the table understands. -/
  | limitTooLarge
  | badRow (fault : BadColumn)
  /-- The file is no database. -/
  | notADatabase
  /-- The directory of the file cannot be made. -/
  | directory (path : String) (cause : OsError)

/-- The error in words. -/
def StoreError.message : StoreError → String
  | .noTable => "database error: no such table: alerts"
  | .duplicateId => "database error: UNIQUE constraint failed: alerts.id"
  | .tableFull => "database error: database or disk is full"
  | .limitTooLarge => "database error: datatype mismatch"
  | .badRow f => "database error: " ++ f.message
  | .notADatabase => "database error: file is not a database"
  | .directory path cause => "cannot create " ++ path ++ ": " ++ cause.message

/-- Alerts and their counters. -/
structure Store where
  /-- Where the alerts are kept. -/
  location : String
  /-- The rows in the order they were inserted; none when the table is gone. -/
  table : Option (List Row)
  counters : Counters

namespace Store

/-- Greatest number of rows that a table can hold. -/
def maxRows : Nat := Nat.pow 2 63 - 1

/-- Greatest limit that a table understands. -/
def maxLimit : Nat := Nat.pow 2 63 - 1

/-! ## Opening -/

/-- The location of a store without a file. -/
def memoryLocation : String := ":memory:"

/-- A store on the rows of a table; without a table it makes an empty one. -/
def onTable (location : String) (table : Option (List Row)) : Store :=
  let rows := table.getD []
  { location, table := some rows, counters := .ofRows rows }

/-- An empty store without a file. -/
def inMemory : Store := onTable memoryLocation none

/-- What stands at the path of a database file. -/
inductive Site where
  /-- A database, or nothing yet. -/
  | database (table : Option (List Row))
  /-- A file that is no database. -/
  | otherFile
  /-- The directory `parent` cannot be made. -/
  | unreachable (parent : String) (cause : OsError)

/-- Opens the store at a path. -/
def openAt (path : String) : Site → Except StoreError Store
  | .database table => .ok (onTable path table)
  | .otherFile => .error .notADatabase
  | .unreachable parent cause => .error (.directory parent cause)

/-- Opens the store at a path, or one in memory if that fails. -/
def openOrInMemory (path : String) (site : Site) : Store :=
  match openAt path site with
  | .ok s => s
  | .error _ => inMemory

/-- Closes the store and opens it again. -/
def reopen (s : Store) : Store := onTable s.location s.table

/-! ## Reading -/

/-- Totals by severity. -/
def counts (s : Store) : Counts := s.counters.counts

/-- Counts of open alerts. -/
def openCounts (s : Store) : OpenCounts := s.counters.openCounts

/-- The rows of the table. -/
def rows (s : Store) : List Row := s.table.getD []

/-- The alert of a row, as an answer of the store. -/
def alertOf (r : Row) : Except StoreError Alert := r.toAlert.mapError .badRow

/-- The alert with that id. -/
def get? (s : Store) (id : String) : Except StoreError (Option Alert) :=
  match s.table with
  | none => .error .noTable
  | some rows =>
    match rows.find? (·.id = id) with
    | none => .ok none
    | some r => (alertOf r).map some

/-- Newest first; of rows created in one second the one inserted later comes first. -/
def newestFirst (rows : List Row) : List Row :=
  rows.reverse.mergeSort fun a b => b.createdAt ≤ a.createdAt

/-- The rows that a filter selects, in order and within its limit. -/
def select (f : Filter) (rows : List Row) : List Row :=
  let selected := newestFirst (rows.filter fun r => decide (r.Selected f))
  match f.limit with
  | none => selected
  | some n => selected.take n

/-- The alerts that a filter asks for, newest first. -/
def list (s : Store) (f : Filter) : Except StoreError (List Alert) :=
  match s.table with
  | none => .error .noTable
  | some rows =>
    if ∃ n ∈ f.limit, maxLimit < n then .error .limitTooLarge
    else (select f rows).mapM alertOf

/-- Whether an open alert has that category, severity and source. -/
def hasOpen (s : Store) (category : Category) (severity : Severity) (source : String) : Bool :=
  s.rows.any fun r =>
    r.category = category.name ∧ r.severity = severity.name ∧ r.source = source ∧ r.NamesOpen

/-! ## Writing -/

/-- The alert as it is stored: active, and with an id. -/
def prepare (fresh : String) (a : Alert) : Alert :=
  { a with
    id := if a.id.isEmpty then fresh else a.id
    status := .active, acknowledgedAt := none, dismissedAt := none }

/-- Inserts a row. -/
def insertRow (rows : List Row) (r : Row) : Except StoreError (List Row) :=
  if rows.any (·.id = r.id) then .error .duplicateId
  else if maxRows ≤ rows.length then .error .tableFull
  else .ok (rows ++ [r])

/-- Stores an alert, under the id `fresh` if it has none. -/
def create (s : Store) (fresh : String) (a : Alert) : Except StoreError Alert × Store :=
  let a := prepare fresh a
  match s.table with
  | none => (.error .noTable, s)
  | some rows =>
    match insertRow rows (.ofAlert a) with
    | .error e => (.error e, s)
    | .ok rows =>
      (.ok a, { s with table := some rows, counters := s.counters.created a.severity })

/-- Changes the rows that a condition holds of. -/
def updateRows (p : Row → Bool) (f : Row → Row) (rows : List Row) : List Row :=
  rows.map fun r => if p r then f r else r

/-- A row acknowledged at a moment. -/
def acknowledgeRow (now : Int) (r : Row) : Row :=
  { r with status := Status.acknowledged.name, acknowledgedAt := some now }

/-- A row dismissed at a moment. -/
def dismissRow (now : Int) (r : Row) : Row :=
  { r with status := Status.dismissed.name, dismissedAt := some now }

/-- Acknowledges the active rows that a condition holds of, and says how many. -/
def acknowledgeWhere (s : Store) (now : Int) (p : Row → Bool) : Nat × Store :=
  match s.table with
  | none => (0, s)
  | some rows =>
    let chosen (r : Row) : Bool := p r && decide (r.HasStatus .active)
    let n := rows.countP chosen
    (n, { s with
      table := some (updateRows chosen (acknowledgeRow now) rows)
      counters := s.counters.acknowledged n })

/-- Acknowledges an active alert; false when there is none with that id. -/
def acknowledge (s : Store) (now : Int) (id : String) : Bool × Store :=
  let (n, s) := s.acknowledgeWhere now (·.id = id)
  (n = 1, s)

/-- Acknowledges every active alert, and says how many. -/
def acknowledgeAll (s : Store) (now : Int) : Nat × Store :=
  s.acknowledgeWhere now fun _ => true

/-- The status and the severity of a row, when it may still be dismissed. -/
def dismissible? (r : Row) : Option (Status × Severity) :=
  match Status.parse r.status, Severity.parse r.severity with
  | .ok status, .ok severity =>
    if status.CanMoveTo .dismissed then some (status, severity) else none
  | _, _ => none

/-- Dismisses an open alert; false when there is none with that id. -/
def dismiss (s : Store) (now : Int) (id : String) : Bool × Store :=
  match s.table with
  | none => (false, s)
  | some rows =>
    match (rows.find? (·.id = id)).bind dismissible? with
    | none => (false, s)
    | some (status, severity) =>
      (true, { s with
        table := some (updateRows (·.id = id) (dismissRow now) rows)
        counters := s.counters.dismissed status severity })

/-- Dismisses every open alert, and says how many. -/
def dismissAll (s : Store) (now : Int) : Nat × Store :=
  match s.table with
  | none => (0, s)
  | some rows =>
    let chosen (r : Row) : Bool := decide r.NamesOpen
    (rows.countP chosen, { s with
      table := some (updateRows chosen (dismissRow now) rows)
      counters := s.counters.allDismissed })

/-- Removes the alerts dismissed before a moment, and says how many. Nothing is removed when one of
them has an unknown severity. -/
def purgeDismissedBefore (s : Store) (cutoff : Int) : Nat × Store :=
  match s.table with
  | none => (0, s)
  | some rows =>
    let old := rows.filter fun r => decide (r.DismissedBefore cutoff)
    match old.mapM fun r => Severity.parse r.severity with
    | .error _ => (0, s)
    | .ok severities =>
      (severities.length, { s with
        table := some (rows.filter fun r => !decide (r.DismissedBefore cutoff))
        counters := severities.foldl Counters.purged s.counters })

end Store

end HostWatch
