import HostWatch.Store.Row

/-!
# Queries

A filter is put to the table as clauses that must all hold. A clause may leave a place for a value,
and the values are bound to the places in their order.
-/

namespace HostWatch

/-- A clause of a query. -/
inductive Clause where
  /-- The column holds the value that is bound here. -/
  | holds (column : Row → String)
  | notDismissed

/-- The places for values in a clause: the columns that it compares with them. -/
def Clause.places : Clause → List (Row → String)
  | .holds column => [column]
  | .notDismissed => []

/-- The row meets the clauses with these values bound to their places. -/
def Clause.Meets (r : Row) : List Clause → List String → Prop
  | [], [] => True
  | .holds column :: clauses, v :: values => column r = v ∧ Meets r clauses values
  | .notDismissed :: clauses, values => ¬ r.HasStatus .dismissed ∧ Meets r clauses values
  | _, _ => False

/-- Clauses with a value for each of their places. -/
structure Query where
  clauses : List Clause
  values : List String
  bound : (clauses.flatMap Clause.places).length = values.length

namespace Query

/-- The query that every row meets. -/
def all : Query := ⟨[], [], rfl⟩

/-- A query with one more clause. -/
def and (q : Query) (c : Clause) (values : List String)
    (bound : c.places.length = values.length) : Query where
  clauses := q.clauses ++ [c]
  values := q.values ++ values
  bound := by
    rw [List.flatMap_append, List.length_append, List.length_append, q.bound,
      List.flatMap_singleton, bound]

/-- A query that also asks for the value of a column, if there is one to ask for. -/
def holding (q : Query) (column : Row → String) : Option String → Query
  | none => q
  | some v => q.and (.holds column) [v] rfl

/-- The row meets the query. -/
def Admits (q : Query) (r : Row) : Prop := Clause.Meets r q.clauses q.values

end Query

/-- What a filter asks of other columns than the status. -/
def Filter.columns (f : Filter) : Query :=
  ((Query.all.holding (·.severity) (f.severity.map (·.name))).holding (·.category)
    (f.category.map (·.name))).holding (·.source) f.source

/-- The query of a filter, its limit aside. -/
def Filter.query (f : Filter) : Query :=
  match f.status with
  | some s => f.columns.holding (·.status) (some s.name)
  | none => if f.includeDismissed then f.columns else f.columns.and .notDismissed [] rfl

end HostWatch
