import HostWatch.Store.Basic

/-!
# Fresh ids

A supply of ids for alerts that come without one. An id leaves the supply when an alert is stored
under it.
-/

namespace HostWatch

/-- Ids by number, of which the first `given` have been given out. -/
structure IdSupply where
  name : Nat → String
  given : Nat := 0

namespace IdSupply

/-- The next id. -/
def next (ids : IdSupply) : String := ids.name ids.given

/-- The supply without its next id. -/
def advance (ids : IdSupply) : IdSupply := { ids with given := ids.given + 1 }

end IdSupply

/-- Stores an alert, under the next id of the supply if it has none. -/
def Store.createFresh (s : Store) (ids : IdSupply) (a : Alert) :
    Except StoreError Alert × Store × IdSupply :=
  match s.create ids.next a with
  | (.ok stored, s) => (.ok stored, s, if a.id.isEmpty then ids.advance else ids)
  | (.error e, s) => (.error e, s, ids)

end HostWatch
