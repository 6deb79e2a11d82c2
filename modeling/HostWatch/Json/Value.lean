import HostWatch.NameMap

/-!
# JSON values

A value, with the members of an object kept in the order of their names, each name once. Whole
numbers and other numbers are told apart: `1` and `1.0` are different values.
-/

namespace HostWatch

/-- A JSON value. -/
inductive Json where
  | null
  | bool (value : Bool)
  /-- A number written without fraction and exponent, between `-2^63` and `2^64 - 1`. -/
  | int (value : Int)
  /-- Any other number. -/
  | float (value : Float)
  | str (value : String)
  | arr (items : List Json)
  | obj (members : List (String × Json))
  deriving Inhabited

namespace Json

/-- A name with its value. -/
abbrev Member := String × Json

/-- Least and greatest whole numbers that are kept exactly. -/
def minInt : Int := -(Int.pow 2 63)

/-- Greatest whole number that is kept exactly. -/
def maxInt : Int := Int.pow 2 64 - 1

/-! ## Members of an object -/

/-- An object from members in any order; of members with one name the last counts. -/
def object (members : List Member) : Json := .obj (putEntries members)

/-- The member of that name, if the value is an object that has it. -/
def get? (j : Json) (name : String) : Option Json :=
  match j with
  | .obj members => members.lookup name
  | _ => none

/-- The item at that place, if the value is an array that long. -/
def item? (j : Json) (index : Nat) : Option Json :=
  match j with
  | .arr items => items[index]?
  | _ => none

/-- The text of a string value. -/
def str? : Json → Option String
  | .str s => some s
  | _ => none

/-- The value of a boolean. -/
def bool? : Json → Option Bool
  | .bool b => some b
  | _ => none

/-- A whole number that is not negative. -/
def nat? : Json → Option Nat
  | .int n => if 0 ≤ n then some n.toNat else none
  | _ => none

/-- Whether the value is `null`. -/
def isNull : Json → Bool
  | .null => true
  | _ => false

/-- `null` for an absent value. -/
def ofOption (f : α → Json) : Option α → Json
  | none => .null
  | some a => f a

/-! ## Equality -/

mutual

/-- Equality of values; numbers that are not whole are compared as numbers. -/
def beq : Json → Json → Bool
  | .null, .null => true
  | .bool a, .bool b => a == b
  | .int a, .int b => a == b
  | .float a, .float b => a == b
  | .str a, .str b => a == b
  | .arr as, .arr bs => beqItems as bs
  | .obj as, .obj bs => beqMembers as bs
  | _, _ => false

/-- Equality item by item. -/
def beqItems : List Json → List Json → Bool
  | [], [] => true
  | a :: as, b :: bs => beq a b && beqItems as bs
  | _, _ => false

/-- Equality member by member. -/
def beqMembers : List Member → List Member → Bool
  | [], [] => true
  | (n, a) :: as, (m, b) :: bs => n == m && beq a b && beqMembers as bs
  | _, _ => false

end

instance : BEq Json := ⟨beq⟩

/-! ## Nesting and plain values -/

mutual

/-- How many containers enclose the most deeply nested value, its own container counted. -/
def depth : Json → Nat
  | .arr items => depthItems items + 1
  | .obj members => depthMembers members + 1
  | _ => 0

/-- The greatest depth of the items. -/
def depthItems : List Json → Nat
  | [] => 0
  | j :: rest => max (depth j) (depthItems rest)

/-- The greatest depth of the members. -/
def depthMembers : List Member → Nat
  | [] => 0
  | (_, j) :: rest => max (depth j) (depthMembers rest)

end

mutual

/-- Objects have their names in order, and every number is whole and in range: the values that
reading gives back from their text. -/
def Plain : Json → Prop
  | .int n => minInt ≤ n ∧ n ≤ maxInt
  | .float _ => False
  | .arr items => PlainItems items
  | .obj members => SortedNames members ∧ PlainMembers members
  | _ => True

/-- Every item is plain. -/
def PlainItems : List Json → Prop
  | [] => True
  | j :: rest => Plain j ∧ PlainItems rest

/-- Every member is plain. -/
def PlainMembers : List Member → Prop
  | [] => True
  | (_, j) :: rest => Plain j ∧ PlainMembers rest

end

end Json

end HostWatch
