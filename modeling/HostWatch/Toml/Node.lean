import HostWatch.Json.Value

/-!
# Tables of a TOML document

A document is a table whose entries are values, tables, or lists of tables. A table may come into
being before it is defined, by a header that reaches through it or by a dotted name; the flags of a
table say how, because a table may be defined only once.
-/

namespace HostWatch.Toml

/-- What stands under a name. -/
inductive Node where
  | str (value : String)
  | int (value : Int)
  | float (value : Float)
  | bool (value : Bool)
  /-- A date, a time, or both. -/
  | moment
  | list (items : List Node)
  /-- A table written as a value: nothing is added to it later. -/
  | inline (entries : List (String × Node))
  /-- A table; `implicit` until a header defines it, `dotted` if a dotted name made it. -/
  | table (implicit dotted : Bool) (entries : List (String × Node))
  /-- The tables of a doubly bracketed header, each a `table`. -/
  | tables (items : List Node)
  deriving Inhabited

/-- The entries of a table in the order they were added. -/
abbrev Entries := List (String × Node)

/-- Puts another node under a name that is there. -/
def replace (name : String) (node : Node) (entries : Entries) : Entries :=
  entries.map fun (n, old) => (n, if n = name then node else old)

/-- Changes the table that a path leads to. Tables on the way are made where they are missing; of a
list of tables the last one is entered. A dotted path enters only tables that no header defined. -/
def alter (dotted : Bool) (change : Bool → Entries → Option Entries) :
    List String → Bool → Entries → Option Entries
  | [], isDotted, entries => change isDotted entries
  | name :: path, _, entries =>
    match entries.lookup name with
    | none =>
      (alter dotted change path dotted []).map fun sub =>
        entries ++ [(name, .table true dotted sub)]
    | some (.table implicit isDotted sub) =>
      if dotted && !implicit then none
      else
        (alter dotted change path isDotted sub).map fun sub =>
          replace name (.table implicit isDotted sub) entries
    | some (.tables items) =>
      match items.getLast? with
      | some (.table implicit isDotted sub) =>
        (alter dotted change path isDotted sub).map fun sub =>
          replace name (.tables (items.dropLast ++ [.table implicit isDotted sub])) entries
      | _ => none
    | some _ => none

/-- The names before the last one, and the last one. -/
def splitLast : List String → Option (List String × String)
  | [] => none
  | path@(_ :: _) => path.getLast?.map fun name => (path.dropLast, name)

/-- Puts a value under a path of names, relative to a table that a header or a brace opened. -/
def putValue (path : List String) (value : Node) (entries : Entries) : Option Entries := do
  let (tables, name) ← splitLast path
  alter true (fun isDotted entries =>
    if isDotted == tables.isEmpty then none
    else if (entries.lookup name).isSome then none
    else some (entries ++ [(name, value)])) tables false entries

/-- Defines the table of a header. -/
def openTable (path : List String) (entries : Entries) : Option Entries := do
  let (tables, name) ← splitLast path
  alter false (fun _ entries =>
    match entries.lookup name with
    | none => some (entries ++ [(name, .table false false [])])
    | some (.table true false sub) => some (replace name (.table false false sub) entries)
    | some _ => none) tables false entries

/-- Adds a table to the list of a doubly bracketed header. -/
def openNextTable (path : List String) (entries : Entries) : Option Entries := do
  let (tables, name) ← splitLast path
  alter false (fun _ entries =>
    match entries.lookup name with
    | none => some (entries ++ [(name, .tables [.table false false []])])
    | some (.tables items) =>
      some (replace name (.tables (items ++ [.table false false []])) entries)
    | some _ => none) tables false entries

/-! ## Statements -/

/-- A line of a document that says something. -/
inductive Statement where
  | header (path : List String)
  | listHeader (path : List String)
  | entry (path : List String) (value : Node)

/-- A document so far, and the header that the next entries belong to. -/
structure Draft where
  root : Entries := []
  header : List String := []

/-- The document after one more statement. -/
def Draft.add (d : Draft) : Statement → Option Draft
  | .header path => (openTable path d.root).map fun root => ⟨root, path⟩
  | .listHeader path => (openNextTable path d.root).map fun root => ⟨root, path⟩
  | .entry path value =>
    (alter false (fun _ entries => putValue path value entries) d.header false d.root).map
      fun root => { d with root }

/-- The entries that statements make. -/
def ofStatements (statements : List Statement) : Option Entries :=
  (statements.foldlM Draft.add {}).map (·.root)

/-! ## Documents as data -/

/-- The name of the one member of a date: no setting has it. -/
def momentName : String := "$__toml_private_datetime"

mutual

/-- A node as a JSON value. -/
def Node.toJson : Node → Json
  | .str s => .str s
  | .int n => .int n
  | .float x => .float x
  | .bool b => .bool b
  | .moment => .obj [(momentName, .str "")]
  | .list items => .arr (nodesToJson items)
  | .inline entries => .object (entriesToJson entries)
  | .table _ _ entries => .object (entriesToJson entries)
  | .tables items => .arr (nodesToJson items)

/-- Nodes as JSON values. -/
def nodesToJson : List Node → List Json
  | [] => []
  | n :: rest => n.toJson :: nodesToJson rest

/-- Entries as JSON members. -/
def entriesToJson : List (String × Node) → List Json.Member
  | [] => []
  | (name, n) :: rest => (name, n.toJson) :: entriesToJson rest

end

end HostWatch.Toml
