import HostWatch.Toml.Scalar
import HostWatch.Json.Shape

/-!
# Reading a TOML document

A document is a sequence of headers and entries, a line each, with comments and empty lines
between them.
-/

namespace HostWatch.Toml

/-- Greatest depth of lists and tables in a value, and length of a dotted name. -/
def maxNesting : Nat := 79

/-! ## Names -/

/-- A character of a name without quotes. -/
def isBareChar (c : Char) : Bool := c.isAlphanum || c = '-' || c = '_'

/-- One name, with or without quotes. -/
def simpleName : Reader String
  | '"' :: rest => (basicString ('"' :: rest) [] rest).map fun (s, rest) => (.ofList s, rest)
  | '\'' :: rest => (literalString rest).map fun (s, rest) => (.ofList s, rest)
  | cs =>
    let name := cs.takeWhile isBareChar
    if name.isEmpty then none else some (.ofList name, cs.drop name.length)

/-- Names with points between them. -/
def namesFrom : List Char → Reader (List String)
  | [], _ => none
  | _ :: bound, cs => do
    let (name, rest) ← simpleName (skipBlanks cs)
    match skipBlanks rest with
    | '.' :: rest =>
      let (names, rest) ← namesFrom bound rest
      return (name :: names, rest)
    | rest => return ([name], rest)

/-- A dotted name. -/
def names (cs : List Char) : Option (List String × List Char) :=
  match namesFrom (' ' :: cs) cs with
  | some (path, rest) => if path.length ≤ maxNesting then some (path, rest) else none
  | none => none

/-! ## Values -/

/-- Blanks, line ends and comments between the items of a list. -/
def skipLayout : List Char → List Char → List Char
  | [], cs => cs
  | _ :: bound, cs =>
    let cs := skipBlanks cs
    match lineEnd (skipComment cs) with
    | some rest => skipLayout bound rest
    | none => cs

/-- The items of a list whose bracket has been opened, up to its end. -/
def items (value : Reader Node) : List Char → Reader (List Node)
  | [], _ => none
  | _ :: bound, cs =>
    match skipLayout (' ' :: cs) cs with
    | ']' :: rest => some ([], rest)
    | cs => do
      let (node, rest) ← value cs
      match skipLayout (' ' :: rest) rest with
      | ',' :: rest =>
        let (nodes, rest) ← items value bound rest
        return (node :: nodes, rest)
      | ']' :: rest => return ([node], rest)
      | _ => none

/-- A name, the equals sign and a value. -/
def pair (value : Reader Node) (cs : List Char) : Option ((List String × Node) × List Char) := do
  let (path, rest) ← names cs
  let rest ← after ['='] rest
  let (node, rest) ← value (skipBlanks rest)
  return ((path, node), skipBlanks rest)

/-- The entries of an inline table whose brace has been opened, up to its end. -/
def pairs (value : Reader Node) : List Char → Reader (List (List String × Node))
  | [], _ => none
  | _ :: bound, cs => do
    let (entry, rest) ← pair value cs
    match rest with
    | ',' :: rest =>
      let (entries, rest) ← pairs value bound rest
      return (entry :: entries, rest)
    | '\x7d' :: rest => return ([entry], rest)
    | _ => none

/-- A table from the entries between two braces. -/
def inlineTable (entries : List (List String × Node)) : Option Node :=
  (entries.foldlM (fun table (path, node) => putValue path node table) []).map .inline

/-- A value, inside which `room` more lists and tables may be open at a time. -/
def value : Nat → Reader Node
  | room, cs =>
    match cs with
    | '[' :: rest =>
      match room with
      | 0 => none
      | room + 1 =>
        (items (value room) (' ' :: rest) rest).map fun (nodes, rest) => (.list nodes, rest)
    | '\x7b' :: rest =>
      match room with
      | 0 => none
      | room + 1 =>
        match skipBlanks rest with
        | '\x7d' :: rest => some (.inline [], rest)
        | _ => do
          let (entries, rest) ← pairs (value room) (' ' :: rest) rest
          return (← inlineTable entries, rest)
    | 't' :: 'r' :: 'u' :: 'e' :: rest => some (.bool true, rest)
    | 'f' :: 'a' :: 'l' :: 's' :: 'e' :: rest => some (.bool false, rest)
    | '"' :: _ | '\'' :: _ => (string cs).map fun (s, rest) => (.str s, rest)
    | _ => numeric cs

/-! ## Lines -/

/-- What may follow a statement on its line. -/
def lineRest (cs : List Char) : Option (List Char) :=
  match skipComment (skipBlanks cs) with
  | [] => some []
  | cs => lineEnd cs

/-- A header in so many brackets. -/
def header (opening closing : List Char) (cs : List Char) : Option (List String × List Char) := do
  let rest ← after opening cs
  let (path, rest) ← names rest
  let rest ← after closing rest
  return (path, ← lineRest rest)

/-- A statement and the rest of its line. -/
def statement (cs : List Char) : Option (Statement × List Char) :=
  match cs with
  | '[' :: '[' :: _ => (header ['[', '['] [']', ']'] cs).map fun (p, rest) => (.listHeader p, rest)
  | '[' :: _ => (header ['['] [']'] cs).map fun (p, rest) => (.header p, rest)
  | _ => do
    let ((path, node), rest) ← pair (value maxNesting) cs
    return (.entry path node, ← lineRest rest)

/-- The statements of a text. -/
def statements : List Char → List Char → Option (List Statement)
  | [], _ => none
  | _ :: bound, cs =>
    match skipBlanks cs with
    | [] => some []
    | cs@(c :: _) =>
      if c = '#' || c = '\n' || c = '\r' then do statements bound (← lineRest cs)
      else do
        let (s, rest) ← statement cs
        return s :: (← statements bound rest)

/-- A mark at the front that says how the text is encoded. -/
def afterMark : List Char → List Char
  | '\uFEFF' :: rest => rest
  | cs => cs

/-- The document that a text writes, as a JSON object; none if it is no TOML. -/
def read (text : String) : Option Json := do
  let cs := afterMark text.toList
  let entries ← ofStatements (← statements (' ' :: cs) cs)
  return .object (entriesToJson entries)

/-- Settings come from tables: a list may be longer than needed, and the word of a choice stands
beside an empty list or table. -/
def source : Json.Source :=
  ⟨true, fun
    | .arr [] | .obj [] => true
    | _ => false⟩

end HostWatch.Toml
