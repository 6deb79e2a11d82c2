import HostWatch.Json.Value
import HostWatch.Decimal.Shortest

/-!
# Writing JSON

Compact text without blanks, and an indented layout for people. Inside a string only the quote,
the backslash and the control characters are escaped, so all other text stands as it is.
-/

namespace HostWatch.Json

/-- Numbers that are not whole keep their point and turn exponential from `1e16` up and below
`0.00001`. -/
def numberLayout : Decimal.Layout := ⟨some (-5, 16), true, true⟩

/-- The text of a number that is not whole; what is no number has none and is written `null`. -/
def floatText (x : Float) : String :=
  if x.isNaN || x.isInf then "null" else Decimal.shortestText numberLayout x

/-- One lowercase hexadecimal digit. -/
def hexDigit (n : Nat) : Char :=
  if n < 10 then Char.ofNat (48 + n) else Char.ofNat (87 + n)

/-- How a character stands inside a string. -/
def escapeChar (c : Char) : List Char :=
  if c = '"' then ['\\', '"']
  else if c = '\\' then ['\\', '\\']
  else if 0x20 ≤ c.toNat then [c]
  else if c = '\n' then ['\\', 'n']
  else if c = '\r' then ['\\', 'r']
  else if c = '\t' then ['\\', 't']
  else if c.toNat = 0x08 then ['\\', 'b']
  else if c.toNat = 0x0C then ['\\', 'f']
  else ['\\', 'u', '0', '0', hexDigit (c.toNat / 16), hexDigit (c.toNat % 16)]

/-- A string in quotes. -/
def quote (s : String) : String :=
  .ofList ('"' :: s.toList.flatMap escapeChar ++ ['"'])

mutual

/-- The compact text of a value. -/
def render : Json → String
  | .null => "null"
  | .bool b => if b then "true" else "false"
  | .int n => toString n
  | .float x => floatText x
  | .str s => quote s
  | .arr items => "[" ++ renderItems items ++ "]"
  | .obj members => "\x7b" ++ renderMembers members ++ "\x7d"

/-- Items with commas between them. -/
def renderItems : List Json → String
  | [] => ""
  | [j] => render j
  | j :: k :: rest => render j ++ "," ++ renderItems (k :: rest)

/-- Members with commas between them. -/
def renderMembers : List Member → String
  | [] => ""
  | [(name, j)] => quote name ++ ":" ++ render j
  | (name, j) :: m :: rest => quote name ++ ":" ++ render j ++ "," ++ renderMembers (m :: rest)

end

/-! ## Indented layout -/

/-- A line break and two blanks per level. -/
def newLine (level : Nat) : String := "\n" ++ "".pushn ' ' (2 * level)

mutual

/-- The text of a value with each item and member on a line of its own. -/
def renderIndented (level : Nat) : Json → String
  | .arr [] => "[]"
  | .obj [] => "\x7b\x7d"
  | .arr items => "[" ++ indentedItems (level + 1) items ++ newLine level ++ "]"
  | .obj members => "\x7b" ++ indentedMembers (level + 1) members ++ newLine level ++ "\x7d"
  | j => render j

/-- Items on lines of their own, with commas between them. -/
def indentedItems (level : Nat) : List Json → String
  | [] => ""
  | [j] => newLine level ++ renderIndented level j
  | j :: k :: rest =>
    newLine level ++ renderIndented level j ++ "," ++ indentedItems level (k :: rest)

/-- Members on lines of their own, with commas between them. -/
def indentedMembers (level : Nat) : List Member → String
  | [] => ""
  | [(name, j)] => newLine level ++ quote name ++ ": " ++ renderIndented level j
  | (name, j) :: m :: rest =>
    newLine level ++ quote name ++ ": " ++ renderIndented level j ++ ","
      ++ indentedMembers level (m :: rest)

end

end HostWatch.Json
