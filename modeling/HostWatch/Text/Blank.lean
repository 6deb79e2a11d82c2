/-!
# Blank characters, lines and words

Which characters count as blank, and the cuts that depend on it: trimming, splitting into lines
and splitting into words. Every cut works on the characters of a text, so that what it keeps can
be compared with what it was given.
-/

namespace HostWatch.Text

/-- The characters with the Unicode property `White_Space`. -/
def isBlank (c : Char) : Bool :=
  let n := c.toNat
  (0x09 ≤ n && n ≤ 0x0D) || n = 0x20 || n = 0x85 || n = 0xA0 || n = 0x1680
    || (0x2000 ≤ n && n ≤ 0x200A) || n = 0x2028 || n = 0x2029 || n = 0x202F || n = 0x205F
    || n = 0x3000

/-- No character but blanks. -/
def AllBlank (cs : List Char) : Prop := ∀ c ∈ cs, isBlank c = true

instance (cs : List Char) : Decidable (AllBlank cs) :=
  decidable_of_iff (cs.all isBlank = true) List.all_eq_true

/-- `cs` without the blanks at its start. -/
def trimStart (cs : List Char) : List Char := cs.dropWhile isBlank

/-- `cs` without the blanks at its end. -/
def trimEnd (cs : List Char) : List Char := (cs.reverse.dropWhile isBlank).reverse

/-- `cs` without the blanks at either end. -/
def trimmed (cs : List Char) : List Char := trimEnd (trimStart cs)

/-- The lines of a text: each ends at a line feed, which takes a carriage return directly before
it along; a last line without one counts too. -/
def lines : List Char → List (List Char)
  | [] => []
  | '\n' :: rest => [] :: lines rest
  | '\r' :: '\n' :: rest => [] :: lines rest
  | c :: rest =>
    match lines rest with
    | [] => [[c]]
    | line :: others => (c :: line) :: others

/-- The maximal runs of characters that `isGap` does not hold of. -/
def runs (isGap : Char → Bool) : List Char → List (List Char)
  | [] => []
  | [c] => if isGap c then [] else [[c]]
  | c :: d :: rest =>
    if isGap c then runs isGap (d :: rest)
    else if isGap d then [c] :: runs isGap (d :: rest)
    else
      match runs isGap (d :: rest) with
      | [] => [[c]]
      | run :: others => (c :: run) :: others

/-- The words of a text. -/
def words : List Char → List (List Char) := runs isBlank

/-- The pieces of a text between the characters that `isGap` holds of, empty ones included. -/
def pieces (isGap : Char → Bool) : List Char → List (List Char)
  | [] => [[]]
  | c :: rest =>
    if isGap c then [] :: pieces isGap rest
    else
      match pieces isGap rest with
      | [] => [[c]]
      | piece :: others => (c :: piece) :: others

/-- Whether `needle` stands somewhere in a text. -/
def occurs (needle : List Char) : List Char → Bool
  | [] => needle.isEmpty
  | c :: rest => needle.isPrefixOf (c :: rest) || occurs needle rest

end HostWatch.Text

/-! ## The same cuts on strings -/

namespace HostWatch.Text.Str

/-- `s` without the blanks at either end. -/
def trim (s : String) : String := .ofList (trimmed s.toList)

/-- No character but blanks, or none at all. -/
def isAllBlank (s : String) : Bool := s.toList.all isBlank

/-- The lines of `s`. -/
def lines (s : String) : List String := (Text.lines s.toList).map .ofList

/-- Whether `s` begins with `start`. -/
def startsWith (s start : String) : Bool := start.toList.isPrefixOf s.toList

end HostWatch.Text.Str
