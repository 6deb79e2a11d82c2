import HostWatch.Json.Fault

/-!
# Walking over the bytes of a text

A cursor is the bytes still ahead and the place of the first of them. Faults are reported either
at the cursor or one byte further, where the byte at fault has been looked at but not taken.
-/

namespace HostWatch.Json

/-- The place after a byte that stands at this place. -/
def Place.after (p : Place) (b : UInt8) : Place :=
  if b = 10 then ⟨p.line + 1, 0⟩ else ⟨p.line, p.column + 1⟩

/-- The place `n` bytes earlier on the same line. -/
def Place.back (p : Place) (n : Nat) : Place := { p with column := p.column - n }

/-- The bytes still ahead, and where they begin. -/
structure Cursor where
  rest : List UInt8
  place : Place

/-- The beginning of a text. -/
def Cursor.start (bytes : List UInt8) : Cursor := ⟨bytes, ⟨1, 0⟩⟩

/-- The cursor one byte further; at the end it stays. -/
def Cursor.advance (c : Cursor) : Cursor :=
  match c.rest with
  | [] => c
  | b :: rest => ⟨rest, c.place.after b⟩

/-- The cursor `n` bytes further. -/
def Cursor.advanceBy : Nat → Cursor → Cursor
  | 0, c => c
  | n + 1, c => advanceBy n c.advance

/-- The byte at the cursor. -/
def Cursor.peek? (c : Cursor) : Option UInt8 := c.rest.head?

/-- The result of reading something: a failure, or a value and the cursor after it. -/
abbrev Step (α : Type) := Except Failure (α × Cursor)

/-- A failure at the cursor. -/
def Cursor.fail (c : Cursor) (f : Fault) : Except Failure α := .error ⟨f, c.place⟩

/-- A failure at the byte ahead of the cursor. -/
def Cursor.failAhead (c : Cursor) (f : Fault) : Except Failure α := .error ⟨f, c.advance.place⟩

/-- Blank, tab, line feed and carriage return separate tokens. -/
def isGapByte (b : UInt8) : Bool := b = 0x20 || b = 0x09 || b = 0x0A || b = 0x0D

/-- Steps over separating bytes. -/
def skipGapFrom : List UInt8 → Place → Cursor
  | [], p => ⟨[], p⟩
  | b :: rest, p => if isGapByte b then skipGapFrom rest (p.after b) else ⟨b :: rest, p⟩

/-- The cursor at the next token. -/
def Cursor.skipGap (c : Cursor) : Cursor := skipGapFrom c.rest c.place

/-- Reads the remaining letters of a word such as `null`. -/
def readWord : List UInt8 → Cursor → Except Failure Cursor
  | [], c => .ok c
  | w :: word, c =>
    match c.rest with
    | [] => c.fail .endInValue
    | b :: _ => if b = w then readWord word c.advance else c.advance.fail .expectedWord

/-- The bytes of `ull`, `rue` and `alse`. -/
def ullBytes : List UInt8 := [0x75, 0x6C, 0x6C]

/-- The bytes that follow `t` in `true`. -/
def rueBytes : List UInt8 := [0x72, 0x75, 0x65]

/-- The bytes that follow `f` in `false`. -/
def alseBytes : List UInt8 := [0x61, 0x6C, 0x73, 0x65]

/-! ## Between the parts of a container -/

/-- Whether a list goes on: the cursor at its next item, or none at the closing bracket. -/
def nextItem (first : Bool) (c : Cursor) : Except Failure (Bool × Cursor) :=
  let c := c.skipGap
  match c.peek? with
  | none => c.fail .endInList
  | some 0x5D => .ok (false, c)
  | some b =>
    if first then .ok (true, c)
    else if b = 0x2C then
      let c := c.advance.skipGap
      match c.peek? with
      | none => c.fail .endInValue
      | some 0x5D => c.failAhead .trailingComma
      | some _ => .ok (true, c)
    else c.failAhead .expectedListCommaOrEnd

/-- Whether an object goes on: the cursor at its next name, or at the closing brace. -/
def nextMember (first : Bool) (c : Cursor) : Except Failure (Bool × Cursor) :=
  let c := c.skipGap
  match c.peek? with
  | none => c.fail .endInObject
  | some 0x7D => .ok (false, c)
  | some b =>
    if first then
      if b = 0x22 then .ok (true, c) else c.failAhead .keyMustBeString
    else if b = 0x2C then
      let c := c.advance.skipGap
      match c.peek? with
      | none => c.fail .endInValue
      | some 0x22 => .ok (true, c)
      | some 0x7D => c.failAhead .trailingComma
      | some _ => c.failAhead .keyMustBeString
    else c.failAhead .expectedObjectCommaOrEnd

/-- Takes the colon between a name and its value. -/
def readColon (c : Cursor) : Except Failure Cursor :=
  let c := c.skipGap
  match c.peek? with
  | none => c.fail .endInObject
  | some 0x3A => .ok c.advance
  | some _ => c.failAhead .expectedColon

/-- What became of the attempt to close a container: a failure unless the bracket stood there, and
in any case the cursor where the attempt ended. -/
structure Closing where
  cursor : Cursor
  failure? : Option Failure

/-- Closes a list. -/
def closeList (c : Cursor) : Closing :=
  let c := c.skipGap
  match c.peek? with
  | none => ⟨c, some ⟨.endInList, c.place⟩⟩
  | some 0x5D => ⟨c.advance, none⟩
  | some 0x2C =>
    let c := c.advance.skipGap
    let fault := if c.peek? = some 0x5D then Fault.trailingComma else .trailingCharacters
    ⟨c, some ⟨fault, c.advance.place⟩⟩
  | some _ => ⟨c, some ⟨.trailingCharacters, c.advance.place⟩⟩

/-- Closes an object. -/
def closeObject (c : Cursor) : Closing :=
  let c := c.skipGap
  match c.peek? with
  | none => ⟨c, some ⟨.endInObject, c.place⟩⟩
  | some 0x7D => ⟨c.advance, none⟩
  | some 0x2C => ⟨c, some ⟨.trailingComma, c.advance.place⟩⟩
  | some _ => ⟨c, some ⟨.trailingCharacters, c.advance.place⟩⟩

end HostWatch.Json
