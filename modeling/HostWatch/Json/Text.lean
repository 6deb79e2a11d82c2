import HostWatch.Json.Cursor
import HostWatch.Text.Utf8

/-!
# Reading strings

The bytes between two quotes, with escapes replaced by the bytes they stand for. The bytes taken
together must be UTF-8.
-/

namespace HostWatch.Json

/-- The value of a hexadecimal digit. -/
def hexValue? (b : UInt8) : Option Nat :=
  if 0x30 ≤ b ∧ b ≤ 0x39 then some (b.toNat - 0x30)
  else if 0x61 ≤ b ∧ b ≤ 0x66 then some (b.toNat - 0x57)
  else if 0x41 ≤ b ∧ b ≤ 0x46 then some (b.toNat - 0x37)
  else none

/-- The number that four hexadecimal digits write. -/
def hexFour? (a b c d : UInt8) : Option Nat := do
  let a ← hexValue? a
  let b ← hexValue? b
  let c ← hexValue? c
  let d ← hexValue? d
  return ((a * 16 + b) * 16 + c) * 16 + d

/-- Reads four hexadecimal digits. Fewer bytes than four count as an end of the text. -/
def readHexFour (c : Cursor) : Step Nat :=
  match c.rest with
  | a :: b :: d :: e :: _ =>
    let after := c.advanceBy 4
    match hexFour? a b d e with
    | some n => .ok (n, after)
    | none => after.fail .invalidEscape
  | _ => (c.advanceBy 3).fail .endInString

/-- A byte that must be there, inside a string. -/
def expectInString (c : Cursor) : Except Failure UInt8 :=
  match c.rest with
  | [] => c.fail .endInString
  | b :: _ => .ok b

/-- The second half of a character above `U+FFFF`, and the character itself. -/
def readLowSurrogate (high : Nat) (c : Cursor) : Except Failure (Char × Cursor) := do
  if (← expectInString c) ≠ 0x5C then c.advance.fail .unfinishedSurrogate else
  let c := c.advance
  if (← expectInString c) ≠ 0x75 then c.advance.fail .unfinishedSurrogate else
  let (low, c) ← readHexFour c.advance
  if 0xDC00 ≤ low ∧ low ≤ 0xDFFF then
    return (Char.ofNat ((high - 0xD800) * 1024 + (low - 0xDC00) + 0x10000), c)
  else c.fail .loneSurrogate

/-- Reads the digits of a `\u` escape and the character they stand for. -/
def readUnicodeEscape (c : Cursor) : Except Failure (Char × Cursor) := do
  let (n, c) ← readHexFour c
  if 0xDC00 ≤ n ∧ n ≤ 0xDFFF then c.fail .loneSurrogate
  else if 0xD800 ≤ n ∧ n ≤ 0xDBFF then readLowSurrogate n c
  else return (Char.ofNat n, c)

/-- The character of an escape of one letter. -/
def shortEscape? (b : UInt8) : Option UInt8 :=
  match b with
  | 0x22 => some 0x22
  | 0x5C => some 0x5C
  | 0x2F => some 0x2F
  | 0x62 => some 0x08
  | 0x66 => some 0x0C
  | 0x6E => some 0x0A
  | 0x72 => some 0x0D
  | 0x74 => some 0x09
  | _ => none

/-- Reads what follows a backslash: the bytes it stands for. -/
def readEscape (c : Cursor) : Except Failure (List UInt8 × Cursor) := do
  let b ← expectInString c
  if b = 0x75 then
    let (char, c) ← readUnicodeEscape c.advance
    return (String.utf8EncodeChar char, c)
  else
    match shortEscape? b with
    | some byte => return ([byte], c.advance)
    | none => c.advance.fail .invalidEscape

/-- Reads up to the closing quote. The bytes ahead also bound the number of steps, of which each
takes at least one byte; the bytes read so far are collected in reverse. -/
def readStringBytes : List UInt8 → List UInt8 → Cursor → Step (List UInt8)
  | [], _, c => c.fail .endInString
  | _ :: bound, read, c =>
    match c.rest with
    | [] => c.fail .endInString
    | b :: _ =>
      if b = 0x22 then .ok (read.reverse, c.advance)
      else if b = 0x5C then
        match readEscape c.advance with
        | .error e => .error e
        | .ok (bytes, c) => readStringBytes bound (bytes.reverse ++ read) c
      else if b < 0x20 then c.advance.fail .controlCharacter
      else readStringBytes bound (b :: read) c.advance

/-! ## Stepping over strings -/

/-- Steps over what follows a backslash, whatever it stands for. -/
def skipEscape (c : Cursor) : Except Failure Cursor := do
  let b ← expectInString c
  if b = 0x75 then
    let (_, c) ← readHexFour c.advance
    return c
  else
    match shortEscape? b with
    | some _ => return c.advance
    | none => c.advance.fail .invalidEscape

/-- Steps over a string; its bytes need not be UTF-8. -/
def skipStringFrom : List UInt8 → Cursor → Except Failure Cursor
  | [], c => c.fail .endInString
  | _ :: bound, c =>
    match c.rest with
    | [] => c.fail .endInString
    | b :: _ =>
      if b = 0x22 then .ok c.advance
      else if b = 0x5C then
        match skipEscape c.advance with
        | .error e => .error e
        | .ok c => skipStringFrom bound c
      else if b < 0x20 then c.fail .controlCharacter
      else skipStringFrom bound c.advance

/-- Steps over a string whose opening quote has been taken. -/
def skipString (c : Cursor) : Except Failure Cursor := skipStringFrom c.rest c

/-! ## Whole strings -/

/-- Reads a string whose opening quote has been taken. Bytes that are no UTF-8 are placed by
counting back from the end of the string, so that an escape after them counts as many bytes as it
stands for. -/
def readString (c : Cursor) : Step String :=
  match readStringBytes c.rest [] c with
  | .error e => .error e
  | .ok (bytes, after) =>
    match String.fromUTF8? ⟨bytes.toArray⟩ with
    | some s => .ok (s, after)
    | none => .error ⟨.invalidCodePoint, after.place.back (Text.unread bytes).length⟩

end HostWatch.Json
