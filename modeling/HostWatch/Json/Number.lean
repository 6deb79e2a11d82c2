import HostWatch.Json.Cursor

/-!
# Reading numbers

A number without fraction and exponent is exact as long as its digits fit in 64 bits. Any other
number is a double: as many digits as fit in 64 bits are multiplied or divided by a power of
ten, and the digits beyond them only count for the power.
-/

namespace HostWatch.Json

/-- The value of a decimal digit. -/
def digitValue? (b : UInt8) : Option Nat :=
  if 0x30 ≤ b ∧ b ≤ 0x39 then some (b.toNat - 0x30) else none

/-- The decimal digits at the front, and the cursor after them. -/
def digitsFrom : List UInt8 → Place → List Nat × Cursor
  | [], p => ([], ⟨[], p⟩)
  | b :: rest, p =>
    match digitValue? b with
    | none => ([], ⟨b :: rest, p⟩)
    | some d =>
      let (ds, c) := digitsFrom rest (p.after b)
      (d :: ds, c)

/-- The decimal digits at the cursor. -/
def Cursor.digits (c : Cursor) : List Nat × Cursor := digitsFrom c.rest c.place

/-- Greatest value that the digits of a number may reach. -/
def maxSignificand : Nat := Nat.pow 2 64 - 1

/-- Appends digits to a number while it stays in range, and counts the digits left over. -/
def accumulate (limit : Nat) : Nat → List Nat → Nat × Nat
  | n, [] => (n, 0)
  | n, d :: ds =>
    if limit < n * 10 + d then (n, ds.length + 1) else accumulate limit (n * 10 + d) ds

/-- A number as read, before it is known which kind of value is wanted. -/
inductive Number where
  | int (value : Int)
  | float (value : Float)

/-- The value of a number. -/
def Number.toJson : Number → Json
  | .int n => .int n
  | .float x => .float x

/-- A power of ten as a double. -/
def powerOfTen (k : Nat) : Float := Float.ofScientific 1 false k

/-- Greatest power of ten that is applied in one step. -/
def greatestPower : Nat := 308

/-- `x · 10 ^ exponent` by one multiplication, or by as many divisions as are needed; none when
it is too large for a double. A double is zero after at most three divisions. -/
def scale : Nat → Float → Int → Option Float
  | 0, _, _ => some 0
  | steps + 1, x, exponent =>
    if exponent.natAbs ≤ greatestPower then
      if 0 ≤ exponent then
        let y := x * powerOfTen exponent.natAbs
        if y.isInf then none else some y
      else some (x / powerOfTen exponent.natAbs)
    else if x == 0 then some x
    else if 0 ≤ exponent then none
    else scale steps (x / powerOfTen greatestPower) (exponent + greatestPower)

/-- The double `± significand · 10 ^ exponent`. -/
def floatOfParts (positive : Bool) (significand : Nat) (exponent : Int) : Option Float :=
  (scale 4 significand.toUInt64.toFloat exponent).map fun x => if positive then x else -x

/-- A whole number whose digits are in range. Minus zero is no whole number, nor is anything
below `-2^63`. -/
def wholeNumber (positive : Bool) (significand : Nat) : Number :=
  if positive then .int significand
  else if 0 < significand ∧ significand ≤ Nat.pow 2 63 then .int (-significand)
  else .float (-significand.toUInt64.toFloat)

/-- Greatest exponent that is told from still greater ones. -/
def maxExponent : Nat := Nat.pow 2 31 - 1

/-- Finishes a number that is no whole number. -/
def finishFloat (positive : Bool) (significand : Nat) (exponent : Int) (c : Cursor) :
    Step Number :=
  match floatOfParts positive significand exponent with
  | some x => .ok (.float x, c)
  | none => c.fail .numberOutOfRange

/-- Reads an exponent whose `e` has been taken. -/
def readExponent (positive : Bool) (significand : Nat) (exponent : Int) (c : Cursor) :
    Step Number :=
  let negative := c.peek? = some 0x2D
  let c := if negative ∨ c.peek? = some 0x2B then c.advance else c
  match c.digits with
  | ([], _) => if c.rest.isEmpty then c.fail .endInValue else c.advance.fail .invalidNumber
  | (ds, after) =>
    match accumulate maxExponent 0 ds with
    | (e, 0) =>
      finishFloat positive significand (if negative then exponent - e else exponent + e) after
    | (_, beyond) =>
      if significand ≠ 0 ∧ !negative then
        (c.advanceBy (ds.length - beyond + 1)).fail .numberOutOfRange
      else .ok (.float (if positive then 0 else -0), after)

/-- Reads a fraction whose point has been taken. -/
def readFraction (positive : Bool) (significand : Nat) (exponent : Int) (c : Cursor) :
    Step Number :=
  match c.digits with
  | ([], _) => if c.rest.isEmpty then c.fail .endInValue else c.failAhead .invalidNumber
  | (ds, after) =>
    let (significand, beyond) := accumulate maxSignificand significand ds
    let exponent := exponent - Int.ofNat (ds.length - beyond)
    if after.peek? = some 0x65 ∨ after.peek? = some 0x45 then
      readExponent positive significand exponent after.advance
    else finishFloat positive significand exponent after

/-- Reads a number whose sign has been taken. -/
def readNumber (positive : Bool) (c : Cursor) : Step Number :=
  match c.digits with
  | ([], _) => if c.rest.isEmpty then c.fail .endInValue else c.advance.fail .invalidNumber
  | (ds, after) =>
    if ds.head? = some 0 ∧ 1 < ds.length then c.advance.failAhead .invalidNumber
    else
      let (significand, beyond) := accumulate maxSignificand 0 ds
      match after.peek? with
      | some 0x2E => readFraction positive significand beyond after.advance
      | some 0x65 => readExponent positive significand beyond after.advance
      | some 0x45 => readExponent positive significand beyond after.advance
      | _ =>
        if beyond = 0 then .ok (wholeNumber positive significand, after)
        else finishFloat positive significand beyond after

/-! ## Numbers that are not needed -/

/-- Steps over an exponent whose `e` has been taken. -/
def skipExponent (c : Cursor) : Except Failure Cursor :=
  let c := if c.peek? = some 0x2B ∨ c.peek? = some 0x2D then c.advance else c
  match c.digits with
  | ([], _) => c.advance.fail .invalidNumber
  | (_, after) => .ok after

/-- Steps over a fraction whose point has been taken. -/
def skipFraction (c : Cursor) : Except Failure Cursor :=
  match c.digits with
  | ([], _) => c.failAhead .invalidNumber
  | (_, after) =>
    if after.peek? = some 0x65 ∨ after.peek? = some 0x45 then skipExponent after.advance
    else .ok after

/-- Steps over a number whose sign has been taken; its size does not matter. -/
def skipNumber (c : Cursor) : Except Failure Cursor :=
  match c.digits with
  | ([], _) => c.advance.fail .invalidNumber
  | (ds, after) =>
    if ds.head? = some 0 ∧ 1 < ds.length then c.advance.failAhead .invalidNumber
    else
      match after.peek? with
      | some 0x2E => skipFraction after.advance
      | some 0x65 => skipExponent after.advance
      | some 0x45 => skipExponent after.advance
      | _ => .ok after

end HostWatch.Json
