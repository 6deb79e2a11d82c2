import HostWatch.Decimal.Binary

/-!
# The shortest decimal of a double

Among the decimals that read back as a given double, the one with the fewest digits, and of
those the nearest to it. For one, two, … seventeen digits the two neighbours of the value on the
grid of that many digits are tried; the first grid with a neighbour inside the interval of reals
that round to the double gives the answer. A grid has a point in the interval only if one of the
two neighbours of the value is such a point, so no shorter decimal is missed.
-/

namespace HostWatch.Decimal

/-- The decimal `digits · 10 ^ exponent`. -/
structure Scientific where
  digits : Nat
  exponent : Int
  deriving Repr, DecidableEq

/-- A binary fraction and the ends of the interval of reals that round to it, over one common
factor: `c · 10 ^ k` is compared with a point of the interval as `c · step` with the point. -/
structure Window where
  low : Nat
  value : Nat
  high : Nat
  step : Nat
  /-- The ends belong to the interval: a tie rounds to the even mantissa. -/
  closed : Bool

/-- The window of `b` on the grid of multiples of `10 ^ k`. -/
def Binary.window (b : Binary) (k : Int) : Window :=
  let shift := b.exponent - 2
  let unit := Nat.pow 2 shift.toNat * Nat.pow 10 (-k).toNat
  { low := (4 * b.mantissa - (if b.narrowBelow then 1 else 2)) * unit
    value := 4 * b.mantissa * unit
    high := (4 * b.mantissa + 2) * unit
    step := Nat.pow 10 k.toNat * Nat.pow 2 (-shift).toNat
    closed := b.mantissa % 2 = 0 }

/-- Whether the grid point `c` lies in the window. -/
def Window.Holds (w : Window) (c : Nat) : Prop :=
  if w.closed then w.low ≤ c * w.step ∧ c * w.step ≤ w.high
  else w.low < c * w.step ∧ c * w.step < w.high

instance (w : Window) (c : Nat) : Decidable (w.Holds c) := by
  unfold Window.Holds; infer_instance

/-- The grid point of the window nearest to its value, if the window holds one; of two equally
near points the even one. -/
def Window.nearest? (w : Window) : Option Nat :=
  let below := w.value / w.step
  let above := below + 1
  match decide (w.Holds below), decide (w.Holds above) with
  | false, false => none
  | true, false => some below
  | false, true => some above
  | true, true =>
    let gapBelow := w.value - below * w.step
    let gapAbove := above * w.step - w.value
    if gapBelow < gapAbove then some below
    else if gapAbove < gapBelow then some above
    else some (if below % 2 = 0 then below else above)

/-- Some `d` with `10 ^ d` above the fraction and `10 ^ (d - 1)` not above it. -/
def Binary.decade (b : Binary) : Int :=
  let estimate := ((b.mantissa.log2 : Int) + b.exponent) * 30103 / 100000
  let isBelow (d : Int) : Bool :=
    let (num, den) := b.quotient
    num * Nat.pow 10 (-d).toNat < den * Nat.pow 10 d.toNat
  if isBelow estimate then estimate
  else if isBelow (estimate + 1) then estimate + 1
  else estimate + 2

/-- `digits` without its trailing zeros, each moved into the exponent. -/
def Scientific.trimmed (digits : Nat) (exponent : Int) : Scientific :=
  if h : digits ≠ 0 ∧ digits % 10 = 0 then
    Scientific.trimmed (digits / 10) (exponent + 1)
  else ⟨digits, exponent⟩
termination_by digits
decreasing_by omega

/-- The shortest decimal that reads back as `b`. -/
def Binary.shortest (b : Binary) : Scientific :=
  let decade := b.decade
  let hit := (List.range 17).findSome? fun (n : Nat) =>
    let k := decade - Int.ofNat (n + 1)
    (b.window k).nearest?.map fun c => Scientific.trimmed c k
  hit.getD ⟨b.mantissa, b.exponent⟩

/-! ## Writing a scientific decimal -/

/-- How a decimal is laid out as text. -/
structure Layout where
  /-- Written positionally when the point falls `low < point ≤ high` digits after the first;
  always when absent. -/
  positional : Option (Int × Int)
  /-- A whole number keeps a `.0`. -/
  keepPoint : Bool
  /-- A plus sign stands before an exponent that is not negative. -/
  plusExponent : Bool

/-- Digits with a point after the first `point` of them. -/
def Layout.positionalText (layout : Layout) (digits : String) (point : Int) : String :=
  let n : Int := digits.length
  if n ≤ point then
    digits ++ "".pushn '0' (point - n).toNat ++ (if layout.keepPoint then ".0" else "")
  else if 0 < point then
    (digits.take point.toNat).toString ++ "." ++ (digits.drop point.toNat).toString
  else "0." ++ "".pushn '0' (-point).toNat ++ digits

/-- One digit, a point, the other digits, and the exponent. -/
def Layout.exponentialText (layout : Layout) (digits : String) (point : Int) : String :=
  let e := point - 1
  let others := (digits.drop 1).toString
  let sign := if e < 0 then "-" else if layout.plusExponent then "+" else ""
  (digits.take 1).toString ++ (if others.isEmpty then "" else "." ++ others) ++ "e" ++ sign
    ++ toString e.natAbs

/-- The text of a positive decimal. -/
def Scientific.toText (layout : Layout) (s : Scientific) : String :=
  let digits := toString s.digits
  let point := s.exponent + digits.length
  match layout.positional with
  | none => layout.positionalText digits point
  | some (low, high) =>
    if low < point ∧ point ≤ high then layout.positionalText digits point
    else layout.exponentialText digits point

/-- The text of a double by its shortest decimal. -/
def shortestText (layout : Layout) (x : Float) : String :=
  let sign := if signBit x then "-" else ""
  match Magnitude.ofFloat x with
  | .zero => sign ++ (if layout.keepPoint then "0.0" else "0")
  | .finite b => sign ++ b.shortest.toText layout
  | .infinite => sign ++ "inf"
  | .notANumber => "NaN"

/-- Plain numbers in messages: always positional, whole numbers without a point. -/
def Layout.plain : Layout := ⟨none, false, false⟩

end HostWatch.Decimal
