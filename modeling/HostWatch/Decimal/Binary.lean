/-!
# Doubles as exact binary fractions

A finite double other than zero is `mantissa · 2 ^ exponent` up to sign. Everything this library
prints about a double is computed from that pair in natural numbers, so no rounding happens on
the way to its text.
-/

namespace HostWatch.Decimal

/-- The size of a finite double that is not zero: `mantissa · 2 ^ exponent`. -/
structure Binary where
  mantissa : Nat
  exponent : Int
  /-- The next smaller double is only half as far away as the next larger one. -/
  narrowBelow : Bool
  deriving Repr, DecidableEq

/-- What the bits of a double stand for, its sign aside. -/
inductive Magnitude where
  | zero
  | finite (value : Binary)
  | infinite
  | notANumber
  deriving Repr, DecidableEq

/-- The magnitude that the low 63 bits of a double encode. -/
def Magnitude.ofBits (bits : Nat) : Magnitude :=
  let fraction := bits % Nat.pow 2 52
  let biased := bits / Nat.pow 2 52 % Nat.pow 2 11
  if biased = 2047 then
    if fraction = 0 then .infinite else .notANumber
  else if biased = 0 then
    if fraction = 0 then .zero else .finite ⟨fraction, -1074, false⟩
  else
    .finite ⟨fraction + Nat.pow 2 52, Int.ofNat biased - 1075, fraction = 0 ∧ 1 < biased⟩

/-- The magnitude of a double. -/
def Magnitude.ofFloat (x : Float) : Magnitude := .ofBits x.toBits.toNat

/-- The sign bit of a double; it is set for the negative zero too. -/
def signBit (x : Float) : Bool := Nat.pow 2 63 ≤ x.toBits.toNat

/-- A binary fraction as a quotient of natural numbers. -/
def Binary.quotient (b : Binary) : Nat × Nat :=
  if 0 ≤ b.exponent then (b.mantissa * Nat.pow 2 b.exponent.toNat, 1)
  else (b.mantissa, Nat.pow 2 (-b.exponent).toNat)

end HostWatch.Decimal
