import HostWatch.Decimal.Binary

/-!
# Decimals with a fixed number of places

The exact value of the double is rounded to the nearest multiple of `10 ^ -places`; a tie goes to
the even neighbour.
-/

namespace HostWatch.Decimal

/-- `num / den` rounded to the nearest whole number, a tie going to the even one. -/
def roundHalfEven (num den : Nat) : Nat :=
  let quotient := num / den
  let twice := 2 * (num % den)
  if den < twice ∨ (twice = den ∧ quotient % 2 = 1) then quotient + 1 else quotient

/-- `units` of the last place, written with `places` digits after the point. -/
def fixedDigits (units places : Nat) : String :=
  let whole := toString (units / Nat.pow 10 places)
  if places = 0 then whole
  else
    let part := toString (units % Nat.pow 10 places)
    whole ++ "." ++ "".pushn '0' (places - part.length) ++ part

/-- The text of a double with exactly `places` digits after the point. -/
def fixedText (places : Nat) (x : Float) : String :=
  let sign := if signBit x then "-" else ""
  match Magnitude.ofFloat x with
  | .zero => sign ++ fixedDigits 0 places
  | .finite b =>
    let (num, den) := b.quotient
    sign ++ fixedDigits (roundHalfEven (num * Nat.pow 10 places) den) places
  | .infinite => sign ++ "inf"
  | .notANumber => "NaN"

end HostWatch.Decimal
