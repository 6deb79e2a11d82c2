import HostWatch.Proofs.Decimal.Overflow
import HostWatch.Proofs.Json.Containers
import HostWatch.Proofs.Json.Numerals

/-!
# Written numbers are read back

A number is digits, perhaps a fraction, perhaps an exponent. Each part is read up to its end:

1. whole numbers come out as they are (`readNumber_whole`);
2. any other number comes out as a double unless it is too large for one, which is a matter of its
   digits and of the power of ten they are scaled by (`Fits`, `readFraction_eq`,
   `readExponent_eq`).
-/

namespace HostWatch.Json

theorem EndsValue.noDigit {rest : List UInt8} (h : EndsValue rest) : NoDigit rest := by
  intro b hb
  rcases h b hb with rfl | rfl | rfl <;> rfl

theorem EndsValue.head?_ne {rest : List UInt8} (h : EndsValue rest) :
    rest.head? ≠ some 0x2E ∧ rest.head? ≠ some 0x65 ∧ rest.head? ≠ some 0x45 := by
  refine ⟨?_, ?_, ?_⟩ <;>
    · intro e
      rcases h _ e with h | h | h <;> exact absurd h (by decide)

/-- The digits before the point of a number: none is missing, and a zero stands alone. -/
structure LeadingDigits (ds : List Nat) : Prop where
  digits : ∀ d ∈ ds, d < 10
  ne_nil : ds ≠ []
  zero_alone : ¬ (ds.head? = some 0 ∧ 1 < ds.length)

theorem leadingDigits_digitsOf (n : Nat) : LeadingDigits (digitsOf n) where
  digits := fun _ h => lt_ten_of_mem_digitsOf h
  ne_nil := digitsOf_ne_nil n
  zero_alone := by
    rintro ⟨zero, long⟩
    rcases Nat.eq_zero_or_pos n with rfl | pos
    · rw [digitsOf_of_lt (by decide)] at long
      simp at long
    · exact head?_digitsOf (by omega) zero

/-- Behind digits that are in range a number ends or goes on with a fraction or an exponent. -/
theorem readNumber_eq {ds : List Nat} (leading : LeadingDigits ds)
    (range : valueOf 0 ds ≤ maxSignificand) (positive : Bool) {rest : List UInt8}
    (ends : NoDigit rest) (place : Place) :
    ∃ place', readNumber positive ⟨numeralBytes ds ++ rest, place⟩ =
      match rest.head? with
      | some 0x2E => readFraction positive (valueOf 0 ds) 0 (Cursor.mk rest place').advance
      | some 0x65 => readExponent positive (valueOf 0 ds) 0 (Cursor.mk rest place').advance
      | some 0x45 => readExponent positive (valueOf 0 ds) 0 (Cursor.mk rest place').advance
      | _ => .ok (wholeNumber positive (valueOf 0 ds), ⟨rest, place'⟩) := by
  obtain ⟨place', e⟩ := digits_append leading.digits ends place
  refine ⟨place', ?_⟩
  unfold readNumber
  rw [e]
  split
  · next h => exact absurd (congrArg Prod.fst h) leading.ne_nil
  · next ds' after _ h =>
    obtain ⟨rfl, rfl⟩ := Prod.mk.inj h
    rw [if_neg leading.zero_alone, accumulate_eq ds 0 range]
    rfl

/-- A whole number is read with its digits, if they are in range. -/
theorem readNumber_whole {ds : List Nat} (leading : LeadingDigits ds)
    (range : valueOf 0 ds ≤ maxSignificand) (positive : Bool) {rest : List UInt8}
    (ends : EndsValue rest) (place : Place) :
    ∃ place', readNumber positive ⟨numeralBytes ds ++ rest, place⟩ =
      .ok (wholeNumber positive (valueOf 0 ds), ⟨rest, place'⟩) := by
  obtain ⟨place', e⟩ := readNumber_eq leading range positive ends.noDigit place
  refine ⟨place', e.trans ?_⟩
  obtain ⟨point, small, capital⟩ := ends.head?_ne
  split
  · next h => exact absurd h point
  · next h => exact absurd h small
  · next h => exact absurd h capital
  · rfl

/-! ## Numbers that are not whole -/

section Doubles

open Decimal (Fits)

/-- Dividing never fails. -/
theorem isSome_scale_of_neg (steps : Nat) (x : Float) {exponent : Int} (h : exponent < 0) :
    (scale steps x exponent).isSome = true := by
  induction steps generalizing x exponent with
  | zero => rfl
  | succ steps ih =>
    unfold scale
    simp only [if_neg (show ¬ 0 ≤ exponent by omega)]
    split_ifs with near zero
    · rfl
    · rfl
    · have : greatestPower = 308 := rfl
      exact ih _ (by omega)

theorem isSome_floatOfParts {n : Nat} {exponent : Int} (pos : 0 < n) (range : n ≤ maxSignificand)
    (positive : Bool) : (floatOfParts positive n exponent).isSome = true ↔ Fits n exponent := by
  have bits : n < 2 ^ 64 := Nat.lt_of_le_of_lt range (by decide)
  unfold floatOfParts Fits
  rw [Option.isSome_map]
  rcases Int.lt_or_le exponent 0 with neg | nonneg
  · exact iff_of_true (isSome_scale_of_neg _ _ neg) (.inl neg)
  rw [or_iff_right (by omega)]
  unfold scale
  rcases Nat.lt_or_ge greatestPower exponent.natAbs with far | near
  · rw [if_neg (by omega), (Decimal.isScaled_ofNat pos bits).beq_zero, if_neg Bool.false_ne_true,
      if_pos nonneg]
    exact iff_of_false Bool.false_ne_true (by omega)
  · rw [if_pos near, if_pos nonneg, show exponent.toNat = exponent.natAbs by omega,
      ← Decimal.isInf_mul_powerOfTen pos bits near, and_iff_right (by omega)]
    dsimp only
    split_ifs with inf
    · exact iff_of_false Bool.false_ne_true (not_not.2 inf)
    · exact iff_of_true rfl inf

end Doubles

/-- Behind the digits of a fraction a number ends or goes on with an exponent. -/
theorem readFraction_eq {n : Nat} {ds : List Nat} (digits : ∀ d ∈ ds, d < 10) (ne : ds ≠ [])
    (range : valueOf n ds ≤ maxSignificand) (positive : Bool) (exponent : Int) {rest : List UInt8}
    (ends : NoDigit rest) (place : Place) :
    ∃ place', readFraction positive n exponent ⟨numeralBytes ds ++ rest, place⟩ =
      if rest.head? = some 0x65 ∨ rest.head? = some 0x45 then
        readExponent positive (valueOf n ds) (exponent - ds.length) (Cursor.mk rest place').advance
      else finishFloat positive (valueOf n ds) (exponent - ds.length) ⟨rest, place'⟩ := by
  obtain ⟨place', e⟩ := digits_append digits ends place
  refine ⟨place', ?_⟩
  unfold readFraction
  rw [e]
  split
  · next h => exact absurd (congrArg Prod.fst h) ne
  · next ds' after _ h =>
    obtain ⟨rfl, rfl⟩ := Prod.mk.inj h
    rw [accumulate_eq ds n range]
    rfl

/-- An exponent is added to the one there is, or subtracted from it. -/
theorem readExponent_eq {ds : List Nat} (digits : ∀ d ∈ ds, d < 10) (ne : ds ≠ [])
    (range : valueOf 0 ds ≤ maxExponent) (positive : Bool) (n : Nat) (exponent : Int)
    (negative : Bool) {rest : List UInt8} (ends : NoDigit rest) (place : Place) :
    ∃ place', readExponent positive n exponent
        ⟨(if negative then 0x2D else 0x2B) :: (numeralBytes ds ++ rest), place⟩ =
      finishFloat positive n
        (if negative then exponent - valueOf 0 ds else exponent + valueOf 0 ds) ⟨rest, place'⟩ := by
  obtain ⟨place', e⟩ := digits_append digits ends (place.after (if negative then 0x2D else 0x2B))
  refine ⟨place', ?_⟩
  obtain ⟨d, ds, rfl⟩ := List.exists_cons_of_ne_nil ne
  unfold readExponent
  cases negative
  all_goals
    simp only [Bool.false_eq_true, if_true, if_false] at e
    simp +decide only [Cursor.peek?, List.head?_cons, Cursor.advance, if_true, if_false, e,
      accumulate_eq _ 0 range]

end HostWatch.Json
