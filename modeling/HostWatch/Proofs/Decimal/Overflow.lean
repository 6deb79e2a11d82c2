import HostWatch.Json.Number
import HostWatch.Proofs.Decimal.Rounding

/-!
# When a decimal is too large for a double

`isInf_mul_powerOfTen`: the double nearest to a whole number of 64 bits times the double nearest to
a power of ten is infinite exactly if the product of the two, rounded in natural numbers, reaches
`2 ^ 1024`. Everything is scaled by `2 ^ 52` for each factor, so that no fraction is left.

1. Both factors are normal doubles whose scaled value is `rounded` (`isScaled_ofNat`,
   `isScaled_powerOfTen`), and their product is rounded once more (`IsScaled.isInf_mul`).
2. So the product is monotone in the whole number and in the power (`Overflows.mono`), and what is
   too large is settled at a few numbers.
-/

namespace HostWatch.Decimal

open Float.Model Float.Model.UnpackedFloat
open HostWatch.Json (powerOfTen greatestPower)

/-! ## The factors -/

/-- The double is normal and positive, and `value` is `2 ^ 52` times as great. -/
def IsScaled (x : Float) (value : Nat) : Prop :=
  ∃ q e pos, x.toModel.unpack = .finite .positive q e pos ∧ Normal q e ∧ -52 ≤ e ∧
    q * 2 ^ (e + 52).toNat = value

theorem IsScaled.beq_zero {x : Float} {value : Nat} (h : IsScaled x value) : (x == 0) = false := by
  obtain ⟨q, e, pos, unpacked, -⟩ := h
  show (x.toModel.unpack.compare (0 : Float).toModel.unpack == some .eq) = false
  rw [unpacked, show (0 : Float).toModel.unpack = .zero .positive by rfl]
  rfl

/-- A number of 53 bits times a power of two lies between two powers of two. -/
theorem Normal.bounds {q : Nat} {e : Int} (h : Normal q e) (k : Nat) :
    2 ^ (52 + k) ≤ q * 2 ^ k ∧ q * 2 ^ k < 2 ^ (53 + k) := by
  rw [Nat.pow_add, Nat.pow_add]
  exact ⟨Nat.mul_le_mul_right _ h.low, Nat.mul_lt_mul_of_pos_right h.high (by positivity)⟩

theorem log2_mono {m n : Nat} (h : m ≤ n) : m.log2 ≤ n.log2 := by
  rcases Nat.eq_zero_or_pos m with rfl | pos
  · exact Nat.zero_le _
  · exact (Nat.le_log2 (by omega)).2 (Nat.le_trans (two_pow_log2_le pos.ne') h)

/-- A double that is rounded from a number is scaled to the number rounded. -/
theorem isScaled_of_round {x : Float} {m value a b : Nat} {e : Int}
    (model : x.toModel = Float.Model.pack (roundWithAccuracy Format.binary64 .positive m e .exact))
    (hm : 2 ^ 52 ≤ m) (he : -1074 ≤ e) (low : 2 ^ 52 ≤ value) (high : (rounded value).log2 < 1076)
    (same : m * 2 ^ a = value * 2 ^ b) (shift : e + 52 = a - b) : IsScaled x (rounded value) := by
  obtain ⟨q, y, pos, result, lowq, highq, above, eq⟩ :=
    roundWithAccuracy_eq .positive (e := e) hm (by omega)
  have normal : Normal q y := ⟨lowq, highq, by omega⟩
  have scaled : q * 2 ^ (y - e + a).toNat = rounded value * 2 ^ b := by
    rw [← rounded_mul_two_pow low, ← same, rounded_mul_two_pow hm, ← eq, Nat.mul_assoc,
      ← Nat.pow_add]
    congr 2
    omega
  -- the exponent is bounded by the value
  obtain ⟨lower, upper⟩ := normal.bounds (y - e + a).toNat
  rw [scaled] at lower upper
  have least : 52 + b < 53 + (y - e + a).toNat := by
    refine (Nat.pow_lt_pow_iff_right (a := 2) (by decide)).1 (Nat.lt_of_le_of_lt ?_ upper)
    rw [Nat.pow_add]
    refine Nat.mul_le_mul_right _ (Nat.le_trans ?_ (two_pow_log2_le_rounded low))
    exact Nat.pow_le_pow_right (by decide) ((Nat.le_log2 (by omega)).2 low)
  have greatest : 52 + (y - e + a).toNat ≤ (rounded value).log2 + b := by
    have nonzero : rounded value ≠ 0 := by
      have := two_pow_log2_le_rounded low
      have := Nat.two_pow_pos value.log2
      omega
    rw [← log2_mul_two_pow nonzero]
    exact (Nat.le_log2 (Nat.mul_ne_zero nonzero (by positivity))).2 lower
  refine ⟨q, y, pos, ?_, normal, by omega, ?_⟩
  · rw [model, result]
    exact unpack_pack normal (by omega) pos
  · refine Nat.eq_of_mul_eq_mul_right (Nat.pow_pos (n := b) (show 0 < 2 by decide)) ?_
    rw [← scaled, Nat.mul_assoc, ← Nat.pow_add]
    congr 2
    omega

/-- The double nearest to a whole number. -/
theorem isScaled_ofNat {n : Nat} (pos : 0 < n) (range : n < 2 ^ 64) :
    IsScaled n.toUInt64.toFloat (rounded (n * 2 ^ 52)) := by
  have log : n.log2 < 64 := (Nat.log2_lt pos.ne').2 range
  have shifted : 2 ^ 52 ≤ n * 2 ^ (52 - n.log2) := by
    calc 2 ^ 52 ≤ 2 ^ (n.log2 + (52 - n.log2)) := Nat.pow_le_pow_right (by decide) (by omega)
      _ = 2 ^ n.log2 * 2 ^ (52 - n.log2) := Nat.pow_add ..
      _ ≤ n * 2 ^ (52 - n.log2) := Nat.mul_le_mul_right _ (two_pow_log2_le pos.ne')
  have model : n.toUInt64.toFloat.toModel = Float.Model.pack
      (roundWithAccuracy Format.binary64 .positive (n * 2 ^ (52 - n.log2)) (-(52 - n.log2 : Nat))
        .exact) := by
    have whole : n.toUInt64.toNat = n := Nat.mod_eq_of_lt range
    have target : Format.binary64.targetExponent (totalExponent n 0) = (n.log2 : Int) - 52 := by
      unfold Format.targetExponent totalExponent
      rw [show (Format.binary64.mantissaBits : Int) = 53 by decide,
        show Format.binary64.minExponent = -1074 by decide]
      omega
    have sign : compare ((n : Nat) : Int) 0 = .gt := by
      rw [Int.compare_eq_gt]
      omega
    show Float.Model.pack (UnpackedFloat.ofNat Format.binary64 n.toUInt64.toNat) = _
    rw [whole]
    unfold UnpackedFloat.ofNat UnpackedFloat.ofInt UnpackedFloat.normalize
    rw [sign]
    dsimp only
    unfold UnpackedFloat.round decreaseExponent
    rw [Int.toNat_natCast, target]
    dsimp only
    rw [show (0 - ((n.log2 : Int) - 52)).toNat = 52 - n.log2 by omega, Nat.shiftLeft_eq, zero_sub]
  refine isScaled_of_round (a := 52 - (52 - n.log2)) (b := 0) model shifted (by omega)
    (Nat.le_mul_of_pos_left _ pos) ?_ ?_ (by omega)
  · have nonzero : n * 2 ^ 52 ≠ 0 := Nat.mul_ne_zero pos.ne' (by decide)
    have upper := rounded_le_two_pow (Nat.le_mul_of_pos_left (2 ^ 52) pos)
    rw [log2_mul_two_pow pos.ne'] at upper
    have := log2_mono upper
    rw [Nat.log2_two_pow] at this
    omega
  · rw [Nat.mul_assoc, ← Nat.pow_add, Nat.pow_zero, Nat.mul_one,
      Nat.add_sub_cancel' (Nat.sub_le ..)]

/-- A power of ten as a double, up to the greatest one that is applied in one step. -/
theorem toModel_powerOfTen (k : Nat) : (powerOfTen k).toModel = Float.Model.ofScientific 1 k := by
  have small : ∀ k ≤ 22, (powerOfTen k).toModel = Float.Model.ofScientific 1 k := by
    decide +kernel
  rcases Nat.lt_or_ge 22 k with gt | le
  · unfold powerOfTen Float.ofScientific
    rw [dif_neg (by omega)]
    rfl
  · exact small k le

theorem isScaled_powerOfTen {k : Nat} (hk : k ≤ greatestPower) :
    IsScaled (powerOfTen k) (rounded (10 ^ k * 2 ^ 52)) := by
  have pos : 0 < 10 ^ k := by positivity
  have : greatestPower = 308 := rfl
  have model : (powerOfTen k).toModel = Float.Model.pack
      (roundWithAccuracy Format.binary64 .positive (2 ^ 53 * 10 ^ k) (-53) .exact) := by
    rw [toModel_powerOfTen]
    unfold Float.Model.ofScientific UnpackedFloat.ofScientific
    rw [dif_neg (by decide),
      if_neg (by rw [show (2 : Int) ^ Format.binary64.exponentBits = 2048 by decide]; omega),
      if_neg (by rw [show (2 : Int) ^ Format.binary64.exponentBits = 2048 by decide]; omega),
      if_pos (by omega)]
    rfl
  refine isScaled_of_round (a := 0) (b := 1) model ?_ (by decide)
    (Nat.le_mul_of_pos_left _ pos) ?_ (by ring) (by decide)
  · rw [Nat.mul_comm]
    exact Nat.le_trans (by decide) (Nat.le_mul_of_pos_left _ pos)
  · have greatest : rounded (10 ^ k * 2 ^ 52) ≤ rounded (10 ^ greatestPower * 2 ^ 52) :=
      rounded_mono (Nat.le_mul_of_pos_left _ pos)
        (Nat.mul_le_mul_right _ (Nat.pow_le_pow_right (by decide) hk))
    exact Nat.lt_of_le_of_lt (log2_mono greatest) (by decide +kernel)

/-! ## Their product -/

/-- A product is infinite if its scaled value, rounded, is at least `2 ^ 1024`. -/
theorem IsScaled.isInf_mul {x y : Float} {a b : Nat} (hx : IsScaled x a) (hy : IsScaled y b) :
    (x * y).isInf = true ↔ 1128 ≤ (rounded (a * b)).log2 := by
  obtain ⟨q, e, pos, unpacked, normal, least, rfl⟩ := hx
  obtain ⟨r, f, pos', unpacked', normal', least', rfl⟩ := hy
  have low : 2 ^ 52 ≤ q * r := Nat.le_trans (by decide) (Nat.mul_le_mul normal.low normal'.low)
  obtain ⟨p, z, ppos, result, lowp, highp, above, eq⟩ :=
    roundWithAccuracy_eq .positive (e := e + f) low (by omega)
  have final : Normal p z := ⟨lowp, highp, by omega⟩
  have model : (x * y).toModel = Float.Model.pack (.finite .positive p z ppos) := by
    show Float.Model.pack (UnpackedFloat.mul Format.binary64 x.toModel.unpack y.toModel.unpack) = _
    rw [unpacked, unpacked', ← result]
    rfl
  have scaled : rounded (q * 2 ^ (e + 52).toNat * (r * 2 ^ (f + 52).toNat)) =
      p * 2 ^ (z + 104).toNat := by
    calc rounded (q * 2 ^ (e + 52).toNat * (r * 2 ^ (f + 52).toNat))
        = rounded (q * r * 2 ^ (e + f + 104).toNat) := by
          rw [Nat.mul_mul_mul_comm, ← Nat.pow_add]
          congr 3
          omega
      _ = p * 2 ^ (z - (e + f)).toNat * 2 ^ (e + f + 104).toNat := by
          rw [rounded_mul_two_pow low, eq]
      _ = p * 2 ^ (z + 104).toNat := by
          rw [Nat.mul_assoc, ← Nat.pow_add]
          congr 2
          omega
  rw [scaled, log2_mul_two_pow (by omega), final.log2]
  show (x * y).toModel.isInf = true ↔ _
  rw [model, isInf_pack final]
  omega

/-! ## What is too large -/

/-- The whole number times the power of ten is too large for a double. -/
def Overflows (n k : Nat) : Prop :=
  1128 ≤ (rounded (rounded (n * 2 ^ 52) * rounded (10 ^ k * 2 ^ 52))).log2

instance (n k : Nat) : Decidable (Overflows n k) := by unfold Overflows; infer_instance

theorem isInf_mul_powerOfTen {n k : Nat} (pos : 0 < n) (range : n < 2 ^ 64)
    (hk : k ≤ greatestPower) :
    (n.toUInt64.toFloat * powerOfTen k).isInf = true ↔ Overflows n k :=
  (isScaled_ofNat pos range).isInf_mul (isScaled_powerOfTen hk)

theorem le_rounded {n : Nat} (pos : 0 < n) : 2 ^ 52 ≤ rounded (n * 2 ^ 52) := by
  have low : 2 ^ 52 ≤ n * 2 ^ 52 := Nat.le_mul_of_pos_left _ pos
  refine Nat.le_trans ?_ (two_pow_log2_le_rounded low)
  exact Nat.pow_le_pow_right (by decide) ((Nat.le_log2 (by omega)).2 low)

theorem Overflows.mono {m n k l : Nat} (pos : 0 < m) (numbers : m ≤ n) (powers : k ≤ l)
    (h : Overflows m k) : Overflows n l := by
  have hk : 0 < 10 ^ k := by positivity
  have first : rounded (m * 2 ^ 52) ≤ rounded (n * 2 ^ 52) :=
    rounded_mono (Nat.le_mul_of_pos_left _ pos) (Nat.mul_le_mul_right _ numbers)
  have second : rounded (10 ^ k * 2 ^ 52) ≤ rounded (10 ^ l * 2 ^ 52) :=
    rounded_mono (Nat.le_mul_of_pos_left _ hk)
      (Nat.mul_le_mul_right _ (Nat.pow_le_pow_right (by decide) powers))
  refine Nat.le_trans h (log2_mono (rounded_mono ?_ (Nat.mul_le_mul first second)))
  exact Nat.le_trans (by decide) (Nat.mul_le_mul (le_rounded pos) (le_rounded hk))

example : ¬ Overflows 17976931348623157 292 ∧ Overflows 17976931348623158 292 := by decide +kernel

/-- The number times the power of ten is not too large for a double. -/
def Fits (n : Nat) (exponent : Int) : Prop :=
  exponent < 0 ∨ exponent ≤ greatestPower ∧ ¬ Overflows n exponent.toNat

end HostWatch.Decimal
