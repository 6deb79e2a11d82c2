import HostWatch.Decimal.Fixed
import Mathlib

/-!
# Rounding to a double in natural numbers

`rounded n` is `n` with all but its 53 leading bits rounded away, a tie going to the even
neighbour. The arithmetic of doubles rounds its exact result in the same way
(`roundWithAccuracy_eq`), so what is known of `rounded` carries over to it:

1. it is monotone (`rounded_mono`) and does not see a power of two (`rounded_mul_two_pow`);
2. the shift of the arithmetic keeps the bit below the last one and whether anything stands below
   that bit, which is what `roundHalfEven` looks at (`roundedMantissa_shift`).
-/

namespace HostWatch.Decimal

open Float.Model Float.Model.UnpackedFloat

/-! ## Rounding a quotient -/

theorem div_le_roundHalfEven (n d : Nat) : n / d ≤ roundHalfEven n d := by
  unfold roundHalfEven
  dsimp only
  split_ifs <;> omega

theorem roundHalfEven_le (n d : Nat) : roundHalfEven n d ≤ n / d + 1 := by
  unfold roundHalfEven
  dsimp only
  split_ifs <;> omega

theorem roundHalfEven_mono {m n : Nat} (h : m ≤ n) (d : Nat) :
    roundHalfEven m d ≤ roundHalfEven n d := by
  have quotients : m / d ≤ n / d := Nat.div_le_div_right h
  rcases Nat.lt_or_eq_of_le quotients with lt | same
  · have := roundHalfEven_le m d
    have := div_le_roundHalfEven n d
    omega
  · -- with one quotient the remainders are in order too
    have hm := Nat.div_add_mod m d
    have hn := Nat.div_add_mod n d
    have remainders : m % d ≤ n % d := by
      rw [same] at hm
      omega
    unfold roundHalfEven
    dsimp only
    rw [same]
    split_ifs <;> omega

theorem roundHalfEven_mul {c : Nat} (hc : 0 < c) (n d : Nat) :
    roundHalfEven (n * c) (d * c) = roundHalfEven n d := by
  unfold roundHalfEven
  dsimp only
  rw [Nat.mul_div_mul_right _ _ hc, Nat.mul_mod_mul_right, ← Nat.mul_assoc]
  simp only [Nat.mul_lt_mul_right hc, Nat.mul_left_inj hc.ne']

/-! ## Rounding to 53 bits -/

/-- A number rounded to its 53 leading bits. -/
def rounded (n : Nat) : Nat := roundHalfEven n (2 ^ (n.log2 - 52)) * 2 ^ (n.log2 - 52)

theorem two_pow_log2_le {n : Nat} (h : n ≠ 0) : 2 ^ n.log2 ≤ n := Nat.log2_self_le h

theorem lt_two_pow_log2 (n : Nat) : n < 2 ^ (n.log2 + 1) := Nat.lt_log2_self

theorem log2_mul_two_pow {n : Nat} (h : n ≠ 0) (k : Nat) : (n * 2 ^ k).log2 = n.log2 + k := by
  rw [Nat.log2_eq_iff (Nat.mul_ne_zero h (by positivity))]
  have low := two_pow_log2_le h
  have high := lt_two_pow_log2 n
  constructor
  · rw [Nat.pow_add]
    exact Nat.mul_le_mul_right _ low
  · rw [show n.log2 + k + 1 = n.log2 + 1 + k by omega, Nat.pow_add]
    exact Nat.mul_lt_mul_of_pos_right high (by positivity)

/-- The 53 leading bits of a number. -/
theorem mantissa_bounds {n : Nat} (h : 2 ^ 52 ≤ n) :
    2 ^ 52 ≤ n / 2 ^ (n.log2 - 52) ∧ n / 2 ^ (n.log2 - 52) < 2 ^ 53 := by
  have nonzero : n ≠ 0 := by
    rintro rfl
    simp at h
  have log : 52 ≤ n.log2 := (Nat.le_log2 nonzero).2 h
  constructor
  · rw [Nat.le_div_iff_mul_le (by positivity), ← Nat.pow_add, Nat.add_sub_cancel' log]
    exact two_pow_log2_le nonzero
  · rw [Nat.div_lt_iff_lt_mul (by positivity), ← Nat.pow_add,
      show 53 + (n.log2 - 52) = n.log2 + 1 by omega]
    exact lt_two_pow_log2 n

theorem rounded_mul_two_pow {n : Nat} (h : 2 ^ 52 ≤ n) (k : Nat) :
    rounded (n * 2 ^ k) = rounded n * 2 ^ k := by
  have nonzero : n ≠ 0 := by
    rintro rfl
    simp at h
  have log : 52 ≤ n.log2 := (Nat.le_log2 nonzero).2 h
  unfold rounded
  rw [log2_mul_two_pow nonzero, show n.log2 + k - 52 = n.log2 - 52 + k by omega, Nat.pow_add,
    roundHalfEven_mul (by positivity), Nat.mul_assoc]

/-- Rounding does not lead over the next power of two. -/
theorem rounded_le_two_pow {n : Nat} (h : 2 ^ 52 ≤ n) : rounded n ≤ 2 ^ (n.log2 + 1) := by
  have nonzero : n ≠ 0 := by
    rintro rfl
    simp at h
  have log : 52 ≤ n.log2 := (Nat.le_log2 nonzero).2 h
  have quotient : roundHalfEven n (2 ^ (n.log2 - 52)) ≤ 2 ^ 53 := by
    have := roundHalfEven_le n (2 ^ (n.log2 - 52))
    have := (mantissa_bounds h).2
    omega
  calc rounded n ≤ 2 ^ 53 * 2 ^ (n.log2 - 52) := Nat.mul_le_mul_right _ quotient
    _ = 2 ^ (n.log2 + 1) := by
      rw [← Nat.pow_add]
      congr 1
      omega

theorem two_pow_log2_le_rounded {n : Nat} (h : 2 ^ 52 ≤ n) : 2 ^ n.log2 ≤ rounded n := by
  have nonzero : n ≠ 0 := by
    rintro rfl
    simp at h
  have log : 52 ≤ n.log2 := (Nat.le_log2 nonzero).2 h
  calc 2 ^ n.log2 = 2 ^ 52 * 2 ^ (n.log2 - 52) := by
        rw [← Nat.pow_add, Nat.add_sub_cancel' log]
    _ ≤ rounded n :=
      Nat.mul_le_mul_right _ (Nat.le_trans (mantissa_bounds h).1 (div_le_roundHalfEven _ _))

theorem rounded_mono {m n : Nat} (hm : 2 ^ 52 ≤ m) (h : m ≤ n) : rounded m ≤ rounded n := by
  have hn : 2 ^ 52 ≤ n := Nat.le_trans hm h
  have nonzero : m ≠ 0 := by
    rintro rfl
    simp at hm
  have logs : m.log2 ≤ n.log2 :=
    (Nat.le_log2 (by omega)).2 (Nat.le_trans (two_pow_log2_le nonzero) h)
  rcases Nat.lt_or_eq_of_le logs with lt | same
  · calc rounded m ≤ 2 ^ (m.log2 + 1) := rounded_le_two_pow hm
      _ ≤ 2 ^ n.log2 := Nat.pow_le_pow_right (by decide) lt
      _ ≤ rounded n := two_pow_log2_le_rounded hn
  · unfold rounded
    rw [same]
    exact Nat.mul_le_mul_right _ (roundHalfEven_mono h _)

/-! ## The rounding of the arithmetic -/

/-- What the residual bits of a mantissa stand for after a shift by `k` bits. -/
theorem shift_bits (m k : Nat) :
    ((ExtendedMantissa.mk m false false) >>> k).mantissa = m / 2 ^ k ∧
    (((ExtendedMantissa.mk m false false) >>> k).roundBit = true ↔
      2 ^ k ≤ 2 * (m % 2 ^ k)) ∧
    (((ExtendedMantissa.mk m false false) >>> k).stickyBit = true ↔
      2 * (m % 2 ^ k) ≠ 0 ∧ 2 * (m % 2 ^ k) ≠ 2 ^ k) := by
  induction k with
  | zero =>
    refine ⟨?_, ?_, ?_⟩
    · show m = m / 2 ^ 0
      simp
    · show false = true ↔ _
      simp [Nat.mod_one]
    · show false = true ↔ _
      simp [Nat.mod_one]
  | succ k ih =>
    obtain ⟨mantissa, round, sticky⟩ := ih
    have step : (ExtendedMantissa.mk m false false) >>> (k + 1) =
        ((ExtendedMantissa.mk m false false) >>> k).shiftRightOne := rfl
    rw [step]
    generalize (ExtendedMantissa.mk m false false) >>> k = em at mantissa round sticky ⊢
    have split : m % 2 ^ (k + 1) = m % 2 ^ k + 2 ^ k * (m / 2 ^ k % 2) := by
      rw [Nat.pow_succ, Nat.mod_mul]
    have below : m % 2 ^ k < 2 ^ k := Nat.mod_lt _ (by positivity)
    have double : 2 ^ (k + 1) = 2 * 2 ^ k := Nat.pow_succ'
    unfold ExtendedMantissa.shiftRightOne
    refine ⟨?_, ?_, ?_⟩
    · show em.mantissa / 2 = m / 2 ^ (k + 1)
      rw [mantissa, Nat.div_div_eq_div_mul, Nat.pow_succ]
    · show (em.mantissa % 2 != 0) = true ↔ _
      rw [mantissa, split, double, bne_iff_ne]
      rcases Nat.mod_two_eq_zero_or_one (m / 2 ^ k) with bit | bit <;> rw [bit] <;> omega
    · show (em.roundBit || em.stickyBit) = true ↔ _
      rw [Bool.or_eq_true, round, sticky, split, double]
      rcases Nat.mod_two_eq_zero_or_one (m / 2 ^ k) with bit | bit <;> rw [bit] <;> omega

theorem roundedMantissa_shift (m k : Nat) :
    ((ExtendedMantissa.mk m false false) >>> k).roundedMantissa = roundHalfEven m (2 ^ k) := by
  obtain ⟨mantissa, round, sticky⟩ := shift_bits m k
  generalize (ExtendedMantissa.mk m false false) >>> k = em at mantissa round sticky ⊢
  obtain ⟨q, r, s⟩ := em
  obtain rfl : q = m / 2 ^ k := mantissa
  have below : m % 2 ^ k < 2 ^ k := Nat.mod_lt _ (by positivity)
  unfold roundHalfEven
  dsimp only at round sticky ⊢
  cases r <;> cases s <;>
    simp only [Bool.false_eq_true, false_iff, true_iff] at round sticky <;>
    simp only [ExtendedMantissa.roundedMantissa, ExtendedMantissa.accuracy,
      Accuracy.roundToNearestEven] <;>
    split_ifs <;> omega

theorem shiftToTargetExponent_eq {m : Nat} {e : Int} (hm : 52 ≤ m.log2)
    (he : -1074 ≤ e + (m.log2 - 52 : Nat)) :
    shiftToTargetExponent Format.binary64 m e .exact =
      ((ExtendedMantissa.mk m false false) >>> (m.log2 - 52), e + (m.log2 - 52 : Nat)) := by
  have target : Format.binary64.targetExponent (totalExponent m e) = e + (m.log2 - 52 : Nat) := by
    unfold Format.targetExponent totalExponent
    rw [show (Format.binary64.mantissaBits : Int) = 53 by decide,
      show Format.binary64.minExponent = -1074 by decide]
    omega
  have amount : (e + (m.log2 - 52 : Nat) - e).toNat = m.log2 - 52 := by omega
  unfold shiftToTargetExponent shiftToExponent
  rw [target]
  dsimp only
  rw [amount]
  rfl

/-- The arithmetic rounds to 53 bits as `rounded` does. -/
theorem roundWithAccuracy_eq (s : Sign) {m : Nat} {e : Int} (hm : 2 ^ 52 ≤ m)
    (he : -1074 ≤ e + (m.log2 - 52 : Nat)) :
    ∃ q x h, roundWithAccuracy Format.binary64 s m e .exact = .finite s q x h ∧
      2 ^ 52 ≤ q ∧ q < 2 ^ 53 ∧ e ≤ x ∧ q * 2 ^ (x - e).toNat = rounded m := by
  have nonzero : m ≠ 0 := by
    rintro rfl
    simp at hm
  have log : 52 ≤ m.log2 := (Nat.le_log2 nonzero).2 hm
  obtain ⟨low, high⟩ := mantissa_bounds hm
  have lower := div_le_roundHalfEven m (2 ^ (m.log2 - 52))
  have upper := roundHalfEven_le m (2 ^ (m.log2 - 52))
  unfold roundWithAccuracy
  rw [shiftToTargetExponent_eq log he]
  dsimp only
  rw [roundedMantissa_shift]
  unfold rounded
  generalize roundHalfEven m (2 ^ (m.log2 - 52)) = r at lower upper ⊢
  generalize m.log2 - 52 = k at he low high lower upper ⊢
  rcases Nat.lt_or_ge r (2 ^ 53) with lt | ge
  · have logr : r.log2 = 52 := (Nat.log2_eq_iff (by omega)).2 ⟨by omega, lt⟩
    rw [shiftToTargetExponent_eq (by omega) (by rw [logr]; omega), logr]
    have mantissa := (shift_bits r (52 - 52)).1
    dsimp only
    rw [Nat.sub_self, Nat.pow_zero, Nat.div_one] at mantissa
    rw [Nat.sub_self, mantissa]
    rw [dif_neg (by omega)]
    refine ⟨r, _, _, rfl, by omega, lt, by omega, ?_⟩
    congr 2
    omega
  · obtain rfl : r = 2 ^ 53 := by omega
    have logr : (2 ^ 53 : Nat).log2 = 53 := by decide
    rw [shiftToTargetExponent_eq (by omega) (by rw [logr]; omega), logr]
    have mantissa : ((ExtendedMantissa.mk (2 ^ 53) false false) >>> (53 - 52)).mantissa = 2 ^ 52 :=
      (shift_bits (2 ^ 53) (53 - 52)).1
    dsimp only
    rw [mantissa, dif_neg (by decide)]
    refine ⟨2 ^ 52, _, _, rfl, Nat.le_refl _, by decide, by omega, ?_⟩
    rw [show (e + (k : Int) + ((53 - 52 : Nat) : Int) - e).toNat = k + 1 by omega]
    ring

/-! ## Doubles as bits -/

/-- A mantissa and an exponent that a double can have, unless the exponent is too great. -/
structure Normal (q : Nat) (x : Int) : Prop where
  low : 2 ^ 52 ≤ q
  high : q < 2 ^ 53
  least : -1074 ≤ x

theorem Normal.log2 {q : Nat} {x : Int} (h : Normal q x) : q.log2 = 52 :=
  (Nat.log2_eq_iff (by have := h.low; omega)).2 ⟨h.low, h.high⟩

/-- The implicit bit in front of a mantissa. -/
theorem toNat_append_one {q : Nat} (low : 2 ^ 52 ≤ q) (high : q < 2 ^ 53) :
    (1#1 ++ BitVec.ofNat 52 q).toNat = q := by
  have bits : (BitVec.ofNat 52 q).toNat = q - 2 ^ 52 := by
    rw [BitVec.toNat_ofNat]
    omega
  rw [BitVec.toNat_append, ← Nat.shiftLeft_add_eq_or_of_lt (BitVec.isLt _), bits]
  show 1 <<< 52 + _ = _
  rw [Nat.shiftLeft_eq]
  omega

theorem pack_normal {s : Sign} {q : Nat} {x : Int} (h : Normal q x) (range : x ≤ 971)
    (pos : 0 < q) : UnpackedFloat.pack Format.binary64 (.finite s q x pos) =
      packComponents Format.binary64 s (BitVec.ofNat 11 (x + 1075).toNat) (BitVec.ofNat 52 q) := by
  have least := h.least
  have biased : (x + ((1023 : Nat) : Int) + ((52 : Nat) : Int)).toNat = (x + 1075).toNat := by omega
  unfold UnpackedFloat.pack
  dsimp only
  rw [show Format.binary64.exponentBias = 1023 by decide, biased, h.log2,
    if_neg (by rw [show (2 : Nat) ^ 11 = 2048 by decide]; omega), if_pos (by decide)]

theorem unpack_packComponents {s : Sign} {q : Nat} {x : Int} (h : Normal q x) (range : x ≤ 971)
    (pos : 0 < q) :
    UnpackedFloat.unpack Format.binary64 (packComponents Format.binary64 s
      (BitVec.ofNat 11 (x + 1075).toNat) (BitVec.ofNat 52 q)) = .finite s q x pos := by
  have least := h.least
  have exponent : (BitVec.ofNat 11 (x + 1075).toNat).toNat = (x + 1075).toNat := by
    rw [BitVec.toNat_ofNat, Nat.mod_eq_of_lt (by omega)]
  have notOnes : BitVec.ofNat 11 (x + 1075).toNat ≠ -1#11 := by
    intro e
    have := congrArg BitVec.toNat e
    rw [exponent, show (-1#11 : BitVec 11).toNat = 2047 by decide] at this
    omega
  have notZero : BitVec.ofNat 11 (x + 1075).toNat ≠ 0#11 := by
    intro e
    have := congrArg BitVec.toNat e
    rw [exponent, show (0#11 : BitVec 11).toNat = 0 by decide] at this
    omega
  have bias : Format.binary64.exponentBias = 1023 := by decide
  simp only [UnpackedFloat.unpack, unpackExponent_packComponents, unpackMantissa_packComponents,
    unpackSign_packComponents, Sign.ofBitVec_toBitVec, notOnes, notZero, ↓reduceIte, exponent,
    toNat_append_one h.low h.high, bias]
  congr 1
  omega

/-- A double comes back from its bits. -/
theorem unpack_pack {s : Sign} {q : Nat} {x : Int} (h : Normal q x) (range : x ≤ 971)
    (pos : 0 < q) : (Float.Model.pack (.finite s q x pos)).unpack = .finite s q x pos := by
  show UnpackedFloat.unpack Format.binary64 (UnpackedFloat.pack Format.binary64 _) = _
  rw [pack_normal h range]
  exact unpack_packComponents h range pos

/-- A result is infinite if its exponent is too great for a double. -/
theorem isInf_pack {s : Sign} {q : Nat} {x : Int} (h : Normal q x) (pos : 0 < q) :
    (Float.Model.pack (.finite s q x pos)).isInf = true ↔ 972 ≤ x := by
  rcases lt_or_ge 971 x with gt | le
  · refine iff_of_true ?_ gt
    have infinite : UnpackedFloat.pack Format.binary64 (.finite s q x pos) =
        packedInfinity Format.binary64 s := by
      unfold UnpackedFloat.pack
      dsimp only
      rw [show Format.binary64.exponentBias = 1023 by decide,
        if_pos (by rw [show (2 : Nat) ^ 11 = 2048 by decide]; omega)]
    show (UnpackedFloat.unpack Format.binary64 (UnpackedFloat.pack Format.binary64 _)).isInf = true
    rw [infinite]
    cases s <;> decide
  · refine iff_of_false ?_ (by omega)
    unfold Float.Model.isInf
    rw [unpack_pack h le]
    exact Bool.false_ne_true

end HostWatch.Decimal
