import HostWatch.Decimal.Shortest
import HostWatch.Proofs.Decimal.Overflow

/-!
# The shortest decimal of a double is in range

`shortest_fits`: the shortest decimal of a finite double has at most seventeen digits, and these
digits times their power of ten are not too large for a double. So its text can be read back.

1. The decade of a double is found by an estimate that is checked for every exponent
   (`decade_spec`).
2. On the grid of seventeen digits the window of a double is wider than a step, so the search ends
   (`nearest?_ne_none`); what it finds lies in the window (`Window.Holds`).
3. The window ends halfway behind the greatest double. In front of that end only one decimal of
   seventeen digits is too large once it is multiplied out, and it is not the nearest one.
-/

namespace HostWatch.Decimal

open HostWatch.Json (greatestPower)

/-! ## Values -/

/-- The value of a binary fraction. -/
def Binary.toRat (b : Binary) : ℚ := b.mantissa * 2 ^ b.exponent

/-- A binary fraction that is a finite double. -/
structure Binary.IsDouble (b : Binary) : Prop where
  pos : 0 < b.mantissa
  high : b.mantissa < 2 ^ 53
  least : -1074 ≤ b.exponent
  greatest : b.exponent ≤ 971
  narrow : b.narrowBelow = true → b.mantissa = 2 ^ 52

theorem isDouble_ofBits {bits : Nat} {b : Binary} (h : Magnitude.ofBits bits = .finite b) :
    b.IsDouble := by
  have fraction : bits % Nat.pow 2 52 < Nat.pow 2 52 := Nat.mod_lt _ (by decide)
  have biased : bits / Nat.pow 2 52 % Nat.pow 2 11 < Nat.pow 2 11 := Nat.mod_lt _ (by decide)
  unfold Magnitude.ofBits at h
  dsimp only at h
  generalize bits / Nat.pow 2 52 % Nat.pow 2 11 = e at h biased
  generalize bits % Nat.pow 2 52 = f at h fraction
  rw [show Nat.pow 2 11 = 2048 by decide] at biased
  rw [show Nat.pow 2 52 = 4503599627370496 by decide] at fraction h
  split_ifs at h
  · obtain rfl := Magnitude.finite.inj h
    exact ⟨by dsimp only; omega, by dsimp only; omega, by dsimp only; omega, by dsimp only; omega,
      by simp⟩
  · obtain rfl := Magnitude.finite.inj h
    refine ⟨by dsimp only; omega, by dsimp only; omega, ?_, ?_, ?_⟩
    · show -1074 ≤ (e : Int) - 1075
      omega
    · show (e : Int) - 1075 ≤ 971
      omega
    · intro narrow
      obtain ⟨zero, -⟩ := of_decide_eq_true narrow
      show f + 4503599627370496 = 2 ^ 52
      omega

theorem zpow_mul_toNat {a : ℚ} (ha : a ≠ 0) (k : ℤ) : a ^ k * a ^ (-k).toNat = a ^ k.toNat := by
  rw [← zpow_natCast, ← zpow_natCast, ← zpow_add₀ ha]
  congr 1
  omega

/-! ## The decade -/

theorem Binary.quotient_eq (b : Binary) :
    (b.quotient.1 : ℚ) = b.toRat * b.quotient.2 ∧ (0 : ℚ) < b.quotient.2 := by
  have power := zpow_mul_toNat (show (2 : ℚ) ≠ 0 by norm_num) b.exponent
  unfold quotient toRat
  split_ifs with nonneg
  · rw [show (-b.exponent).toNat = 0 by omega, pow_zero, mul_one] at power
    simp [Nat.pow_eq, power]
  · rw [show b.exponent.toNat = 0 by omega, pow_zero] at power
    simp [Nat.pow_eq, mul_assoc, power]

theorem Binary.isBelow_iff (b : Binary) (d : ℤ) :
    b.quotient.1 * Nat.pow 10 (-d).toNat < b.quotient.2 * Nat.pow 10 d.toNat ↔
      b.toRat < 10 ^ d := by
  obtain ⟨num, pos⟩ := b.quotient_eq
  have power := zpow_mul_toNat (show (10 : ℚ) ≠ 0 by norm_num) d
  have scale : (0 : ℚ) < 10 ^ (-d).toNat := by positivity
  rw [← Nat.cast_lt (α := ℚ)]
  simp only [Nat.pow_eq, Nat.cast_mul, Nat.cast_pow, Nat.cast_ofNat, num, ← power]
  rw [show b.toRat * b.quotient.2 * 10 ^ (-d).toNat = b.toRat * (b.quotient.2 * 10 ^ (-d).toNat) by
      ring, show (b.quotient.2 : ℚ) * (10 ^ d * 10 ^ (-d).toNat) =
        10 ^ d * (b.quotient.2 * 10 ^ (-d).toNat) by ring]
  exact mul_lt_mul_iff_left₀ (mul_pos pos scale)

/-- The power of two below a double and the one above it. -/
theorem Binary.IsDouble.toRat_bounds {b : Binary} (h : b.IsDouble) :
    (2 : ℚ) ^ ((b.mantissa.log2 : ℤ) + b.exponent) ≤ b.toRat ∧
      b.toRat < 2 ^ ((b.mantissa.log2 : ℤ) + b.exponent + 1) := by
  have scale : (0 : ℚ) < 2 ^ b.exponent := by positivity
  have low : (2 : ℚ) ^ b.mantissa.log2 ≤ b.mantissa := by
    exact_mod_cast two_pow_log2_le h.pos.ne'
  have high : (b.mantissa : ℚ) < 2 ^ (b.mantissa.log2 + 1) := by
    exact_mod_cast lt_two_pow_log2 b.mantissa
  constructor
  · rw [zpow_add₀ (by norm_num), zpow_natCast]
    exact mul_le_mul_of_nonneg_right low scale.le
  · rw [show (b.mantissa.log2 : ℤ) + b.exponent + 1 = (b.mantissa.log2 + 1 : ℕ) + b.exponent by
        push_cast; ring, zpow_add₀ (by norm_num), zpow_natCast]
    exact mul_lt_mul_of_pos_right high scale

/-- Powers are compared in natural numbers once negative exponents have changed sides. -/
theorem zpow_le_zpow_iff {a b : ℕ} (ha : 0 < a) (hb : 0 < b) (k l : ℤ) :
    (a : ℚ) ^ k ≤ (b : ℚ) ^ l ↔ a ^ k.toNat * b ^ (-l).toNat ≤ b ^ l.toNat * a ^ (-k).toNat := by
  have scale : (0 : ℚ) < a ^ (-k).toNat * b ^ (-l).toNat := by positivity
  have powerA := zpow_mul_toNat (show (a : ℚ) ≠ 0 by positivity) k
  have powerB := zpow_mul_toNat (show (b : ℚ) ≠ 0 by positivity) l
  rw [← Nat.cast_le (α := ℚ)]
  push_cast
  rw [← powerA, ← powerB, show (a : ℚ) ^ k * a ^ (-k).toNat * b ^ (-l).toNat =
      a ^ k * (a ^ (-k).toNat * b ^ (-l).toNat) by ring, show (b : ℚ) ^ l * b ^ (-l).toNat *
      a ^ (-k).toNat = b ^ l * (a ^ (-k).toNat * b ^ (-l).toNat) by ring]
  exact (mul_le_mul_iff_left₀ scale).symm

/-- A guess at the number of decimal digits of `2 ^ e`. -/
def digitsGuess (e : ℤ) : ℤ := e * 30103 / 100000

/-- The guess is at most one too great, and less than two too small. -/
theorem digitsGuess_spec {e : ℤ} (least : -1074 ≤ e) (greatest : e ≤ 1023) :
    (10 : ℚ) ^ (digitsGuess e - 1) ≤ 2 ^ e ∧ (2 : ℚ) ^ (e + 1) ≤ 10 ^ (digitsGuess e + 2) := by
  have all : ∀ i < 2098,
      let e : ℤ := Int.ofNat i - 1074
      let low := digitsGuess e - 1
      let high := digitsGuess e + 2
      10 ^ low.toNat * 2 ^ (-e).toNat ≤ 2 ^ e.toNat * 10 ^ (-low).toNat ∧
      2 ^ (e + 1).toNat * 10 ^ (-high).toNat ≤ 10 ^ high.toNat * 2 ^ (-(e + 1)).toNat := by
    decide +kernel
  obtain ⟨low, high⟩ := all (e + 1074).toNat (by omega)
  rw [show Int.ofNat (e + 1074).toNat - 1074 = e by simp; omega] at low high
  exact ⟨(zpow_le_zpow_iff (by decide) (by decide) _ _).2 low,
    (zpow_le_zpow_iff (by decide) (by decide) _ _).2 high⟩

/-- The decade of a double. -/
theorem decade_spec {b : Binary} (h : b.IsDouble) :
    (10 : ℚ) ^ (b.decade - 1) ≤ b.toRat ∧ b.toRat < 10 ^ b.decade := by
  obtain ⟨low, high⟩ := h.toRat_bounds
  have log : b.mantissa.log2 < 53 := (Nat.log2_lt h.pos.ne').2 h.high
  have := h.least
  have := h.greatest
  obtain ⟨below, above⟩ :=
    digitsGuess_spec (e := (b.mantissa.log2 : ℤ) + b.exponent) (by omega) (by omega)
  unfold Binary.decade
  dsimp only
  simp only [decide_eq_true_eq, b.isBelow_iff]
  rw [show ((b.mantissa.log2 : ℤ) + b.exponent) * 30103 / 100000 =
    digitsGuess (b.mantissa.log2 + b.exponent) from rfl]
  generalize digitsGuess (b.mantissa.log2 + b.exponent) = d at below above ⊢
  split_ifs with first second
  · exact ⟨below.trans low, first⟩
  · rw [add_sub_cancel_right]
    exact ⟨le_of_not_gt first, second⟩
  · rw [show d + 2 - 1 = d + 1 by ring]
    exact ⟨le_of_not_gt second, high.trans_le above⟩

theorem le_decade {b : Binary} (h : b.IsDouble) : -324 ≤ b.decade := by
  have := h.least
  unfold Binary.decade
  dsimp only
  split_ifs <;> omega

/-! ## Windows -/

section Windows

variable (b : Binary) (k : ℤ)

theorem Binary.step_pos : 0 < (b.window k).step := by
  show 0 < Nat.pow 10 k.toNat * Nat.pow 2 (-(b.exponent - 2)).toNat
  simp only [Nat.pow_eq]
  positivity

/-- A quarter of the last place, on the grid of multiples of `10 ^ k`. -/
theorem Binary.quarter_eq :
    ((Nat.pow 2 (b.exponent - 2).toNat * Nat.pow 10 (-k).toNat : ℕ) : ℚ) * 10 ^ k =
      2 ^ b.exponent / 4 * (b.window k).step := by
  have power10 := zpow_mul_toNat (show (10 : ℚ) ≠ 0 by norm_num) k
  have power2 := zpow_mul_toNat (show (2 : ℚ) ≠ 0 by norm_num) (b.exponent - 2)
  rw [zpow_sub₀ (by norm_num)] at power2
  show _ = _ * ((Nat.pow 10 k.toNat * Nat.pow 2 (-(b.exponent - 2)).toNat : ℕ) : ℚ)
  simp only [Nat.pow_eq, Nat.cast_mul, Nat.cast_pow, Nat.cast_ofNat, ← power10, ← power2]
  ring

theorem Binary.value_eq :
    ((b.window k).value : ℚ) * 10 ^ k = b.toRat * (b.window k).step := by
  have quarter := b.quarter_eq k
  show ((4 * b.mantissa * (Nat.pow 2 (b.exponent - 2).toNat * Nat.pow 10 (-k).toNat) : ℕ) : ℚ) *
    10 ^ k = _
  rw [Nat.cast_mul, mul_assoc, quarter]
  unfold Binary.toRat
  push_cast
  ring

theorem Binary.high_eq :
    ((b.window k).high : ℚ) * 10 ^ k = (b.toRat + 2 ^ b.exponent / 2) * (b.window k).step := by
  have quarter := b.quarter_eq k
  show (((4 * b.mantissa + 2) * (Nat.pow 2 (b.exponent - 2).toNat * Nat.pow 10 (-k).toNat) : ℕ) :
    ℚ) * 10 ^ k = _
  rw [Nat.cast_mul, mul_assoc, quarter]
  unfold Binary.toRat
  push_cast
  ring

variable {b k}

/-- A point of the window is at most half of the last place above the double. -/
theorem Window.Holds.le {c : ℕ} (h : (b.window k).Holds c) :
    (c : ℚ) * 10 ^ k ≤ b.toRat + 2 ^ b.exponent / 2 := by
  have step : (0 : ℚ) < (b.window k).step := by exact_mod_cast b.step_pos k
  have point : c * (b.window k).step ≤ (b.window k).high := by
    unfold Window.Holds at h
    split_ifs at h
    · exact h.2
    · exact h.2.le
  have point : (c : ℚ) * (b.window k).step ≤ (b.window k).high := by exact_mod_cast point
  refine le_of_mul_le_mul_right ?_ step
  rw [← b.high_eq]
  calc (c : ℚ) * 10 ^ k * (b.window k).step = c * (b.window k).step * 10 ^ k := by ring
    _ ≤ _ := by gcongr

/-- It is less than that if the mantissa is odd. -/
theorem Window.Holds.lt {c : ℕ} (h : (b.window k).Holds c) (odd : b.mantissa % 2 = 1) :
    (c : ℚ) * 10 ^ k < b.toRat + 2 ^ b.exponent / 2 := by
  have step : (0 : ℚ) < (b.window k).step := by exact_mod_cast b.step_pos k
  have isOpen : (b.window k).closed = false := by
    show decide (b.mantissa % 2 = 0) = false
    rw [odd]
    rfl
  unfold Window.Holds at h
  rw [isOpen, if_neg Bool.false_ne_true] at h
  have point : (c : ℚ) * (b.window k).step < (b.window k).high := by exact_mod_cast h.2
  refine lt_of_mul_lt_mul_right ?_ step.le
  rw [← b.high_eq]
  calc (c : ℚ) * 10 ^ k * (b.window k).step = c * (b.window k).step * 10 ^ k := by ring
    _ < _ := by gcongr

theorem unit_pos (b : Binary) (k : ℤ) :
    0 < Nat.pow 2 (b.exponent - 2).toNat * Nat.pow 10 (-k).toNat :=
  Nat.mul_pos (Nat.pow_pos (by decide)) (Nat.pow_pos (by decide))

theorem Window.Holds.pos {c : ℕ} (h : (b.window k).Holds c) (mantissa : 0 < b.mantissa) :
    0 < c := by
  rcases Nat.eq_zero_or_pos c with rfl | pos
  · exfalso
    have low : 0 < (b.window k).low := by
      refine Nat.mul_pos ?_ (unit_pos b k)
      show 0 < 4 * b.mantissa - (if b.narrowBelow then 1 else 2)
      split_ifs <;> omega
    unfold Window.Holds at h
    rw [Nat.zero_mul] at h
    split_ifs at h <;> omega
  · exact pos

theorem Window.nearest?_spec {w : Window} {c : ℕ} (h : w.nearest? = some c) :
    w.Holds c ∧ c ≤ w.value / w.step + 1 := by
  unfold Window.nearest? at h
  dsimp only at h
  split at h
  · cases h
  · next below _ =>
    obtain rfl := Option.some.inj h
    exact ⟨of_decide_eq_true below, Nat.le_succ _⟩
  · next _ above =>
    obtain rfl := Option.some.inj h
    exact ⟨of_decide_eq_true above, Nat.le_refl _⟩
  · next below above =>
    split_ifs at h <;> obtain rfl := Option.some.inj h
    · exact ⟨of_decide_eq_true below, Nat.le_succ _⟩
    · exact ⟨of_decide_eq_true above, Nat.le_refl _⟩
    · exact ⟨of_decide_eq_true below, Nat.le_succ _⟩
    · exact ⟨of_decide_eq_true above, Nat.le_refl _⟩

/-- If no neighbour of the value on the grid lies in the window, one step leads over all of it. -/
theorem Window.high_le {w : Window} (none : w.nearest? = none) (pos : 0 < w.step)
    (belowValue : w.low ≤ w.value) (aboveValue : w.value < w.high) : w.high ≤ w.low + w.step := by
  have below : w.value / w.step * w.step ≤ w.value := Nat.div_mul_le_self _ _
  have above : w.value < (w.value / w.step + 1) * w.step :=
    Nat.lt_mul_of_div_lt (Nat.lt_succ_self _) pos
  have outside : ¬ w.Holds (w.value / w.step) ∧ ¬ w.Holds (w.value / w.step + 1) := by
    unfold Window.nearest? at none
    dsimp only at none
    split at none
    · next hb ha => exact ⟨of_decide_eq_false hb, of_decide_eq_false ha⟩
    · cases none
    · cases none
    · split_ifs at none
  obtain ⟨hb, ha⟩ := outside
  unfold Window.Holds at hb ha
  rw [Nat.add_mul, Nat.one_mul] at above ha
  split_ifs at hb ha <;> omega

/-- The parts of the window in quarters of the last place, of which it has three or four. -/
theorem window_quarters (h : b.IsDouble) (k : ℤ) : ∃ u δ, 0 < u ∧
    4 * b.mantissa < (2 + δ) * 10 ^ 16 ∧ (b.window k).value = 4 * b.mantissa * u ∧
    (b.window k).low ≤ (b.window k).value ∧ (b.window k).value < (b.window k).high ∧
    (b.window k).high = (b.window k).low + (2 + δ) * u := by
  have pos := unit_pos b k
  refine ⟨_, if b.narrowBelow then 1 else 2, pos, ?_, rfl, Nat.mul_le_mul_right _ (Nat.sub_le ..),
    Nat.mul_lt_mul_of_pos_right (by omega) pos, ?_⟩
  · have := h.high
    split_ifs with narrow
    · rw [h.narrow narrow]
      decide
    · omega
  · have := h.pos
    show (4 * b.mantissa + 2) * _ = (4 * b.mantissa - (if b.narrowBelow then 1 else 2)) * _ + _
    rw [← Nat.add_mul]
    congr 1
    split_ifs <;> omega

theorem step_le (low : (10 : ℚ) ^ (k + 16) ≤ b.toRat) :
    (b.window k).step * 10 ^ 16 ≤ (b.window k).value := by
  have scale : (0 : ℚ) < 10 ^ k := by positivity
  rw [zpow_add₀ (by norm_num)] at low
  rw [← Nat.cast_le (α := ℚ)]
  push_cast
  refine le_of_mul_le_mul_right ?_ scale
  rw [b.value_eq]
  calc ((b.window k).step : ℚ) * 10 ^ 16 * 10 ^ k = 10 ^ k * 10 ^ (16 : ℤ) * (b.window k).step := by
        norm_num
        ring
    _ ≤ _ := by gcongr

/-- A step of the grid of seventeen digits is shorter than the window of a double. -/
theorem nearest?_ne_none (h : b.IsDouble) (low : (10 : ℚ) ^ (k + 16) ≤ b.toRat) :
    (b.window k).nearest? ≠ none := by
  intro none
  obtain ⟨u, δ, upos, mantissa, value, belowValue, aboveValue, high⟩ := window_quarters h k
  have wide := Window.high_le none (b.step_pos k) belowValue aboveValue
  have : (2 + δ) * 10 ^ 16 * u ≤ 4 * b.mantissa * u := by
    calc (2 + δ) * 10 ^ 16 * u = (2 + δ) * u * 10 ^ 16 := by ring
      _ ≤ (b.window k).step * 10 ^ 16 := Nat.mul_le_mul_right _ (by omega)
      _ ≤ 4 * b.mantissa * u := value ▸ step_le low
  have := Nat.le_of_mul_le_mul_right this upos
  omega

end Windows

/-! ## The shortest decimal -/

/-- Trailing zeros are moved into the exponent. -/
theorem trimmed_spec {c : ℕ} (pos : 0 < c) (k : ℤ) :
    0 < (Scientific.trimmed c k).digits ∧ k ≤ (Scientific.trimmed c k).exponent ∧
      (Scientific.trimmed c k).digits * 10 ^ ((Scientific.trimmed c k).exponent - k).toNat = c := by
  induction c using Nat.strongRecOn generalizing k with
  | ind c ih =>
    rw [Scientific.trimmed]
    split_ifs with zero
    · obtain ⟨digits, exponent, eq⟩ := ih (c / 10) (by omega) (by omega) (k + 1)
      refine ⟨digits, by omega, ?_⟩
      generalize Scientific.trimmed (c / 10) (k + 1) = s at digits exponent eq
      rw [show (s.exponent - k).toNat = (s.exponent - (k + 1)).toNat + 1 by omega, pow_succ,
        ← mul_assoc, eq]
      omega
    · exact ⟨pos, le_refl k, by simp⟩

/-- The search ends on one of the grids. -/
theorem shortest_hit {b : Binary} (h : b.IsDouble) :
    ∃ n ≤ 16, ∃ c, (b.window (b.decade - Int.ofNat (n + 1))).nearest? = some c ∧
      b.shortest = Scientific.trimmed c (b.decade - Int.ofNat (n + 1)) := by
  let search (n : ℕ) : Option Scientific :=
    (b.window (b.decade - Int.ofNat (n + 1))).nearest?.map fun c =>
      Scientific.trimmed c (b.decade - Int.ofNat (n + 1))
  have last : search 16 ≠ none := by
    intro none
    refine nearest?_ne_none h ?_ (Option.map_eq_none_iff.1 none)
    rw [show b.decade - Int.ofNat (16 + 1) + 16 = b.decade - 1 by simp; ring]
    exact (decade_spec h).1
  unfold Binary.shortest
  dsimp only
  change ∃ n ≤ 16, ∃ c, _ ∧ (((List.range 17).findSome? search).getD _) = _
  cases found : (List.range 17).findSome? search with
  | none => exact absurd (List.findSome?_eq_none_iff.1 found 16 (by simp)) last
  | some s =>
    obtain ⟨n, mem, hit⟩ := List.exists_of_findSome?_eq_some found
    obtain ⟨c, nearest, rfl⟩ := Option.map_eq_some_iff.1 hit
    exact ⟨n, Nat.le_of_lt_succ (List.mem_range.1 mem), c, nearest, rfl⟩

/-- What the search finds has no more digits than the grid. -/
theorem hit_le {b : Binary} (h : b.IsDouble) {n c : ℕ}
    (hit : (b.window (b.decade - Int.ofNat (n + 1))).nearest? = some c) : c ≤ 10 ^ (n + 1) := by
  obtain ⟨-, near⟩ := Window.nearest?_spec hit
  have scale : (0 : ℚ) < 10 ^ (b.decade - Int.ofNat (n + 1)) := by positivity
  have step : (0 : ℚ) < (b.window (b.decade - Int.ofNat (n + 1))).step := by
    exact_mod_cast b.step_pos _
  have below : (b.window (b.decade - Int.ofNat (n + 1))).value <
      (b.window (b.decade - Int.ofNat (n + 1))).step * 10 ^ (n + 1) := by
    rw [← Nat.cast_lt (α := ℚ)]
    push_cast
    refine lt_of_mul_lt_mul_right ?_ scale.le
    rw [b.value_eq, mul_assoc, mul_comm]
    gcongr
    rw [← zpow_natCast, ← zpow_add₀ (by norm_num),
      show ((n + 1 : ℕ) : ℤ) + (b.decade - Int.ofNat (n + 1)) = b.decade by simp]
    exact (decade_spec h).2
  have := Nat.div_lt_of_lt_mul below
  omega

/-! ## The greatest double -/

/-- The greatest double. -/
def greatestDouble : Binary := ⟨2 ^ 53 - 1, 971, false⟩

/-- Half of the last place of the greatest double. -/
def lastHalf : ℕ := 2 ^ 970

/-- Halfway from the greatest double to the one that would follow it. -/
def limit : ℕ := (2 ^ 54 - 1) * lastHalf

theorem lastHalf_pos : (0 : ℚ) < lastHalf := by
  have : 0 < lastHalf := by
    unfold lastHalf
    positivity
  exact_mod_cast this

theorem zpow_eq_lastHalf : (2 : ℚ) ^ (970 : ℤ) = lastHalf := by
  unfold lastHalf
  rw [Nat.cast_pow, ← zpow_natCast]
  rfl

theorem zpow_le_lastHalf {e : ℤ} (h : e < 971) : (2 : ℚ) ^ e ≤ lastHalf := by
  rw [← zpow_eq_lastHalf]
  exact zpow_le_zpow_right₀ (by norm_num) (by omega)

theorem zpow_eq_two_lastHalf : (2 : ℚ) ^ (971 : ℤ) = 2 * lastHalf := by
  rw [← zpow_eq_lastHalf, ← zpow_one_add₀ (by norm_num)]
  rfl

/-- The windows of the other doubles end at least two halves of the last place earlier. -/
theorem window_le {b : Binary} (h : b.IsDouble) :
    b = greatestDouble ∨ b.toRat + 2 ^ b.exponent / 2 ≤ (2 ^ 54 - 3) * lastHalf := by
  have scale := lastHalf_pos
  rcases Int.lt_or_le b.exponent 971 with small | great
  · right
    have mantissa : (b.mantissa : ℚ) ≤ 2 ^ 53 := by exact_mod_cast h.high.le
    have power := zpow_le_lastHalf small
    have positive : (0 : ℚ) < 2 ^ b.exponent := by positivity
    unfold Binary.toRat
    calc (b.mantissa : ℚ) * 2 ^ b.exponent + 2 ^ b.exponent / 2
        = (b.mantissa + 1 / 2) * 2 ^ b.exponent := by ring
      _ ≤ (2 ^ 53 + 1 / 2) * lastHalf := by gcongr
      _ ≤ (2 ^ 54 - 3) * lastHalf := mul_le_mul_of_nonneg_right (by norm_num) scale.le
  have exponent : b.exponent = 971 := le_antisymm h.greatest great
  rcases Nat.lt_or_ge b.mantissa (2 ^ 53 - 1) with lt | ge
  · right
    have mantissa : (b.mantissa : ℚ) + 2 ≤ 2 ^ 53 := by
      have : b.mantissa + 2 ≤ 2 ^ 53 := by omega
      exact_mod_cast this
    unfold Binary.toRat
    rw [exponent, zpow_eq_two_lastHalf]
    calc (b.mantissa : ℚ) * (2 * lastHalf) + 2 * lastHalf / 2 = (2 * b.mantissa + 1) * lastHalf := by
          ring
      _ ≤ (2 ^ 54 - 3) * lastHalf := mul_le_mul_of_nonneg_right (by linarith) scale.le
  · left
    have := h.high
    obtain ⟨m, e, narrow⟩ := b
    dsimp only at *
    obtain rfl : m = 2 ^ 53 - 1 := by omega
    obtain rfl := exponent
    cases narrow with
    | false => rfl
    | true => exact absurd (h.narrow rfl) (by decide)

/-- What the search finds lies before the limit. -/
theorem hit_lt_limit {b : Binary} (h : b.IsDouble) {k : ℤ} {c : ℕ}
    (hit : (b.window k).Holds c) : (c : ℚ) * 10 ^ k < limit := by
  unfold limit
  push_cast
  rcases window_le h with rfl | le
  · refine (hit.lt (by decide)).trans_le (le_of_eq ?_)
    unfold Binary.toRat greatestDouble
    dsimp only
    rw [zpow_eq_two_lastHalf]
    push_cast
    ring
  · refine (hit.le.trans le).trans_lt ?_
    exact mul_lt_mul_of_pos_right (by norm_num) lastHalf_pos

/-! ## Digits times a power of ten -/

/-- Before the limit the digits are not too large for their power of ten, but for one number. -/
theorem not_overflows_of_lt_limit {d x : ℕ} (pos : 0 < d) (hx : 292 ≤ x)
    (before : d * 10 ^ x < limit) (other : ¬ (d = 17976931348623158 ∧ x = 292)) :
    x ≤ greatestPower ∧ ¬ Overflows d x := by
  have powers : x ≤ greatestPower := by
    by_contra gt
    have : limit ≤ 10 ^ (greatestPower + 1) := by decide +kernel
    have : 10 ^ (greatestPower + 1) ≤ 10 ^ x := Nat.pow_le_pow_right (by decide) (Nat.lt_of_not_le gt)
    have : 1 * 10 ^ x ≤ d * 10 ^ x := Nat.mul_le_mul_right _ pos
    omega
  refine ⟨powers, fun overflows => ?_⟩
  have quotient : d ≤ (limit - 1) / 10 ^ x :=
    (Nat.le_div_iff_mul_le (by positivity)).2 (by omega)
  rcases Nat.eq_or_lt_of_le hx with rfl | gt
  · have : (limit - 1) / 10 ^ 292 = 17976931348623158 := by decide +kernel
    exact absurd (overflows.mono (n := 17976931348623157) (l := 292) pos (by omega) (le_refl _))
      (by decide +kernel)
  · have all : ∀ x ≤ greatestPower, 292 < x → ¬ Overflows ((limit - 1) / 10 ^ x) x := by decide +kernel
    exact all x powers gt (overflows.mono pos quotient (le_refl x))

/-- The number that is left out before the limit is no shortest decimal: another one is nearer to the
greatest double. -/
theorem hit_ne {b : Binary} (h : b.IsDouble) {n c : ℕ} (hn : n ≤ 16)
    (hit : (b.window (b.decade - Int.ofNat (n + 1))).nearest? = some c)
    (least : b.decade - Int.ofNat (n + 1) ≤ 292) :
    (c : ℚ) * 10 ^ (b.decade - Int.ofNat (n + 1)) ≠ 17976931348623158 * 10 ^ (292 : ℤ) := by
  intro same
  obtain ⟨holds, -⟩ := Window.nearest?_spec hit
  rcases window_le h with rfl | le
  · have decade : greatestDouble.decade = 309 := by decide +kernel
    rw [decade] at hit least same
    obtain rfl : n = 16 := by
      have : (309 : ℤ) - Int.ofNat (n + 1) ≤ 292 := least
      simp only [Int.ofNat_eq_natCast] at this
      omega
    have nearest : (greatestDouble.window 292).nearest? = some 17976931348623157 := by
      decide +kernel
    obtain rfl := Option.some.inj (nearest.symm.trans hit)
    have := mul_right_cancel₀ (zpow_ne_zero 292 (by norm_num)) same
    norm_num at this
  · have order : (2 ^ 54 - 3) * lastHalf < 17976931348623158 * 10 ^ 292 := by decide +kernel
    have order : (((2 ^ 54 - 3) * lastHalf : ℕ) : ℚ) < (17976931348623158 * 10 ^ 292 : ℕ) := by
      exact_mod_cast order
    have point := holds.le.trans le
    rw [same] at point
    rw [Nat.cast_mul, Nat.cast_mul, Nat.cast_pow, ← zpow_natCast] at order
    have number : (((2 : ℕ) ^ 54 - 3 : ℕ) : ℚ) = 2 ^ 54 - 3 := by norm_num
    rw [number] at order
    exact absurd point (not_le_of_gt order)

/-- **The shortest decimal** of a finite double can be multiplied out again: it has digits, few
enough for 64 bits, and they are not too large for their power of ten. -/
theorem shortest_fits {b : Binary} (h : b.IsDouble) :
    0 < b.shortest.digits ∧ b.shortest.digits ≤ 10 ^ 17 ∧ -341 ≤ b.shortest.exponent ∧
      Fits b.shortest.digits b.shortest.exponent := by
  obtain ⟨n, hn, c, hit, eq⟩ := shortest_hit h
  obtain ⟨holds, -⟩ := Window.nearest?_spec hit
  obtain ⟨pos, exponent, value⟩ := trimmed_spec (holds.pos h.pos) (b.decade - Int.ofNat (n + 1))
  have small : c ≤ 10 ^ 17 :=
    (hit_le h hit).trans (Nat.pow_le_pow_right (by decide) (by omega))
  have before := hit_lt_limit h holds
  have decade := le_decade h
  have grid : Int.ofNat (n + 1) ≤ 17 := Int.ofNat_le.2 (Nat.succ_le_succ hn)
  rw [eq]
  generalize Scientific.trimmed c (b.decade - Int.ofNat (n + 1)) = s at pos exponent value ⊢
  have digits : s.digits ≤ c := by
    rw [← value]
    exact Nat.le_mul_of_pos_right _ (by positivity)
  refine ⟨pos, digits.trans small, by omega, ?_⟩
  unfold Fits
  rcases Int.lt_or_le s.exponent 0 with neg | nonneg
  · exact .inl neg
  right
  rcases Int.lt_or_le s.exponent 292 with lt | ge
  · have : greatestPower = 308 := rfl
    refine ⟨by omega, fun overflows => ?_⟩
    exact absurd (overflows.mono (n := 10 ^ 17) (l := 291) pos (digits.trans small) (by omega))
      (by decide +kernel)
  have product : (c : ℚ) * 10 ^ (b.decade - Int.ofNat (n + 1)) =
      (s.digits * 10 ^ s.exponent.toNat : ℕ) := by
    rw [← value]
    push_cast
    rw [mul_assoc, ← zpow_natCast, ← zpow_natCast, ← zpow_add₀ (by norm_num)]
    congr 2
    omega
  have before : s.digits * 10 ^ s.exponent.toNat < limit := by
    rw [product] at before
    exact_mod_cast before
  have other : ¬ (s.digits = 17976931348623158 ∧ s.exponent.toNat = 292) := by
    rintro ⟨number, power⟩
    refine hit_ne h hn hit (by omega) ?_
    rw [product, number, power, Nat.cast_mul, Nat.cast_pow, ← zpow_natCast]
    rfl
  obtain ⟨powers, fits⟩ := not_overflows_of_lt_limit pos (by omega) before other
  exact ⟨by omega, fits⟩

end HostWatch.Decimal
