import HostWatch.Json.Number
import HostWatch.Proofs.Json.QuotedText
import Mathlib.Tactic.Ring

/-!
# Numerals are read back

`digits_append`: digits are read up to the first byte that is none.

1. The digits of a natural number are those that `toString` writes (`utf8_toString`); they
   evaluate to it (`valueOf_digitsOf`), and only zero begins with a zero (`head?_digitsOf`).
2. Digits that stay within a limit are accumulated to their value (`accumulate_eq`), and no digit
   is left over.
-/

namespace HostWatch.Json

/-! ## Digits and their value -/

/-- The number that digits write behind those of `n`. -/
def valueOf (n : Nat) (ds : List Nat) : Nat := ds.foldl (fun n d => n * 10 + d) n

theorem valueOf_append (n : Nat) (ds es : List Nat) :
    valueOf n (ds ++ es) = valueOf (valueOf n ds) es := List.foldl_append

theorem le_valueOf (n : Nat) (ds : List Nat) : n ≤ valueOf n ds := by
  induction ds generalizing n with
  | nil => exact Nat.le_refl n
  | cons d ds ih =>
    have := ih (n * 10 + d)
    show n ≤ valueOf (n * 10 + d) ds
    omega

theorem valueOf_replicate_zero (n k : Nat) : valueOf n (List.replicate k 0) = n * 10 ^ k := by
  induction k generalizing n with
  | zero => simp [valueOf]
  | succ k ih =>
    show valueOf (n * 10 + 0) (List.replicate k 0) = n * 10 ^ (k + 1)
    rw [ih]
    ring

theorem valueOf_lt {ds : List Nat} (digits : ∀ d ∈ ds, d < 10) (n : Nat) :
    valueOf n ds < (n + 1) * 10 ^ ds.length := by
  induction ds generalizing n with
  | nil => simp [valueOf]
  | cons d ds ih =>
    have := digits d List.mem_cons_self
    calc valueOf (n * 10 + d) ds < (n * 10 + d + 1) * 10 ^ ds.length :=
          ih (fun d hd => digits d (List.mem_cons_of_mem _ hd)) _
      _ ≤ (n + 1) * 10 * 10 ^ ds.length := Nat.mul_le_mul_right _ (by omega)
      _ = (n + 1) * 10 ^ (d :: ds).length := by
        rw [List.length_cons]
        ring

/-- Digits that keep within the limit are taken in full. -/
theorem accumulate_eq {limit : Nat} (ds : List Nat) :
    ∀ n, valueOf n ds ≤ limit → accumulate limit n ds = (valueOf n ds, 0) := by
  induction ds with
  | nil => intro n _; rfl
  | cons d ds ih =>
    intro n h
    have first : n * 10 + d ≤ limit := Nat.le_trans (le_valueOf _ ds) h
    rw [accumulate, if_neg (Nat.not_lt.2 first)]
    exact ih _ h

/-- The digits of a number, the greatest place first. -/
def digitsOf (n : Nat) : List Nat := (Nat.toDigits 10 n).map fun c => c.toNat - 48

theorem digitsOf_of_lt {n : Nat} (h : n < 10) : digitsOf n = [n] := by
  rw [digitsOf, Nat.toDigits_of_lt_base h, List.map_singleton, Nat.toNat_digitChar_sub_48_of_lt_ten h]

theorem digitsOf_of_le {n : Nat} (h : 10 ≤ n) : digitsOf n = digitsOf (n / 10) ++ [n % 10] := by
  have last : n % 10 < 10 := Nat.mod_lt _ (by decide)
  rw [digitsOf, Nat.toDigits_of_base_le (by decide) h, List.map_append, List.map_singleton,
    Nat.toNat_digitChar_sub_48_of_lt_ten last]
  rfl

theorem lt_ten_of_mem_digitsOf {n d : Nat} (h : d ∈ digitsOf n) : d < 10 := by
  induction n using Nat.strongRecOn with
  | ind n ih =>
    rcases Nat.lt_or_ge n 10 with lt | ge
    · rw [digitsOf_of_lt lt, List.mem_singleton] at h
      omega
    · rw [digitsOf_of_le ge, List.mem_append, List.mem_singleton] at h
      rcases h with h | h
      · exact ih (n / 10) (by omega) h
      · omega

theorem valueOf_digitsOf (n : Nat) : valueOf 0 (digitsOf n) = n := by
  induction n using Nat.strongRecOn with
  | ind n ih =>
    rcases Nat.lt_or_ge n 10 with lt | ge
    · rw [digitsOf_of_lt lt]
      simp [valueOf]
    · rw [digitsOf_of_le ge, valueOf_append, ih (n / 10) (by omega)]
      show n / 10 * 10 + n % 10 = n
      omega

theorem digitsOf_ne_nil (n : Nat) : digitsOf n ≠ [] := by
  rcases Nat.lt_or_ge n 10 with lt | ge
  · rw [digitsOf_of_lt lt]
    simp
  · rw [digitsOf_of_le ge]
    simp

/-- Only zero is written with a zero in front. -/
theorem head?_digitsOf {n : Nat} (h : n ≠ 0) : (digitsOf n).head? ≠ some 0 := by
  induction n using Nat.strongRecOn with
  | ind n ih =>
    rcases Nat.lt_or_ge n 10 with lt | ge
    · rw [digitsOf_of_lt lt]
      simpa using h
    · have first := ih (n / 10) (by omega) (by omega)
      rw [digitsOf_of_le ge, List.head?_append]
      cases e : (digitsOf (n / 10)).head? with
      | none => exact absurd (List.head?_eq_none_iff.1 e) (digitsOf_ne_nil _)
      | some d => simpa [e] using first

theorem length_digitsOf_le {n k : Nat} (hk : 0 < k) (h : n < 10 ^ k) : (digitsOf n).length ≤ k := by
  rw [digitsOf, List.length_map]
  exact (Nat.length_toDigits_le_iff (by decide) hk).2 h

/-! ## Digits as bytes -/

/-- The byte of a decimal digit. -/
def digitByte (d : Nat) : UInt8 := UInt8.ofNat (48 + d)

theorem digitValue?_digitByte : ∀ d < 10, digitValue? (digitByte d) = some d := by decide

/-- The bytes of a numeral. -/
def numeralBytes (ds : List Nat) : List UInt8 := ds.map digitByte

/-- No digit stands in front. -/
def NoDigit (rest : List UInt8) : Prop := ∀ b ∈ rest.head?, digitValue? b = none

theorem noDigit_cons {b : UInt8} (h : digitValue? b = none) (rest : List UInt8) :
    NoDigit (b :: rest) := by
  intro b' hb
  obtain rfl := Option.some.inj hb
  exact h

theorem digitsFrom_of_noDigit {rest : List UInt8} (h : NoDigit rest) (place : Place) :
    digitsFrom rest place = ([], ⟨rest, place⟩) := by
  cases rest with
  | nil => rfl
  | cons b rest =>
    rw [digitsFrom, h b rfl]

/-- Digits are read up to the first byte that is none. -/
theorem digits_append {ds : List Nat} (digits : ∀ d ∈ ds, d < 10) {rest : List UInt8}
    (h : NoDigit rest) (place : Place) :
    ∃ place', Cursor.digits ⟨numeralBytes ds ++ rest, place⟩ = (ds, ⟨rest, place'⟩) := by
  unfold Cursor.digits
  induction ds generalizing place with
  | nil => exact ⟨place, digitsFrom_of_noDigit h place⟩
  | cons d ds ih =>
    obtain ⟨place', e⟩ := ih (fun d hd => digits d (List.mem_cons_of_mem _ hd))
      (place.after (digitByte d))
    refine ⟨place', ?_⟩
    show digitsFrom (digitByte d :: (numeralBytes ds ++ rest)) place = _
    rw [digitsFrom, digitValue?_digitByte d (digits d List.mem_cons_self)]
    simp only [e]

theorem utf8EncodeChar_digitChar : ∀ d < 10,
    String.utf8EncodeChar d.digitChar = [digitByte d] := by decide

theorem toDigits_eq (n : Nat) : Nat.toDigits 10 n = (digitsOf n).map Nat.digitChar := by
  induction n using Nat.strongRecOn with
  | ind n ih =>
    rcases Nat.lt_or_ge n 10 with lt | ge
    · rw [digitsOf_of_lt lt, Nat.toDigits_of_lt_base lt]
      rfl
    · rw [digitsOf_of_le ge, Nat.toDigits_of_base_le (by decide) ge, ih (n / 10) (by omega)]
      simp

/-- The bytes of digits that are written one after another. -/
theorem utf8_of_toList {s : String} {ds : List Nat} (digits : ∀ d ∈ ds, d < 10)
    (h : s.toList = ds.map Nat.digitChar) : Text.utf8 s = numeralBytes ds := by
  rw [Text.utf8_eq_flatMap, h]
  clear h
  induction ds with
  | nil => rfl
  | cons d ds ih =>
    rw [List.map_cons, List.flatMap_cons, utf8EncodeChar_digitChar d (digits d List.mem_cons_self),
      ih fun d hd => digits d (List.mem_cons_of_mem _ hd)]
    rfl

theorem toList_toString (n : Nat) : (toString n).toList = (digitsOf n).map Nat.digitChar := by
  rw [← toDigits_eq, Nat.toString_eq_repr, Nat.toList_repr]

/-- The bytes that `toString` writes for a natural number. -/
theorem utf8_toString (n : Nat) : Text.utf8 (toString n) = numeralBytes (digitsOf n) :=
  utf8_of_toList (fun _ h => lt_ten_of_mem_digitsOf h) (toList_toString n)

theorem length_toString (n : Nat) : (toString n).length = (digitsOf n).length := by
  rw [← String.length_toList, toList_toString, List.length_map]

theorem utf8_take (n k : Nat) :
    Text.utf8 ((toString n).take k).toString = numeralBytes ((digitsOf n).take k) := by
  refine utf8_of_toList (fun d h => lt_ten_of_mem_digitsOf (List.mem_of_mem_take h)) ?_
  rw [String.Slice.toString_eq, String.toList_copy_take, toList_toString, List.map_take]

theorem utf8_drop (n k : Nat) :
    Text.utf8 ((toString n).drop k).toString = numeralBytes ((digitsOf n).drop k) := by
  refine utf8_of_toList (fun d h => lt_ten_of_mem_digitsOf (List.mem_of_mem_drop h)) ?_
  rw [String.Slice.toString_eq, String.toList_copy_drop, toList_toString, List.map_drop]

theorem utf8_zeros (k : Nat) : Text.utf8 ("".pushn '0' k) = numeralBytes (List.replicate k 0) := by
  refine utf8_of_toList (fun d h => by rw [List.eq_of_mem_replicate h]; decide) ?_
  rw [String.pushn_eq_repeat_push, List.map_replicate]
  induction k with
  | zero => rfl
  | succ k ih => rw [Nat.repeat, String.toList_push, ih, List.replicate_succ']; rfl

end HostWatch.Json
