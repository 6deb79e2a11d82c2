import HostWatch.Proofs.Decimal.ShortestDigits
import HostWatch.Proofs.Json.Numbers

/-!
# The text of a double is read

`takes_floatText`: what is written for a double is read as a value again, wherever it stands.

1. Digits, a point and digits are read as a double, and so they are with an exponent behind them
   unless the number is too large (`readsDouble_fraction`, `readsDouble_exponent`).
2. The layout of a decimal writes one of these forms, for at most seventeen digits
   (`readsDouble_toText`), and the shortest decimal of a double is not too large.
-/

namespace HostWatch

namespace Json

open Decimal (Fits)

/-! ## Written forms -/

/-- A digit, a point, the letter of an exponent, or a sign. -/
def NumberByte (b : UInt8) : Prop :=
  (digitValue? b).isSome = true ∨ b = 0x2E ∨ b = 0x65 ∨ b = 0x2B ∨ b = 0x2D

/-- The bytes begin with a digit and are read as a double behind any sign. -/
structure ReadsDouble (bytes : List UInt8) : Prop where
  digit : ∃ d < 10, bytes.head? = some (digitByte d)
  number : ∀ b ∈ bytes, NumberByte b
  takes : ∀ positive, ∃ x, Takes (readNumber positive) bytes (.float x)

theorem numberByte_of_mem {ds : List Nat} (digits : ∀ d ∈ ds, d < 10) {b : UInt8}
    (h : b ∈ numeralBytes ds) : NumberByte b := by
  obtain ⟨d, hd, rfl⟩ := List.mem_map.1 h
  exact .inl (by rw [digitValue?_digitByte d (digits d hd)]; rfl)

theorem LeadingDigits.head?_numeralBytes {ds : List Nat} (h : LeadingDigits ds)
    (bytes : List UInt8) : ∃ d < 10, (numeralBytes ds ++ bytes).head? = some (digitByte d) := by
  obtain ⟨d, ds, rfl⟩ := List.exists_cons_of_ne_nil h.ne_nil
  exact ⟨d, h.digits d List.mem_cons_self, rfl⟩

theorem finishFloat_of_isSome {positive : Bool} {n : Nat} {exponent : Int}
    (h : (floatOfParts positive n exponent).isSome = true) :
    ∃ x, ∀ c, finishFloat positive n exponent c = .ok (.float x, c) := by
  obtain ⟨x, e⟩ := Option.isSome_iff_exists.1 h
  refine ⟨x, fun c => ?_⟩
  rw [finishFloat, e]

/-- The number that digits with a fraction write, the point left out. -/
theorem valueOf_fraction_le {ds fs : List Nat} (range : valueOf 0 (ds ++ fs) ≤ maxSignificand) :
    valueOf 0 ds ≤ maxSignificand ∧ valueOf (valueOf 0 ds) fs ≤ maxSignificand := by
  rw [valueOf_append] at range
  exact ⟨Nat.le_trans (le_valueOf _ _) range, range⟩

/-- Digits, a point and digits. -/
theorem readsDouble_fraction {ds fs : List Nat} (leading : LeadingDigits ds)
    (digits : ∀ d ∈ fs, d < 10) (ne : fs ≠ []) (range : valueOf 0 (ds ++ fs) ≤ maxSignificand) :
    ReadsDouble (numeralBytes ds ++ 0x2E :: numeralBytes fs) where
  digit := leading.head?_numeralBytes _
  number b hb := by
    rcases List.mem_append.1 hb with h | h
    · exact numberByte_of_mem leading.digits h
    · rcases List.mem_cons.1 h with rfl | h
      · exact .inr (.inl rfl)
      · exact numberByte_of_mem digits h
  takes positive := by
    obtain ⟨before, whole⟩ := valueOf_fraction_le range
    have pos : 0 < fs.length := List.length_pos_iff.2 ne
    have scaled : (floatOfParts positive (valueOf (valueOf 0 ds) fs) (0 - fs.length)).isSome = true := by
      unfold floatOfParts
      rw [Option.isSome_map]
      exact isSome_scale_of_neg _ _ (by omega)
    obtain ⟨x, finishes⟩ := finishFloat_of_isSome scaled
    refine ⟨x, fun rest place ends => ?_⟩
    obtain ⟨place₁, e₁⟩ := readNumber_eq leading before positive
      (noDigit_cons (b := 0x2E) rfl (numeralBytes fs ++ rest)) place
    obtain ⟨place₂, e₂⟩ :=
      readFraction_eq digits ne whole positive 0 ends.noDigit (place₁.after 0x2E)
    obtain ⟨-, small, capital⟩ := ends.head?_ne
    rw [if_neg (not_or.2 ⟨small, capital⟩), finishes] at e₂
    refine ⟨place₂, ?_⟩
    rw [List.append_assoc, List.cons_append, e₁]
    exact e₂

/-- A fraction, if there are digits for it. -/
def fractionBytes (fs : List Nat) : List UInt8 := if fs = [] then [] else 0x2E :: numeralBytes fs

/-- Digits, perhaps a fraction, and an exponent. -/
theorem readsDouble_exponent {ds fs es : List Nat} (negative : Bool) (leading : LeadingDigits ds)
    (fraction : ∀ d ∈ fs, d < 10) (exponent : ∀ d ∈ es, d < 10) (ne : es ≠ [])
    (pos : 0 < valueOf 0 (ds ++ fs)) (range : valueOf 0 (ds ++ fs) ≤ maxSignificand)
    (short : valueOf 0 es ≤ maxExponent)
    (fits : Fits (valueOf 0 (ds ++ fs))
      (if negative then 0 - fs.length - valueOf 0 es else 0 - fs.length + valueOf 0 es)) :
    ReadsDouble (numeralBytes ds ++ (fractionBytes fs ++
      0x65 :: (if negative then 0x2D else 0x2B) :: numeralBytes es)) where
  digit := leading.head?_numeralBytes _
  number b hb := by
    simp only [List.mem_append, List.mem_cons] at hb
    rcases hb with h | h | rfl | rfl | h
    · exact numberByte_of_mem leading.digits h
    · unfold fractionBytes at h
      split_ifs at h
      · cases h
      · rcases List.mem_cons.1 h with rfl | h
        · exact .inr (.inl rfl)
        · exact numberByte_of_mem fraction h
    · exact .inr (.inr (.inl rfl))
    · cases negative
      · exact .inr (.inr (.inr (.inl rfl)))
      · exact .inr (.inr (.inr (.inr rfl)))
    · exact numberByte_of_mem exponent h
  takes positive := by
    obtain ⟨before, whole⟩ := valueOf_fraction_le range
    obtain ⟨x, finishes⟩ := finishFloat_of_isSome ((isSome_floatOfParts pos range positive).2 fits)
    refine ⟨x, fun rest place ends => ?_⟩
    generalize sign : (if negative then 0x2D else 0x2B : UInt8) = s
    have noDigit := noDigit_cons (b := 0x65) rfl (s :: (numeralBytes es ++ rest))
    have read : ∀ place, ∃ place', readExponent positive (valueOf 0 (ds ++ fs)) (0 - fs.length)
        ⟨s :: (numeralBytes es ++ rest), place⟩ = .ok (.float x, ⟨rest, place'⟩) := by
      intro place
      obtain ⟨place', e⟩ := readExponent_eq exponent ne short positive (valueOf 0 (ds ++ fs))
        (0 - fs.length) negative ends.noDigit place
      rw [sign, finishes] at e
      exact ⟨place', e⟩
    unfold fractionBytes
    split_ifs with none
    · subst none
      obtain ⟨place₁, e₁⟩ := readNumber_eq leading before positive noDigit place
      obtain ⟨place₂, e₂⟩ := read (place₁.after 0x65)
      refine ⟨place₂, ?_⟩
      rw [List.append_nil] at e₂
      rw [List.append_assoc, List.nil_append, List.cons_append, List.cons_append, e₁]
      exact e₂
    · have point := noDigit_cons (b := 0x2E) rfl
        (numeralBytes fs ++ 0x65 :: s :: (numeralBytes es ++ rest))
      obtain ⟨place₁, e₁⟩ := readNumber_eq leading before positive point place
      obtain ⟨place₂, e₂⟩ :=
        readFraction_eq fraction none whole positive 0 noDigit (place₁.after 0x2E)
      obtain ⟨place₃, e₃⟩ := read (place₂.after 0x65)
      refine ⟨place₃, ?_⟩
      rw [if_pos (.inl rfl), ← valueOf_append] at e₂
      simp only [List.append_assoc, List.cons_append]
      rw [e₁]
      exact e₂.trans e₃

/-! ## The layout of a decimal -/

theorem leadingDigits_of_head {ds : List Nat} (digits : ∀ d ∈ ds, d < 10) (ne : ds ≠ [])
    (nonzero : ds.head? ≠ some 0) : LeadingDigits ds := ⟨digits, ne, fun h => nonzero h.1⟩

theorem le_maxSignificand {n : Nat} (h : n ≤ 10 ^ 17) : n ≤ maxSignificand :=
  Nat.le_trans h (by decide)

/-- A positive number with zeros behind it, or a part of its digits from the front. -/
theorem leadingDigits_parts {n : Nat} (pos : 0 < n) (k : Nat) :
    LeadingDigits (digitsOf n ++ List.replicate k 0) ∧
      (0 < k → LeadingDigits ((digitsOf n).take k)) := by
  have first := head?_digitsOf pos.ne'
  obtain ⟨d, ds, eq⟩ := List.exists_cons_of_ne_nil (digitsOf_ne_nil n)
  have digits : ∀ d ∈ digitsOf n, d < 10 := fun _ h => lt_ten_of_mem_digitsOf h
  constructor
  · refine leadingDigits_of_head (fun d h => ?_) (by simp [eq]) (by simpa [eq] using first)
    rcases List.mem_append.1 h with h | h
    · exact digits d h
    · rw [List.eq_of_mem_replicate h]
      decide
  · intro hk
    obtain ⟨k, rfl⟩ := Nat.exists_eq_succ_of_ne_zero hk.ne'
    exact leadingDigits_of_head (fun d h => digits d (List.mem_of_mem_take h)) (by simp [eq])
      (by simpa [eq] using first)

theorem readsDouble_zerosBehind {n : Nat} (pos : 0 < n) {zeros : Nat}
    (short : (digitsOf n).length + zeros ≤ 16) :
    ReadsDouble (Text.utf8 (toString n ++ "".pushn '0' zeros ++ ".0")) := by
  have bytes : Text.utf8 (toString n ++ "".pushn '0' zeros ++ ".0") =
      numeralBytes (digitsOf n ++ List.replicate zeros 0) ++ 0x2E :: numeralBytes [0] := by
    rw [Text.utf8_append, Text.utf8_append, utf8_toString, utf8_zeros]
    simp only [numeralBytes, List.map_append]
    rfl
  have leading := (leadingDigits_parts pos zeros).1
  rw [bytes]
  refine readsDouble_fraction leading (by decide) (by decide) (le_maxSignificand ?_)
  have all : ∀ d ∈ digitsOf n ++ List.replicate zeros 0 ++ [0], d < 10 := by
    intro d h
    rcases List.mem_append.1 h with h | h
    · exact leading.digits d h
    · rw [List.mem_singleton.1 h]
      decide
  have := valueOf_lt all 0
  rw [List.length_append, List.length_append, List.length_replicate, List.length_singleton,
    Nat.zero_add, Nat.one_mul] at this
  exact Nat.le_trans this.le (Nat.pow_le_pow_right (by decide) (by omega))

theorem readsDouble_pointInside {n : Nat} (pos : 0 < n) (small : n ≤ 10 ^ 17) {k : Nat}
    (ahead : 0 < k) (behind : k < (digitsOf n).length) :
    ReadsDouble (Text.utf8 (((toString n).take k).toString ++ "." ++
      ((toString n).drop k).toString)) := by
  have bytes : Text.utf8 (((toString n).take k).toString ++ "." ++ ((toString n).drop k).toString) =
      numeralBytes ((digitsOf n).take k) ++ 0x2E :: numeralBytes ((digitsOf n).drop k) := by
    rw [Text.utf8_append, Text.utf8_append, utf8_take, utf8_drop]
    simp only [List.append_assoc]
    rfl
  rw [bytes]
  refine readsDouble_fraction ((leadingDigits_parts pos _).2 ahead)
    (fun d h => lt_ten_of_mem_digitsOf (List.mem_of_mem_drop h)) ?_ ?_
  · exact fun none => Nat.not_le_of_lt behind (List.drop_eq_nil_iff.1 none)
  · rw [List.take_append_drop, valueOf_digitsOf]
    exact le_maxSignificand small

theorem readsDouble_zerosBefore {n : Nat} (small : n ≤ 10 ^ 17) (zeros : Nat) :
    ReadsDouble (Text.utf8 ("0." ++ "".pushn '0' zeros ++ toString n)) := by
  have bytes : Text.utf8 ("0." ++ "".pushn '0' zeros ++ toString n) =
      numeralBytes [0] ++ 0x2E :: numeralBytes (List.replicate zeros 0 ++ digitsOf n) := by
    rw [Text.utf8_append, Text.utf8_append, utf8_toString, utf8_zeros]
    simp only [numeralBytes, List.map_append]
    rfl
  rw [bytes]
  refine readsDouble_fraction ⟨by decide, by decide, by decide⟩ (fun d h => ?_) ?_ ?_
  · rcases List.mem_append.1 h with h | h
    · rw [List.eq_of_mem_replicate h]
      decide
    · exact lt_ten_of_mem_digitsOf h
  · exact List.append_ne_nil_of_right_ne_nil _ (digitsOf_ne_nil n)
  · show valueOf (valueOf 0 [0]) (List.replicate _ 0 ++ digitsOf n) ≤ _
    rw [valueOf_append, valueOf_replicate_zero, show valueOf 0 [0] = 0 from rfl, Nat.zero_mul,
      valueOf_digitsOf]
    exact le_maxSignificand small

/-- A decimal that is written with its point in place. -/
theorem readsDouble_positional {n : Nat} (pos : 0 < n) (small : n ≤ 10 ^ 17) {point : Int}
    (high : point ≤ 16) :
    ReadsDouble (Text.utf8 (numberLayout.positionalText (toString n) point)) := by
  unfold Decimal.Layout.positionalText
  dsimp only
  rw [length_toString]
  split_ifs with whole keep part
  · exact readsDouble_zerosBehind pos (by omega)
  · exact absurd rfl keep
  · exact readsDouble_pointInside pos small (by omega) (by omega)
  · exact readsDouble_zerosBefore small _

/-- A decimal that is written with an exponent. -/
theorem readsDouble_exponential {n : Nat} (pos : 0 < n) (small : n ≤ 10 ^ 17) {point : Int}
    (range : (point - 1).natAbs ≤ maxExponent) (fits : Fits n (point - (digitsOf n).length)) :
    ReadsDouble (Text.utf8 (numberLayout.exponentialText (toString n) point)) := by
  have digits : ∀ d ∈ digitsOf n, d < 10 := fun _ h => lt_ten_of_mem_digitsOf h
  have count : 0 < (digitsOf n).length := List.length_pos_iff.2 (digitsOf_ne_nil n)
  have others : ((toString n).drop 1).toString.isEmpty = true ↔ (digitsOf n).drop 1 = [] := by
    rw [String.isEmpty_iff, ← String.toList_eq_nil_iff, String.Slice.toString_eq,
      String.toList_copy_drop, toList_toString, ← List.map_drop, List.map_eq_nil_iff]
  have fraction : Text.utf8 (if ((toString n).drop 1).toString.isEmpty = true then ""
      else "." ++ ((toString n).drop 1).toString) = fractionBytes ((digitsOf n).drop 1) := by
    unfold fractionBytes
    simp only [others]
    split_ifs with none
    · rfl
    · rw [Text.utf8_append, utf8_drop]
      rfl
  have sign : Text.utf8 (if point - 1 < 0 then "-" else if numberLayout.plusExponent then "+" else "") =
      [if decide (point - 1 < 0) then 0x2D else 0x2B] := by
    simp only [decide_eq_true_eq]
    split_ifs with negative plus
    · rfl
    · rfl
    · exact absurd rfl plus
  have bytes : Text.utf8 (numberLayout.exponentialText (toString n) point) =
      numeralBytes ((digitsOf n).take 1) ++ (fractionBytes ((digitsOf n).drop 1) ++ 0x65 ::
        (if decide (point - 1 < 0) then 0x2D else 0x2B) ::
          numeralBytes (digitsOf (point - 1).natAbs)) := by
    unfold Decimal.Layout.exponentialText
    dsimp only
    rw [Text.utf8_append, Text.utf8_append, Text.utf8_append, Text.utf8_append, utf8_toString,
      utf8_take, fraction, sign]
    simp only [List.append_assoc]
    rfl
  have value : valueOf 0 ((digitsOf n).take 1 ++ (digitsOf n).drop 1) = n := by
    rw [List.take_append_drop, valueOf_digitsOf]
  rw [bytes]
  refine readsDouble_exponent (decide (point - 1 < 0)) ((leadingDigits_parts pos 1).2 (by decide))
    (fun d h => digits d (List.mem_of_mem_drop h)) (fun _ h => lt_ten_of_mem_digitsOf h)
    (digitsOf_ne_nil _) (by rw [value]; exact pos) (by rw [value]; exact le_maxSignificand small)
    (by rw [valueOf_digitsOf]; exact range) ?_
  rw [value, valueOf_digitsOf, List.length_drop]
  convert fits using 1
  simp only [decide_eq_true_eq]
  split_ifs <;> omega

/-- The text of a decimal of at most seventeen digits is read as a double. -/
theorem readsDouble_toText {s : Decimal.Scientific} (pos : 0 < s.digits)
    (small : s.digits ≤ 10 ^ 17) (least : -341 ≤ s.exponent) (fits : Fits s.digits s.exponent) :
    ReadsDouble (Text.utf8 (s.toText numberLayout)) := by
  have count : 0 < (digitsOf s.digits).length := List.length_pos_iff.2 (digitsOf_ne_nil _)
  have short : (digitsOf s.digits).length ≤ 18 :=
    length_digitsOf_le (by decide) (Nat.lt_of_le_of_lt small (by decide))
  unfold Decimal.Scientific.toText
  dsimp only [numberLayout]
  rw [length_toString]
  split_ifs with positional
  · exact readsDouble_positional pos small positional.2
  · refine readsDouble_exponential pos small ?_ (by rwa [add_sub_cancel_right])
    have : maxExponent = 2147483647 := rfl
    have : greatestPower = 308 := rfl
    unfold Decimal.Fits at fits
    omega

/-! ## Doubles -/

/-- The exponent of a double has all its bits only if the double is infinite or no number. -/
theorem not_finite {x : Float} (h : x.toBits.toNat / Nat.pow 2 52 % Nat.pow 2 11 = 2047) :
    (x.isNaN || x.isInf) = true := by
  have exponent : @Float.Model.UnpackedFloat.unpackExponent .binary64 x.toModel.toBits.toBitVec =
      -1#11 := by
    apply BitVec.eq_of_toNat_eq
    unfold Float.Model.UnpackedFloat.unpackExponent
    rw [BitVec.toNat_cast, BitVec.extractLsb_toNat, Nat.shiftRight_eq_div_pow]
    exact h
  show (x.toModel.unpack.isNaN || x.toModel.unpack.isInf) = true
  unfold Float.Model.unpack Float.Model.UnpackedFloat.unpack
  dsimp only
  rw [if_pos exponent]
  split_ifs <;> rfl

/-- What a finite double is. -/
theorem magnitude_of_finite {x : Float} (h : (x.isNaN || x.isInf) = false) :
    Decimal.Magnitude.ofFloat x = .zero ∨
      ∃ b, Decimal.Magnitude.ofFloat x = .finite b ∧ b.IsDouble := by
  have exponent : x.toBits.toNat / Nat.pow 2 52 % Nat.pow 2 11 ≠ 2047 := fun all =>
    Bool.false_ne_true (h.symm.trans (not_finite all))
  cases m : Decimal.Magnitude.ofFloat x with
  | zero => exact .inl rfl
  | finite b => exact .inr ⟨b, rfl, Decimal.isDouble_ofBits m⟩
  | infinite | notANumber =>
    unfold Decimal.Magnitude.ofFloat Decimal.Magnitude.ofBits at m
    dsimp only at m
    rw [if_neg exponent] at m
    split_ifs at m

/-- The bytes of `null`. -/
def nullBytes : List UInt8 := [0x6E, 0x75, 0x6C, 0x6C]

/-- A finite double is written in a form that is read as a double again. -/
theorem floatText_of_finite {x : Float} (finite : (x.isNaN || x.isInf) = false) :
    ∃ (minus : Bool) (bytes : List UInt8), ReadsDouble bytes ∧
      Text.utf8 (floatText x) = (if minus then [0x2D] else []) ++ bytes := by
  unfold floatText
  rw [finite, if_neg Bool.false_ne_true]
  have sign : Text.utf8 (if Decimal.signBit x then "-" else "") =
      if Decimal.signBit x then [0x2D] else [] := by
    split_ifs <;> rfl
  unfold Decimal.shortestText
  dsimp only
  rcases magnitude_of_finite finite with zero | ⟨b, magnitude, double⟩
  · have digits : LeadingDigits [0] := ⟨by decide, by decide, by decide⟩
    refine ⟨Decimal.signBit x, numeralBytes [0] ++ 0x2E :: numeralBytes [0], ?_, ?_⟩
    · exact readsDouble_fraction digits digits.digits digits.ne_nil (by decide)
    · rw [zero]
      dsimp only
      rw [Text.utf8_append, sign]
      rfl
  · obtain ⟨pos, small, least, fits⟩ := Decimal.shortest_fits double
    refine ⟨Decimal.signBit x, _, readsDouble_toText pos small least fits, ?_⟩
    rw [magnitude]
    dsimp only
    rw [Text.utf8_append, sign]

/-- What is no finite double is written as `null`. -/
theorem floatText_form (x : Float) : Text.utf8 (floatText x) = nullBytes ∨
    ∃ (minus : Bool) (bytes : List UInt8), ReadsDouble bytes ∧
      Text.utf8 (floatText x) = (if minus then [0x2D] else []) ++ bytes := by
  cases special : x.isNaN || x.isInf with
  | true => exact .inl (congrArg Text.utf8 (if_pos special))
  | false => exact .inr (floatText_of_finite special)

/-! ## Values that begin with a digit or a sign -/

/-- A value that begins with a digit. -/
theorem readValue_of_digit {room : Nat} {c : Cursor} {d : Nat} (hd : d < 10)
    (first : c.skipGap.peek? = some (digitByte d)) :
    readValue room c = (readNumber true c.skipGap).map fun (n, c) => (n.toJson, c) := by
  rw [readValue.eq_def]
  dsimp only
  rw [first]
  interval_cases d <;> rfl

/-- A value that begins with a minus. -/
theorem readValue_of_minus {room : Nat} {c : Cursor} (first : c.skipGap.peek? = some 0x2D) :
    readValue room c = (readNumber false c.skipGap.advance).map fun (n, c) => (n.toJson, c) := by
  rw [readValue.eq_def]
  dsimp only
  rw [first]
  rfl

theorem readValue_digit {d : Nat} (hd : d < 10) (room : Nat) (bytes : List UInt8) (place : Place) :
    readValue room ⟨digitByte d :: bytes, place⟩ =
      (readNumber true ⟨digitByte d :: bytes, place⟩).map fun (n, c) => (n.toJson, c) := by
  have gap : ∀ d < 10, isGapByte (digitByte d) = false := by decide
  have here := skipGap_cons (gap d hd) bytes place
  rw [readValue_of_digit hd (by rw [here]; rfl), here]

theorem readValue_minus (room : Nat) (bytes : List UInt8) (place : Place) :
    readValue room ⟨0x2D :: bytes, place⟩ =
      (readNumber false ⟨bytes, place.after 0x2D⟩).map fun (n, c) => (n.toJson, c) := by
  have here := skipGap_cons (show isGapByte 0x2D = false by decide) bytes place
  rw [readValue_of_minus (by rw [here]; rfl), here]
  rfl

theorem takes_readsDouble {bytes : List UInt8} (h : ReadsDouble bytes) (minus : Bool) :
    ∃ x, ∀ room, Takes (readValue room) ((if minus then [0x2D] else []) ++ bytes) (.float x) := by
  obtain ⟨x, takes⟩ := h.takes (!minus)
  obtain ⟨d, hd, first⟩ := h.digit
  refine ⟨x, fun room rest place ends => ?_⟩
  cases minus
  · obtain ⟨place', e⟩ := takes rest place ends
    obtain ⟨tail, rfl⟩ : ∃ tail, bytes = digitByte d :: tail := by
      cases bytes with
      | nil => cases first
      | cons b tail => exact ⟨tail, by rw [Option.some.inj first]⟩
    refine ⟨place', ?_⟩
    rw [Bool.not_false] at e
    rw [if_neg Bool.false_ne_true, List.nil_append, List.cons_append, readValue_digit hd,
      ← List.cons_append, e]
    rfl
  · obtain ⟨place', e⟩ := takes rest (place.after 0x2D) ends
    refine ⟨place', ?_⟩
    rw [Bool.not_true] at e
    rw [if_pos rfl, List.singleton_append, List.cons_append, readValue_minus, e]
    rfl

theorem takes_null (room : Nat) : Takes (readValue room) nullBytes .null := by
  intro rest place _
  refine ⟨(((place.after 0x6E).after 0x75).after 0x6C).after 0x6C, ?_⟩
  rw [readValue.eq_def]
  dsimp only [nullBytes, List.cons_append]
  rw [skipGap_cons (by decide)]
  rfl

/-- What reading makes of the text of a double. -/
def rereadFloat (x : Float) : Json :=
  match readValue 0 (Cursor.start (Text.utf8 (floatText x))) with
  | .ok (j, _) => j
  | .error _ => .null

theorem rereadFloat_eq {x : Float} {j : Json}
    (takes : Takes (readValue 0) (Text.utf8 (floatText x)) j) : rereadFloat x = j := by
  obtain ⟨place, e⟩ := takes [] ⟨1, 0⟩ (by simp [EndsValue])
  rw [List.append_nil] at e
  rw [rereadFloat, Cursor.start, e]

/-- A finite double is read as a double. -/
theorem rereadFloat_of_finite {x : Float} (finite : (x.isNaN || x.isInf) = false) :
    ∃ y, rereadFloat x = .float y := by
  obtain ⟨minus, bytes, form, eq⟩ := floatText_of_finite finite
  obtain ⟨y, takes⟩ := takes_readsDouble form minus
  exact ⟨y, rereadFloat_eq (eq ▸ takes 0)⟩

/-- **The text of a double** is read as a value wherever it stands. -/
theorem takes_floatText (x : Float) (room : Nat) :
    Takes (readValue room) (Text.utf8 (floatText x)) (rereadFloat x) := by
  obtain ⟨j, takes⟩ : ∃ j, ∀ room, Takes (readValue room) (Text.utf8 (floatText x)) j := by
    rcases floatText_form x with null | ⟨minus, bytes, form, eq⟩
    · exact ⟨.null, null ▸ takes_null⟩
    · obtain ⟨y, takes⟩ := takes_readsDouble form minus
      exact ⟨.float y, eq ▸ takes⟩
  rw [rereadFloat_eq (takes 0)]
  exact takes room

end Json

end HostWatch
