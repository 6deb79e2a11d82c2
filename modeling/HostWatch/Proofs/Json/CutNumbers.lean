import HostWatch.Proofs.Json.Cut
import HostWatch.Proofs.Json.Numbers

/-!
# Cut numbers

`cut_readNumber`: a number without exponent that is cut off is a smaller number, or it ends where
more digits are due. It never becomes too large for a double, so that a number that is cut off is
never a fault that more bytes could not mend.

1. Outside of strings, only the letter of an exponent follows a digit without a sign between them
   (`ExponentFree`).
2. Digits are accumulated while they stay in range. A number with digits left over is full: at most
   one digit of its fraction still counts (`accumulate_full`).
3. So the powers of ten decide. Below `10 ^ 289` nothing overflows, and from there on a full number
   overflows with its last digit if it does without it (`fits_before_digit`).
-/

namespace HostWatch.Json

open Decimal (Fits Overflows)

/-! ## Texts without exponents -/

/-- Outside of strings no digit is followed by the letter of an exponent: no number has one. -/
def ExponentFree (bytes : List UInt8) : Prop :=
  (skeleton .outside bytes).IsChain fun a b => (digitValue? a).isSome = true → b ≠ 0x65 ∧ b ≠ 0x45

instance (bytes : List UInt8) : Decidable (ExponentFree bytes) := by
  unfold ExponentFree
  infer_instance

/-- What is read leaves the rest without exponents. -/
theorem ExponentFree.of_spans {n : Int} {c c' : Cursor} (free : ExponentFree c.rest)
    (h : Spans n c c') : ExponentFree c'.rest := by
  obtain ⟨w, rest, mode, -⟩ := h
  unfold ExponentFree at free
  rw [rest, skeleton_append, mode] at free
  exact free.right_of_append

theorem digitsFrom_eq_nil {rest : List UInt8} {place : Place} {c : Cursor}
    (h : digitsFrom rest place = ([], c)) : c = ⟨rest, place⟩ := by
  cases rest with
  | nil => exact (Prod.mk.inj h).2.symm
  | cons b rest =>
    unfold digitsFrom at h
    split at h
    · exact (Prod.mk.inj h).2.symm
    · exact absurd (Prod.mk.inj h).1 (by simp)

theorem lt_ten_of_digitValue? {b : UInt8} {d : Nat} (h : digitValue? b = some d) : d < 10 := by
  unfold digitValue? at h
  split at h
  · next range =>
    obtain rfl := Option.some.inj h
    have := UInt8.le_iff_toNat_le.1 range.2
    rw [show (0x39 : UInt8).toNat = 0x39 from rfl] at this
    omega
  · cases h

theorem lt_ten_of_mem_digits {c c' : Cursor} {ds : List Nat} (h : c.digits = (ds, c')) :
    ∀ d ∈ ds, d < 10 := by
  obtain ⟨rest, place⟩ := c
  unfold Cursor.digits at h
  dsimp only at h
  induction rest generalizing place ds with
  | nil =>
    obtain rfl := (Prod.mk.inj h).1
    exact fun _ h => absurd h List.not_mem_nil
  | cons b rest ih =>
    unfold digitsFrom at h
    split at h
    · obtain rfl := (Prod.mk.inj h).1
      exact fun _ h => absurd h List.not_mem_nil
    · next d digit =>
      obtain ⟨rfl, rfl⟩ := Prod.mk.inj h
      exact List.forall_mem_cons.2 ⟨lt_ten_of_digitValue? digit, ih _ rfl⟩

/-- Behind the digits of a number there is no exponent. -/
theorem ExponentFree.behind_digits {c c' : Cursor} {ds : List Nat} (free : ExponentFree c.rest)
    (h : c.digits = (ds, c')) (ne : ds ≠ []) : c'.peek? ≠ some 0x65 ∧ c'.peek? ≠ some 0x45 := by
  obtain ⟨rest, place⟩ := c
  unfold Cursor.digits at h
  dsimp only at h free
  induction rest generalizing place ds with
  | nil => exact absurd (Prod.mk.inj h).1.symm ne
  | cons b rest ih =>
    unfold digitsFrom at h
    split at h
    · exact absurd (Prod.mk.inj h).1.symm ne
    · next d digit =>
      have outside : skeleton .outside (b :: rest) = b :: skeleton .outside rest := by
        rw [skeleton, Mode.step, if_neg (neutral_of_digit digit).1]
      unfold ExponentFree at free
      rw [outside] at free
      cases more : digitsFrom rest (place.after b) with
      | mk ds' after =>
        rw [more] at h
        obtain ⟨rfl, rfl⟩ := Prod.mk.inj h
        by_cases last : ds' = []
        · subst last
          obtain rfl := digitsFrom_eq_nil more
          cases rest with
          | nil => exact ⟨by simp [Cursor.peek?], by simp [Cursor.peek?]⟩
          | cons x rest =>
            have := (List.isChain_cons_cons.1 free).1 (by rw [digit]; rfl)
            simpa [Cursor.peek?] using this
        · exact ih last (place.after b) free.tail more

/-! ## Cut digits -/

theorem cut_digits {s : List UInt8} {c d : Cursor} (meets : Meets s c d) :
    (c.digits.1 = d.digits.1 ∧ d.digits.2.rest ≠ [] ∧ Meets s c.digits.2 d.digits.2) ∨
      (d.digits.2.rest = [] ∧ ∃ more, c.digits.1 = d.digits.1 ++ more) := by
  obtain ⟨bytes, place⟩ := d
  obtain ⟨_, place'⟩ := c
  obtain rfl : _ = bytes ++ s := meets
  unfold Cursor.digits
  dsimp only
  induction bytes generalizing place place' with
  | nil => exact .inr ⟨rfl, (digitsFrom s place').1, rfl⟩
  | cons b bytes ih =>
    rw [List.cons_append, digitsFrom, digitsFrom]
    cases digitValue? b with
    | none => exact .inl ⟨rfl, List.cons_ne_nil _ _, rfl⟩
    | some d =>
      rcases ih (place.after b) (place'.after b) with ⟨same, ahead, meets⟩ | ⟨ended, more, eq⟩
      · exact .inl ⟨congrArg (d :: ·) same, ahead, meets⟩
      · exact .inr ⟨ended, more, congrArg (d :: ·) eq⟩

/-! ## Accumulated digits -/

section Accumulate

variable {limit n : Nat} {ds : List Nat}

theorem accumulate_append (ds more : List Nat) (n : Nat) :
    accumulate limit n (ds ++ more) =
      if (accumulate limit n ds).2 = 0 then accumulate limit (accumulate limit n ds).1 more
      else ((accumulate limit n ds).1, (accumulate limit n ds).2 + more.length) := by
  induction ds generalizing n with
  | nil => rfl
  | cons d ds ih =>
    rw [List.cons_append, accumulate, accumulate]
    split
    · rw [if_neg (Nat.succ_ne_zero _), List.length_append, Nat.add_right_comm]
    · exact ih _

theorem accumulate_le (range : n ≤ limit) (ds : List Nat) : (accumulate limit n ds).1 ≤ limit := by
  induction ds generalizing n with
  | nil => exact range
  | cons d ds ih =>
    rw [accumulate]
    split
    · exact range
    · exact ih (by omega)

/-- If digits are left over there is no room for another one. -/
theorem full_of_accumulate (digits : ∀ d ∈ ds, d < 10) (left : (accumulate limit n ds).2 ≠ 0) :
    limit < (accumulate limit n ds).1 * 10 + 10 := by
  induction ds generalizing n with
  | nil => exact absurd rfl left
  | cons d ds ih =>
    have := digits d List.mem_cons_self
    rw [accumulate] at left ⊢
    split
    · omega
    · next room =>
      rw [if_neg room] at left
      exact ih (fun d hd => digits d (List.mem_cons_of_mem _ hd)) left

/-- Either all digits count or there is no room for another one. -/
theorem all_or_full (digits : ∀ d ∈ ds, d < 10) :
    (accumulate limit n ds).2 = 0 ∨ limit < (accumulate limit n ds).1 * 10 + 10 :=
  Classical.or_iff_not_imp_left.2 (full_of_accumulate digits)

theorem accumulate_overflow {d : Nat} (exceeds : limit < n * 10 + d) (ds : List Nat) :
    accumulate limit n (d :: ds) = (n, ds.length + 1) := by rw [accumulate, if_pos exceeds]

/-- To a full number at most one digit can be added. -/
theorem accumulate_full (full : maxSignificand < n * 10 + 10) (d : Nat) (ds : List Nat) :
    accumulate maxSignificand n (d :: ds) =
      if maxSignificand < n * 10 + d then (n, ds.length + 1) else (n * 10 + d, ds.length) := by
  have limit : maxSignificand = 18446744073709551615 := rfl
  split
  · next exceeds => exact accumulate_overflow exceeds ds
  · next room =>
    rw [accumulate, if_neg room]
    cases ds with
    | nil => rfl
    | cons d' ds => exact accumulate_overflow (by omega) ds

end Accumulate

/-! ## Numbers that are not too large -/

theorem fits_mono {n : Nat} {e e' : Int} (pos : 0 < n) (le : e' ≤ e) (h : Fits n e) : Fits n e' := by
  rcases Int.lt_or_le e' 0 with neg | nonneg
  · exact .inl neg
  · rcases h with neg | ⟨near, fits⟩
    · omega
    · exact .inr ⟨by omega, fun large => fits (large.mono pos (Nat.le_refl _) (by omega))⟩

/-- A full number without its last digit is not too large if it is not with that digit. -/
theorem fits_before_digit {n d : Nat} (full : maxSignificand < n * 10 + 10)
    (range : n * 10 + d ≤ maxSignificand) {e : Int} (h : Fits (n * 10 + d) (e - 1)) : Fits n e := by
  have limit : maxSignificand = 18446744073709551615 := rfl
  have power : greatestPower = 308 := rfl
  have longer : Overflows 18446744073709551610 289 := by decide +kernel
  have shorter : ¬ Overflows 1844674407370955161 289 := by decide +kernel
  obtain rfl : n = 1844674407370955161 := by omega
  have small : e ≤ 289 := by
    by_contra large
    rcases h with neg | ⟨-, fits⟩
    · omega
    · exact fits (longer.mono (by decide) (by omega) (by omega))
  exact .inr ⟨by omega, fun large => shorter (large.mono (by decide) (Nat.le_refl _) (by omega))⟩

/-- Dividing any number, or leaving it as it is, gives a double. -/
theorem isSome_of_nonpos {n : Nat} (range : n ≤ maxSignificand) (positive : Bool) {e : Int}
    (le : e ≤ 0) : (floatOfParts positive n e).isSome = true := by
  rcases Nat.eq_zero_or_pos n with rfl | pos
  · rcases Int.lt_or_eq_of_le le with neg | rfl
    · unfold floatOfParts
      rw [Option.isSome_map]
      exact isSome_scale_of_neg _ _ neg
    · cases positive <;> decide +kernel
  · have greatest : ¬ Overflows maxSignificand 0 := by decide +kernel
    refine (isSome_floatOfParts pos range positive).2 (fits_mono pos le ?_)
    exact .inr ⟨by decide, fun large => greatest (large.mono pos range (Nat.le_refl _))⟩

/-! ## The parts of a number -/

/-- The significand behind the digits of a fraction, and the power of ten it is scaled by. -/
def fractionParts (n : Nat) (e : Int) (fs : List Nat) : Nat × Int :=
  ((accumulate maxSignificand n fs).1,
    e - Int.ofNat (fs.length - (accumulate maxSignificand n fs).2))

/-- No exponent begins here. -/
def NoExponent (c : Cursor) : Prop := c.peek? ≠ some 0x65 ∧ c.peek? ≠ some 0x45

section Parts

variable {positive : Bool} {n : Nat} {e : Int} {c c' after : Cursor} {ds : List Nat} {a : Number}

theorem ne_nil_of_readFraction (digits : c.digits = (ds, after))
    (h : readFraction positive n e c = .ok (a, c')) : ds ≠ [] := by
  rintro rfl
  unfold readFraction at h
  rw [digits] at h
  dsimp only at h
  split at h <;> cases h

theorem readFraction_of_digits (digits : c.digits = (ds, after)) (ne : ds ≠ [])
    (plain : NoExponent after) : readFraction positive n e c =
      finishFloat positive (fractionParts n e ds).1 (fractionParts n e ds).2 after := by
  obtain ⟨d, ds, rfl⟩ := List.exists_cons_of_ne_nil ne
  unfold readFraction
  rw [digits]
  exact if_neg (not_or.2 plain)

theorem leading_of_readNumber (digits : c.digits = (ds, after))
    (h : readNumber positive c = .ok (a, c')) :
    ds ≠ [] ∧ ¬ (ds.head? = some 0 ∧ 1 < ds.length) := by
  unfold readNumber at h
  rw [digits] at h
  constructor
  · rintro rfl
    dsimp only at h
    split at h <;> cases h
  · intro zero
    obtain ⟨d, ds, rfl⟩ := List.exists_cons_of_length_pos (Nat.lt_of_succ_lt zero.2)
    dsimp only at h
    rw [if_pos zero] at h
    cases h

theorem readNumber_of_digits (digits : c.digits = (ds, after)) (ne : ds ≠ [])
    (zero : ¬ (ds.head? = some 0 ∧ 1 < ds.length)) (plain : NoExponent after) :
    readNumber positive c =
      if after.peek? = some 0x2E then
        readFraction positive (accumulate maxSignificand 0 ds).1 (accumulate maxSignificand 0 ds).2
          after.advance
      else if (accumulate maxSignificand 0 ds).2 = 0 then
        .ok (wholeNumber positive (accumulate maxSignificand 0 ds).1, after)
      else finishFloat positive (accumulate maxSignificand 0 ds).1
        (accumulate maxSignificand 0 ds).2 after := by
  obtain ⟨d, ds, rfl⟩ := List.exists_cons_of_ne_nil ne
  unfold readNumber
  rw [digits]
  dsimp only
  rw [if_neg zero]
  split
  · next point => rw [if_pos point]
  · next small => exact absurd small plain.1
  · next capital => exact absurd capital plain.2
  · next point _ _ => rw [if_neg point]

end Parts

/-! ## What is left over of a number -/

section Left

variable {positive : Bool} {n k : Nat} {fs more : List Nat}

/-- Of a fraction behind a full number only the first digit may count. -/
theorem fractionParts_full (full : maxSignificand < n * 10 + 10) (e : Int) (d : Nat)
    (fs : List Nat) : fractionParts n e (d :: fs) =
      if maxSignificand < n * 10 + d then (n, e) else (n * 10 + d, e - 1) := by
  unfold fractionParts
  rw [accumulate_full full]
  split <;> simp

/-- A fraction that has been cut off does not make a number too large. -/
theorem isSome_cut_fraction (range : n ≤ maxSignificand)
    (full : k = 0 ∨ maxSignificand < n * 10 + 10) (ne : fs ≠ [])
    (h : (floatOfParts positive (fractionParts n k (fs ++ more)).1
      (fractionParts n k (fs ++ more)).2).isSome = true) :
    (floatOfParts positive (fractionParts n k fs).1 (fractionParts n k fs).2).isSome = true := by
  rcases full with rfl | full
  · refine isSome_of_nonpos (accumulate_le range fs) positive ?_
    show ((0 : Nat) : Int) - Int.ofNat _ ≤ 0
    simp
  · obtain ⟨d, fs, rfl⟩ := List.exists_cons_of_ne_nil ne
    rwa [List.cons_append, fractionParts_full full, ← fractionParts_full full k d fs] at h

/-- Neither does it if all of the fraction has been cut off. -/
theorem isSome_before_fraction (range : n ≤ maxSignificand) (full : maxSignificand < n * 10 + 10)
    (h : (floatOfParts positive (fractionParts n k fs).1 (fractionParts n k fs).2).isSome = true) :
    (floatOfParts positive n k).isSome = true := by
  have pos : 0 < n := by
    have limit : maxSignificand = 18446744073709551615 := rfl
    omega
  cases fs with
  | nil => simpa [fractionParts, accumulate] using h
  | cons d fs =>
    rw [fractionParts_full full] at h
    split at h
    · exact h
    · next room =>
      have fits := (isSome_floatOfParts (by omega) (Nat.le_of_not_lt room) positive).1 h
      exact (isSome_floatOfParts pos range positive).2
        (fits_before_digit full (Nat.le_of_not_lt room) fits)

/-- Fewer digits left over do not make a number larger. -/
theorem isSome_of_le {l : Nat} (range : n ≤ maxSignificand) (full : maxSignificand < n * 10 + 10)
    (le : l ≤ k) (h : (floatOfParts positive n k).isSome = true) :
    (floatOfParts positive n l).isSome = true := by
  have pos : 0 < n := by
    have limit : maxSignificand = 18446744073709551615 := rfl
    omega
  have fits := (isSome_floatOfParts pos range positive).1 h
  exact (isSome_floatOfParts pos range positive).2 (fits_mono pos (by omega) fits)

end Left

/-! ## Cut numbers -/

/-- What was read again, or something that reaches up to the cut. -/
def AgainOrShort (s : List UInt8) (a : α) (c : Cursor) (r : α × Cursor) : Prop :=
  Again s a c r ∨ r.2.rest = []

section Cut

variable {positive : Bool} {n k : Nat} {e : Int} {s : List UInt8} {c c' d : Cursor} {a : Number}

theorem isSome_of_finishFloat (h : finishFloat positive n e c = .ok (a, c')) :
    (floatOfParts positive n e).isSome = true := by
  unfold finishFloat at h
  split at h
  · next value => rw [value]; rfl
  · cases h

theorem cut_finishFloat (meets : Meets s c d) (h : finishFloat positive n e c = .ok (a, c')) :
    Cut (AgainOrShort s a c') (finishFloat positive n e d) := by
  unfold finishFloat at h ⊢
  split at h
  · obtain ⟨rfl, rfl⟩ := Prod.mk.inj (Except.ok.inj h)
    exact .inl ⟨rfl, meets⟩
  · cases h

theorem short_finishFloat (ended : d.rest = []) (h : (floatOfParts positive n e).isSome = true) :
    Cut (AgainOrShort s a c') (finishFloat positive n e d) := by
  obtain ⟨x, value⟩ := Option.isSome_iff_exists.1 h
  rw [finishFloat, value]
  exact .inr ended

theorem Meets.noExponent (meets : Meets s c d) (ahead : d.rest ≠ []) (h : NoExponent c) :
    NoExponent d := by
  cases here : d.peek? with
  | none => exact absurd (rest_eq_nil_of_peek? here) ahead
  | some b =>
    unfold NoExponent at h ⊢
    rwa [here, ← (meets.peek? here).1]

theorem noExponent_of_nil (h : d.rest = []) : NoExponent d := by
  unfold NoExponent Cursor.peek?
  rw [h]
  simp

/-- Where digits are due the text has ended. -/
theorem digits_nil {after : Cursor} (digits : d.digits = ([], after)) (ended : after.rest = []) :
    d.rest = [] := by
  obtain rfl : after = d := digitsFrom_eq_nil digits
  exact ended

theorem cut_readFraction (range : n ≤ maxSignificand)
    (full : k = 0 ∨ maxSignificand < n * 10 + 10) (free : ExponentFree c.rest) (meets : Meets s c d)
    (h : readFraction positive n k c = .ok (a, c')) :
    Cut (AgainOrShort s a c') (readFraction positive n k d) := by
  cases whole : c.digits with | mk fs after =>
  cases part : d.digits with | mk fs' after' =>
  have ne := ne_nil_of_readFraction whole h
  have plain := free.behind_digits whole ne
  rw [readFraction_of_digits whole ne plain] at h
  have digits := cut_digits meets
  rw [whole, part] at digits
  dsimp only at digits
  rcases digits with ⟨rfl, ahead, meets⟩ | ⟨ended, more, rfl⟩
  · rw [readFraction_of_digits part ne (meets.noExponent ahead plain)]
    exact cut_finishFloat meets h
  · by_cases none : fs' = []
    · subst none
      unfold readFraction
      rw [part]
      dsimp only
      rw [digits_nil part ended]
      trivial
    · rw [readFraction_of_digits part none (noExponent_of_nil ended)]
      exact short_finishFloat ended (isSome_cut_fraction range full none (isSome_of_finishFloat h))

theorem isSome_of_readFraction (free : ExponentFree c.rest)
    (h : readFraction positive n e c = .ok (a, c')) :
    ∃ fs, (floatOfParts positive (fractionParts n e fs).1 (fractionParts n e fs).2).isSome = true := by
  cases digits : c.digits with | mk fs after =>
  have ne := ne_nil_of_readFraction digits h
  rw [readFraction_of_digits digits ne (free.behind_digits digits ne)] at h
  exact ⟨fs, isSome_of_finishFloat h⟩

/-- A number that has been cut off in front of its point is read up to the cut if it is not too
large. -/
theorem short_readNumber {ds : List Nat} {after : Cursor} (digits : d.digits = (ds, after))
    (ne : ds ≠ []) (zero : ¬ (ds.head? = some 0 ∧ 1 < ds.length)) (ended : after.rest = [])
    (scaled : (accumulate maxSignificand 0 ds).2 ≠ 0 →
      (floatOfParts positive (accumulate maxSignificand 0 ds).1
        (accumulate maxSignificand 0 ds).2).isSome = true) :
    Cut (AgainOrShort s a c') (readNumber positive d) := by
  rw [readNumber_of_digits digits ne zero (noExponent_of_nil ended), if_neg]
  · split
    · exact .inr ended
    · next left => exact short_finishFloat ended (scaled left)
  · simp [Cursor.peek?, ended]

section InNumber

variable {ds more : List Nat} {after after' : Cursor}

/-- The cut is behind the digits in front of a point and behind the byte that follows them. -/
theorem cut_behind_digits (free : ExponentFree c.rest) (whole : c.digits = (ds, after))
    (part : d.digits = (ds, after')) (ahead : after'.rest ≠ []) (meets : Meets s after after')
    (h : readNumber positive c = .ok (a, c')) :
    Cut (AgainOrShort s a c') (readNumber positive d) := by
  obtain ⟨ne, zero⟩ := leading_of_readNumber whole h
  have plain := free.behind_digits whole ne
  rw [readNumber_of_digits whole ne zero plain] at h
  rw [readNumber_of_digits part ne zero (meets.noExponent ahead plain)]
  obtain ⟨b, here⟩ : ∃ b, after'.peek? = some b :=
    Option.ne_none_iff_exists'.1 fun none => ahead (rest_eq_nil_of_peek? none)
  obtain ⟨there, advanced⟩ := meets.peek? here
  rw [there] at h
  rw [here]
  split at h
  · next point =>
    have free := (free.of_spans (spans_digits whole)).of_spans
      (Neutral.spans (there.trans point) (by decide))
    rw [if_pos point]
    exact cut_readFraction (accumulate_le (Nat.zero_le _) ds)
      (all_or_full (lt_ten_of_mem_digits whole)) free advanced h
  · next point =>
    rw [if_neg point]
    split at h
    · next left =>
      obtain ⟨rfl, rfl⟩ := Prod.mk.inj (Except.ok.inj h)
      rw [if_pos left]
      exact .inl ⟨rfl, meets⟩
    · next left =>
      rw [if_neg left]
      exact cut_finishFloat meets h

/-- The first digits of a number that is read are not too large either. -/
theorem isSome_before_cut (free : ExponentFree c.rest) (whole : c.digits = (ds ++ more, after))
    (h : readNumber positive c = .ok (a, c')) (left : (accumulate maxSignificand 0 ds).2 ≠ 0) :
    (floatOfParts positive (accumulate maxSignificand 0 ds).1
      (accumulate maxSignificand 0 ds).2).isSome = true := by
  obtain ⟨ne, zero⟩ := leading_of_readNumber whole h
  have range := @accumulate_le maxSignificand 0 (Nat.zero_le _) ds
  have full := full_of_accumulate
    (fun d hd => lt_ten_of_mem_digits whole d (List.mem_append_left more hd)) left
  refine isSome_of_le range full (Nat.le_add_right _ more.length) ?_
  rw [readNumber_of_digits whole ne zero (free.behind_digits whole ne), accumulate_append,
    if_neg left] at h
  split at h
  · next point =>
    have free := (free.of_spans (spans_digits whole)).of_spans (Neutral.spans point (by decide))
    obtain ⟨fs, value⟩ := isSome_of_readFraction free h
    exact isSome_before_fraction range full value
  · rw [if_neg (by dsimp only; omega)] at h
    exact isSome_of_finishFloat h

end InNumber

/-- **Cut numbers.** A number without exponent is read again or up to the cut. -/
theorem cut_readNumber (free : ExponentFree c.rest) (meets : Meets s c d)
    (h : readNumber positive c = .ok (a, c')) :
    Cut (AgainOrShort s a c') (readNumber positive d) := by
  cases whole : c.digits with | mk ds after =>
  cases part : d.digits with | mk ds' after' =>
  have digits := cut_digits meets
  rw [whole, part] at digits
  dsimp only at digits
  rcases digits with ⟨rfl, ahead, meets⟩ | ⟨ended, more, rfl⟩
  · exact cut_behind_digits free whole part ahead meets h
  by_cases none : ds' = []
  · subst none
    unfold readNumber
    rw [part]
    dsimp only
    rw [digits_nil part ended]
    trivial
  · have zero := (leading_of_readNumber whole h).2
    refine short_readNumber part none (fun h => zero ?_) ended (isSome_before_cut free whole h)
    obtain ⟨d, ds', rfl⟩ := List.exists_cons_of_ne_nil none
    exact ⟨h.1, Nat.lt_of_lt_of_le h.2 (by simp)⟩

end Cut

end HostWatch.Json
