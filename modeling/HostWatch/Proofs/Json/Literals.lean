import HostWatch.Proofs.Json.RoundTrip

/-!
# Whole numbers as they are written

A whole number in a text is a sign and digits, of any length. What is read of it is a whole number
again or a double, and the text that is written for that may be another one.

1. A literal is exact if its number is one that values keep and it is not minus zero. An exact
   literal is read as its number (`Literal.number?_of_isExact`), and the number is written with the
   digits of the literal (`digitsOf_valueOf`).
2. Any other literal is read as a double, if at all (`Literal.float_of_not_isExact`), and the text
   of a double is never that of a whole number (`floatText_ne_text`).
3. So the texts that are written for two literals are the same only if the literals are, or if
   neither is exact (`Literal.eq_of_reprinted?`).
-/

namespace HostWatch.Json

instance (ds : List Nat) : Decidable (LeadingDigits ds) :=
  decidable_of_iff ((∀ d ∈ ds, d < 10) ∧ ds ≠ [] ∧ ¬ (ds.head? = some 0 ∧ 1 < ds.length))
    ⟨fun ⟨digits, ne, alone⟩ => ⟨digits, ne, alone⟩, fun h => ⟨h.digits, h.ne_nil, h.zero_alone⟩⟩

/-- A whole number as it is written: perhaps a minus, and digits. -/
structure Literal where
  negative : Bool
  digits : List Nat
  leading : LeadingDigits digits
  deriving DecidableEq

namespace Literal

/-- The text of a literal. -/
def text (l : Literal) : String :=
  (if l.negative then "-" else "") ++ .ofList (l.digits.map Nat.digitChar)

/-- The number that a literal means. -/
def value (l : Literal) : Int :=
  if l.negative then -(valueOf 0 l.digits : Int) else valueOf 0 l.digits

/-- The number is one that values keep, and is not minus zero. -/
def IsExact (l : Literal) : Prop :=
  minInt ≤ l.value ∧ l.value ≤ maxInt ∧ ¬ (l.negative = true ∧ l.value = 0)

instance : DecidablePred IsExact := fun _ =>
  inferInstanceAs (Decidable (_ ∧ _ ∧ ¬ (_ ∧ _)))

end Literal

/-- What is read of the digits of a whole number; none if they are too many for a double. -/
def numberOf? (positive : Bool) (ds : List Nat) : Option Number :=
  match accumulate maxSignificand 0 ds with
  | (n, beyond) =>
    if beyond = 0 then some (wholeNumber positive n)
    else (floatOfParts positive n beyond).map .float

namespace Literal

/-- What is read of a literal. -/
def number? (l : Literal) : Option Number := numberOf? (!l.negative) l.digits

/-- The text that is written for what is read of a literal. -/
def reprinted? (l : Literal) : Option String := l.number?.map fun n => render n.toJson

end Literal

/-! ## The text of a literal -/

theorem utf8_injective {s t : String} (h : Text.utf8 s = Text.utf8 t) : s = t := by
  have decoded := Text.fromUTF8?_utf8 s
  rw [h, Text.fromUTF8?_utf8 t] at decoded
  exact (Option.some.inj decoded).symm

theorem numeralBytes_injective {ds es : List Nat} (hd : ∀ d ∈ ds, d < 10) (he : ∀ d ∈ es, d < 10)
    (h : numeralBytes ds = numeralBytes es) : ds = es := by
  have back : ∀ ds : List Nat, (∀ d ∈ ds, d < 10) →
      (numeralBytes ds).map digitValue? = ds.map some := by
    intro ds digits
    rw [numeralBytes, List.map_map]
    exact List.map_congr_left fun d hd => digitValue?_digitByte d (digits d hd)
  have same := back ds hd
  rw [h, back es he] at same
  exact (List.map_injective_iff.2 (Option.some_injective Nat) same).symm

namespace Literal

theorem utf8_text (l : Literal) :
    Text.utf8 l.text = (if l.negative then [0x2D] else []) ++ numeralBytes l.digits := by
  have digits : Text.utf8 (.ofList (l.digits.map Nat.digitChar)) = numeralBytes l.digits :=
    utf8_of_toList l.leading.digits String.toList_ofList
  rw [text, Text.utf8_append, digits]
  cases l.negative <;> rfl

/-- Digits do not begin with a minus. -/
theorem minus_ne_numeralBytes {ds : List Nat} (h : LeadingDigits ds) (bytes : List UInt8) :
    0x2D :: bytes ≠ numeralBytes ds := by
  intro same
  obtain ⟨d, hd, first⟩ := h.head?_numeralBytes []
  rw [List.append_nil, ← same] at first
  have : ∀ d < 10, (0x2D : UInt8) ≠ digitByte d := by decide
  exact this d hd (Option.some.inj first)

theorem text_injective {l m : Literal} (h : l.text = m.text) : l = m := by
  have bytes := congrArg Text.utf8 h
  rw [utf8_text, utf8_text] at bytes
  obtain ⟨negative, ds, hd⟩ := l
  obtain ⟨negative', es, he⟩ := m
  cases negative <;> cases negative'
  · obtain rfl := numeralBytes_injective hd.digits he.digits bytes
    rfl
  · exact absurd bytes.symm (minus_ne_numeralBytes hd _)
  · exact absurd bytes (minus_ne_numeralBytes he _)
  · obtain rfl := numeralBytes_injective hd.digits he.digits (List.cons.inj bytes).2
    rfl

end Literal

/-! ## Exact literals -/

theorem valueOf_pos {ds : List Nat} (ne : ds ≠ []) (nonzero : ds.head? ≠ some 0) :
    0 < valueOf 0 ds := by
  obtain ⟨d, ds, rfl⟩ := List.exists_cons_of_ne_nil ne
  have first : d ≠ 0 := fun zero => nonzero (congrArg some zero)
  have := le_valueOf (0 * 10 + d) ds
  show 0 < valueOf (0 * 10 + d) ds
  omega

/-- A number is written with the digits that it was read from. -/
theorem digitsOf_valueOf {ds : List Nat} (h : LeadingDigits ds) : digitsOf (valueOf 0 ds) = ds := by
  induction ds using List.reverseRecOn with
  | nil => exact absurd rfl h.ne_nil
  | append_singleton front d ih =>
    have small : d < 10 := h.digits d (by simp)
    rw [valueOf_append]
    show digitsOf (valueOf 0 front * 10 + d) = front ++ [d]
    rcases eq_or_ne front [] with rfl | ne
    · show digitsOf (0 * 10 + d) = [d]
      rw [Nat.zero_mul, Nat.zero_add, digitsOf_of_lt small]
    · have length : 0 < front.length := List.length_pos_iff.2 ne
      have nonzero : front.head? ≠ some 0 := fun zero =>
        h.zero_alone ⟨by simp [zero], by simp [length]⟩
      have leading : LeadingDigits front :=
        ⟨fun x hx => h.digits x (List.mem_append_left _ hx), ne, fun alone => nonzero alone.1⟩
      have pos := valueOf_pos ne nonzero
      rw [digitsOf_of_le (by omega), show (valueOf 0 front * 10 + d) / 10 = valueOf 0 front by omega,
        show (valueOf 0 front * 10 + d) % 10 = d by omega, ih leading]

/-- The numbers that 64 bits end at. -/
theorem wordLimits : minInt = -9223372036854775808 ∧ maxInt = 18446744073709551615 ∧
    maxSignificand = 18446744073709551615 ∧ Nat.pow 2 63 = 9223372036854775808 :=
  ⟨rfl, rfl, rfl, rfl⟩

namespace Literal

theorem number?_of_isExact {l : Literal} (h : l.IsExact) : l.number? = some (.int l.value) := by
  obtain ⟨minInt_eq, maxInt_eq, limit_eq, power_eq⟩ := wordLimits
  obtain ⟨negative, ds, leading⟩ := l
  obtain ⟨low, high, zero⟩ := h
  unfold value at low high zero
  unfold number? value numberOf?
  cases negative
  · simp only [Bool.false_eq_true, if_false] at low high ⊢
    rw [accumulate_eq ds 0 (by omega)]
    rfl
  · simp only [if_true, true_and] at low high zero ⊢
    rw [accumulate_eq ds 0 (by omega)]
    show some (wholeNumber false (valueOf 0 ds)) = _
    rw [wholeNumber, if_neg Bool.false_ne_true, if_pos (by omega)]

/-- An exact literal is written as it was read. -/
theorem reprinted?_of_isExact {l : Literal} (h : l.IsExact) : l.reprinted? = some l.text := by
  have same : render (.int l.value) = l.text := by
    apply utf8_injective
    rw [utf8_render_int, utf8_text, ← digitsOf_valueOf l.leading]
    obtain ⟨-, -, zero⟩ := h
    unfold value at zero ⊢
    cases sign : l.negative
    · simp
    · simp only [sign, if_true, true_and] at zero ⊢
      rw [if_pos (by omega), Int.natAbs_neg, Int.natAbs_natCast]
  rw [reprinted?, number?_of_isExact h]
  exact congrArg some same

end Literal

/-! ## Other literals -/

/-- Digits that leave the limit are not taken in full. -/
theorem accumulate_beyond {limit : Nat} (ds : List Nat) :
    ∀ n, n ≤ limit → limit < valueOf n ds → (accumulate limit n ds).2 ≠ 0 := by
  induction ds with
  | nil => intro n low high; exact absurd high (Nat.not_lt.2 low)
  | cons d ds ih =>
    intro n low high
    rw [accumulate]
    split
    · exact Nat.succ_ne_zero _
    · next within => exact ih _ (Nat.le_of_not_lt within) high

/-- What is read of any other literal is a double. -/
theorem Literal.float_of_not_isExact {l : Literal} (h : ¬ l.IsExact) {n : Number}
    (read : l.number? = some n) : ∃ x, n = .float x := by
  obtain ⟨minInt_eq, maxInt_eq, limit_eq, power_eq⟩ := wordLimits
  obtain ⟨negative, ds, leading⟩ := l
  unfold Literal.IsExact Literal.value at h
  unfold Literal.number? numberOf? at read
  dsimp only at h read
  by_cases range : valueOf 0 ds ≤ maxSignificand
  · rw [accumulate_eq ds 0 range, if_pos rfl] at read
    obtain rfl := Option.some.inj read
    cases negative
    · simp only [Bool.false_eq_true, if_false, false_and, not_false_iff, and_true] at h
      omega
    · simp only [if_true, true_and] at h
      rw [wholeNumber, Bool.not_true, if_neg Bool.false_ne_true, if_neg (by omega)]
      exact ⟨_, rfl⟩
  · have beyond := accumulate_beyond ds 0 (Nat.zero_le _) (Nat.lt_of_not_le range)
    rw [if_neg beyond] at read
    obtain ⟨x, -, rfl⟩ := Option.map_eq_some_iff.1 read
    exact ⟨x, rfl⟩

/-- A character that a double is written with and a whole number is not. -/
def IsFloatMark (c : Char) : Prop := c = '.' ∨ c = 'e' ∨ c = 'n'

instance : DecidablePred IsFloatMark := fun c => inferInstanceAs (Decidable (c = _ ∨ c = _ ∨ c = _))

theorem Literal.not_isFloatMark {l : Literal} {c : Char} (h : c ∈ l.text.toList) :
    ¬ IsFloatMark c := by
  rw [text, String.toList_append, String.toList_ofList] at h
  rcases List.mem_append.1 h with sign | digit
  · split_ifs at sign
    · obtain rfl : c = '-' := by simpa using sign
      decide
    · simp at sign
  · obtain ⟨d, hd, rfl⟩ := List.mem_map.1 digit
    have plain : ∀ d < 10, ¬ IsFloatMark d.digitChar := by decide
    exact plain d (l.leading.digits d hd)

/-- Some character of the text is the mark of a double. -/
def HasFloatMark (s : String) : Prop := ∃ c ∈ s.toList, IsFloatMark c

theorem HasFloatMark.append_left {t : String} (h : HasFloatMark t) (s : String) :
    HasFloatMark (s ++ t) := by
  obtain ⟨c, hc, mark⟩ := h
  exact ⟨c, by rw [String.toList_append]; exact List.mem_append_right _ hc, mark⟩

theorem HasFloatMark.append_right {s : String} (h : HasFloatMark s) (t : String) :
    HasFloatMark (s ++ t) := by
  obtain ⟨c, hc, mark⟩ := h
  exact ⟨c, by rw [String.toList_append]; exact List.mem_append_left _ hc, mark⟩

theorem hasFloatMark_positionalText (digits : String) (point : Int) :
    HasFloatMark (numberLayout.positionalText digits point) := by
  unfold Decimal.Layout.positionalText
  dsimp only
  split_ifs with whole keep part
  · have zero : HasFloatMark ".0" := ⟨'.', by decide, by decide⟩
    exact zero.append_left _
  · exact absurd rfl keep
  · have mark : HasFloatMark "." := ⟨'.', by decide, by decide⟩
    exact (mark.append_left _).append_right _
  · have zero : HasFloatMark "0." := ⟨'.', by decide, by decide⟩
    exact (zero.append_right _).append_right _

theorem hasFloatMark_exponentialText (digits : String) (point : Int) :
    HasFloatMark (numberLayout.exponentialText digits point) := by
  have letter : HasFloatMark "e" := ⟨'e', by decide, by decide⟩
  exact ((letter.append_left _).append_right _).append_right _

theorem hasFloatMark_toText (s : Decimal.Scientific) : HasFloatMark (s.toText numberLayout) := by
  unfold Decimal.Scientific.toText
  dsimp only [numberLayout]
  split_ifs
  · exact hasFloatMark_positionalText _ _
  · exact hasFloatMark_exponentialText _ _

theorem hasFloatMark_floatText (x : Float) : HasFloatMark (floatText x) := by
  unfold floatText
  split_ifs with special
  · exact ⟨'n', by decide, by decide⟩
  · unfold Decimal.shortestText
    rcases magnitude_of_finite (Bool.eq_false_of_not_eq_true special) with zero | ⟨b, finite, -⟩
    · rw [zero]
      have : HasFloatMark "0.0" := ⟨'.', by decide, by decide⟩
      exact this.append_left _
    · rw [finite]
      exact (hasFloatMark_toText _).append_left _

/-- The text of a double is not that of a whole number. -/
theorem floatText_ne_text (x : Float) (l : Literal) : floatText x ≠ l.text := by
  intro same
  obtain ⟨c, hc, mark⟩ := hasFloatMark_floatText x
  exact Literal.not_isFloatMark (same ▸ hc) mark

namespace Literal

/-- No literal that is not exact is written as a whole number. -/
theorem reprinted?_ne_text {l : Literal} (h : ¬ l.IsExact) (m : Literal) :
    l.reprinted? ≠ some m.text := by
  intro same
  obtain ⟨n, read, written⟩ := Option.map_eq_some_iff.1 same
  obtain ⟨x, rfl⟩ := float_of_not_isExact h read
  exact floatText_ne_text x m written

/-- Exactly the exact literals are written as they were read. -/
theorem reprinted?_eq_text_iff (l : Literal) : l.reprinted? = some l.text ↔ l.IsExact :=
  ⟨fun same => Decidable.by_contra fun h => reprinted?_ne_text h l same, reprinted?_of_isExact⟩

/-- Two literals that are written alike are the same, or neither is exact. -/
theorem eq_of_reprinted? {l m : Literal} {s : String} (hl : l.reprinted? = some s)
    (hm : m.reprinted? = some s) : l = m ∨ ¬ l.IsExact ∧ ¬ m.IsExact := by
  by_cases exactl : l.IsExact <;> by_cases exactm : m.IsExact
  · rw [reprinted?_of_isExact exactl] at hl
    rw [reprinted?_of_isExact exactm, ← hl] at hm
    exact .inl (text_injective (Option.some.inj hm).symm)
  · rw [reprinted?_of_isExact exactl] at hl
    exact absurd (hm.trans hl.symm) (reprinted?_ne_text exactm l)
  · rw [reprinted?_of_isExact exactm] at hm
    exact absurd (hl.trans hm.symm) (reprinted?_ne_text exactl m)
  · exact .inr ⟨exactl, exactm⟩

end Literal

end HostWatch.Json
