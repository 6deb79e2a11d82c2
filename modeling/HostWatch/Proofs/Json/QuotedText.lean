import HostWatch.Json.Reader

/-!
# Quoted text is read back

`readString_quote`: a text that was put in quotes is read back from its bytes, whatever follows
them.

1. The bytes of a text are those of its characters one after another, and they decode to it.
2. A character is written as itself, as a pair with a backslash, or as `\u00XX`; in each case the
   loop of the reader collects the bytes of that character (`collects_escapeChar`).
3. Along a text the collected bytes add up (`collects_escapeChars`), and the closing quote ends
   the loop.
-/

namespace HostWatch

/-! ## Bytes of a text -/

namespace Text

theorem utf8_append (a b : String) : utf8 (a ++ b) = utf8 a ++ utf8 b := by
  simp [utf8, ByteArray.data_append]

theorem utf8_ofList (cs : List Char) : utf8 (.ofList cs) = cs.flatMap String.utf8EncodeChar := by
  simp [utf8, List.utf8Encode]

theorem utf8_eq_flatMap (s : String) : utf8 s = s.toList.flatMap String.utf8EncodeChar := by
  rw [← utf8_ofList, String.ofList_toList]

theorem fromUTF8?_utf8 (s : String) : String.fromUTF8? ⟨(utf8 s).toArray⟩ = some s := by
  have h : (⟨(utf8 s).toArray⟩ : ByteArray) = s.toByteArray := by simp [utf8]
  rw [h, String.fromUTF8?, dif_pos s.isValidUTF8]
  rfl

/-- A byte of a character is the character itself, or no ASCII byte. -/
theorem mem_utf8EncodeChar {c : Char} {b : UInt8} (h : b ∈ String.utf8EncodeChar c) :
    b.toNat = c.toNat ∨ 0x80 ≤ b.toNat := by
  have hc : c.val.toNat = c.toNat := rfl
  revert h
  fun_cases String.utf8EncodeChar c with
  | case1 v hv =>
    intro h
    rw [List.mem_singleton] at h
    rw [h, UInt8.toNat_ofNat']
    omega
  | case2 =>
    intro h
    simp only [List.mem_cons, List.not_mem_nil, or_false] at h
    rcases h with h | h <;> rw [h, UInt8.toNat_ofNat'] <;> omega
  | case3 =>
    intro h
    simp only [List.mem_cons, List.not_mem_nil, or_false] at h
    rcases h with h | h | h <;> rw [h, UInt8.toNat_ofNat'] <;> omega
  | case4 =>
    intro h
    simp only [List.mem_cons, List.not_mem_nil, or_false] at h
    rcases h with h | h | h | h <;> rw [h, UInt8.toNat_ofNat'] <;> omega

end Text

namespace Json

/-! ## The loop of the reader -/

/-- In the loop that reads a string these bytes stand for that text: they are taken, and the text
is added to what was collected. -/
def Collects (bytes text : List UInt8) : Prop :=
  ∀ bound read rest place, (bytes ++ rest).length ≤ bound.length →
    ∃ bound' place', rest.length ≤ bound'.length ∧
      readStringBytes bound read ⟨bytes ++ rest, place⟩ =
        readStringBytes bound' (text.reverse ++ read) ⟨rest, place'⟩

theorem Collects.nil : Collects [] [] := by
  intro bound read rest place h
  exact ⟨bound, place, h, rfl⟩

theorem Collects.append {a b x y : List UInt8} (ha : Collects a x) (hb : Collects b y) :
    Collects (a ++ b) (x ++ y) := by
  intro bound read rest place h
  rw [List.append_assoc] at h ⊢
  obtain ⟨bound₁, place₁, h₁, e₁⟩ := ha bound read (b ++ rest) place h
  obtain ⟨bound₂, place₂, h₂, e₂⟩ := hb bound₁ (x.reverse ++ read) rest place₁ h₁
  refine ⟨bound₂, place₂, h₂, ?_⟩
  rw [e₁, e₂, List.reverse_append, List.append_assoc]

/-- A byte that is no quote, no backslash and no control character stands for itself. -/
theorem collects_plain {b : UInt8} (hq : b ≠ 0x22) (hs : b ≠ 0x5C) (hc : ¬ b < 0x20) :
    Collects [b] [b] := by
  intro bound read rest place h
  obtain _ | ⟨_, bound⟩ := bound
  · simp at h
  refine ⟨bound, place.after b, by simpa using h, ?_⟩
  rw [readStringBytes]
  simp only [List.singleton_append, if_neg hq, if_neg hs, if_neg hc]
  rfl

theorem collects_plains {bs : List UInt8}
    (h : ∀ b ∈ bs, b ≠ 0x22 ∧ b ≠ 0x5C ∧ ¬ b < 0x20) : Collects bs bs := by
  induction bs with
  | nil => exact Collects.nil
  | cons b bs ih =>
    obtain ⟨hq, hs, hc⟩ := h b List.mem_cons_self
    exact (collects_plain hq hs hc).append (ih fun b hb => h b (List.mem_cons_of_mem _ hb))

/-- What `readEscape` makes of the bytes behind a backslash is collected. -/
theorem collects_escape {bytes text : List UInt8}
    (h : ∀ rest place, ∃ place',
      readEscape ⟨bytes ++ rest, place⟩ = .ok (text, ⟨rest, place'⟩)) :
    Collects (0x5C :: bytes) text := by
  intro bound read rest place hb
  obtain _ | ⟨_, bound⟩ := bound
  · simp at hb
  obtain ⟨place', e⟩ := h rest (place.after 0x5C)
  refine ⟨bound, place', ?_, ?_⟩
  · simp only [List.cons_append, List.length_cons, List.length_append] at hb
    omega
  · rw [readStringBytes]
    simp only [List.cons_append, if_neg (show ¬ (0x5C : UInt8) = 0x22 by decide), if_true,
      Cursor.advance, e]

/-! ## Characters -/

theorem readEscape_short {letter b : UInt8} (h : shortEscape? letter = some b) (rest : List UInt8)
    (place : Place) :
    ∃ place', readEscape ⟨[letter] ++ rest, place⟩ = .ok ([b], ⟨rest, place'⟩) := by
  have hu : letter ≠ 0x75 := by
    rintro rfl
    rw [show shortEscape? 0x75 = none by decide] at h
    exact absurd h (by simp)
  refine ⟨place.after letter, ?_⟩
  simp only [readEscape, expectInString, List.singleton_append, bind, Except.bind, if_neg hu, h]
  rfl

theorem readEscape_unicode {a b d e : UInt8} {n : Nat} (h : hexFour? a b d e = some n)
    (hn : n < 0x20) (rest : List UInt8) (place : Place) :
    ∃ place', readEscape ⟨[0x75, a, b, d, e] ++ rest, place⟩ =
      .ok (String.utf8EncodeChar (Char.ofNat n), ⟨rest, place'⟩) := by
  have low : ¬ (0xDC00 ≤ n ∧ n ≤ 0xDFFF) := by omega
  have high : ¬ (0xD800 ≤ n ∧ n ≤ 0xDBFF) := by omega
  refine ⟨((((place.after 0x75).after a).after b).after d).after e, ?_⟩
  simp only [readEscape, expectInString, List.cons_append, List.nil_append, bind, Except.bind,
    if_true, readUnicodeEscape, readHexFour, Cursor.advance, Cursor.advanceBy, h, if_neg low,
    if_neg high]
  rfl

/-- The bytes of a character of ASCII that is not written as itself. -/
theorem hexDigits_control : ∀ n < 0x20,
    hexFour? 0x30 0x30 (UInt8.ofNat (hexDigit (n / 16)).toNat)
      (UInt8.ofNat (hexDigit (n % 16)).toNat) = some n ∧
    String.utf8EncodeChar (hexDigit (n / 16)) = [UInt8.ofNat (hexDigit (n / 16)).toNat] ∧
    String.utf8EncodeChar (hexDigit (n % 16)) = [UInt8.ofNat (hexDigit (n % 16)).toNat] := by
  decide

theorem collects_control {c : Char} (hc : c.toNat < 0x20) :
    Collects (['\\', 'u', '0', '0', hexDigit (c.toNat / 16), hexDigit (c.toNat % 16)].flatMap
      String.utf8EncodeChar) (String.utf8EncodeChar c) := by
  obtain ⟨hn, hi, lo⟩ := hexDigits_control c.toNat hc
  have h := collects_escape (readEscape_unicode hn hc)
  rw [Char.ofNat_toNat] at h
  simp only [List.flatMap_cons, List.flatMap_nil, hi, lo]
  exact h

theorem collects_short {c letter : Char} (l b : UInt8) (h : shortEscape? l = some b)
    (hl : String.utf8EncodeChar letter = [l]) (hc : String.utf8EncodeChar c = [b]) :
    Collects (['\\', letter].flatMap String.utf8EncodeChar) (String.utf8EncodeChar c) := by
  simp only [List.flatMap_cons, List.flatMap_nil, hl, hc]
  exact collects_escape (readEscape_short h)

theorem collects_ordinary {c : Char} (hq : c ≠ '"') (hs : c ≠ '\\') (hc : 0x20 ≤ c.toNat) :
    Collects (String.utf8EncodeChar c) (String.utf8EncodeChar c) := by
  have hq' : c.toNat ≠ 0x22 := fun h => hq (Char.toNat_inj.1 h)
  have hs' : c.toNat ≠ 0x5C := fun h => hs (Char.toNat_inj.1 h)
  refine collects_plains fun b hb => ?_
  have h := Text.mem_utf8EncodeChar hb
  refine ⟨?_, ?_, ?_⟩
  · rintro rfl
    simp at h
    omega
  · rintro rfl
    simp at h
    omega
  · rw [UInt8.lt_iff_toNat_lt]
    simp
    omega

/-- However a character is written, it is collected. -/
theorem collects_escapeChar (c : Char) :
    Collects ((escapeChar c).flatMap String.utf8EncodeChar) (String.utf8EncodeChar c) := by
  fun_cases escapeChar c with
  | case1 h => exact collects_short 0x22 0x22 (by decide) (by decide) (by rw [h]; decide)
  | case2 _ h => exact collects_short 0x5C 0x5C (by decide) (by decide) (by rw [h]; decide)
  | case3 hq hs h => simpa using collects_ordinary hq hs h
  | case4 _ _ _ h => exact collects_short 0x6E 0x0A (by decide) (by decide) (by rw [h]; decide)
  | case5 _ _ _ _ h => exact collects_short 0x72 0x0D (by decide) (by decide) (by rw [h]; decide)
  | case6 _ _ _ _ _ h => exact collects_short 0x74 0x09 (by decide) (by decide) (by rw [h]; decide)
  | case7 _ _ _ _ _ _ h =>
    obtain rfl : c = Char.ofNat 8 := by rw [← h, Char.ofNat_toNat]
    exact collects_short 0x62 0x08 (by decide) (by decide) (by decide)
  | case8 _ _ _ _ _ _ _ h =>
    obtain rfl : c = Char.ofNat 12 := by rw [← h, Char.ofNat_toNat]
    exact collects_short 0x66 0x0C (by decide) (by decide) (by decide)
  | case9 _ _ h => exact collects_control (by omega)

theorem collects_escapeChars (cs : List Char) :
    Collects ((cs.flatMap escapeChar).flatMap String.utf8EncodeChar)
      (cs.flatMap String.utf8EncodeChar) := by
  induction cs with
  | nil => exact Collects.nil
  | cons c cs ih =>
    simp only [List.flatMap_cons, List.flatMap_append]
    exact (collects_escapeChar c).append ih

/-! ## Whole strings -/

/-- The bytes of a quoted text behind its opening quote. -/
def quotedTail (s : String) : List UInt8 :=
  (s.toList.flatMap escapeChar).flatMap String.utf8EncodeChar ++ [0x22]

theorem utf8_quote (s : String) : Text.utf8 (quote s) = 0x22 :: quotedTail s := by
  rw [quote, Text.utf8_ofList, List.cons_append, List.flatMap_cons, List.flatMap_append]
  rfl

/-- **Quoted text.** A quoted text is read back, whatever follows it. -/
theorem readString_quote (s : String) (rest : List UInt8) (place : Place) :
    ∃ place', readString ⟨quotedTail s ++ rest, place⟩ = .ok (s, ⟨rest, place'⟩) := by
  have h := collects_escapeChars s.toList (quotedTail s ++ rest) [] (0x22 :: rest) place
    (by simp [quotedTail])
  obtain ⟨bound, place₁, hb, e⟩ := h
  obtain _ | ⟨_, bound⟩ := bound
  · simp at hb
  refine ⟨place₁.after 0x22, ?_⟩
  have e' : readStringBytes (quotedTail s ++ rest) [] ⟨quotedTail s ++ rest, place⟩ =
      .ok (Text.utf8 s, ⟨rest, place₁.after 0x22⟩) := by
    rw [show quotedTail s ++ rest = (s.toList.flatMap escapeChar).flatMap String.utf8EncodeChar ++
      (0x22 :: rest) by simp [quotedTail]] at e ⊢
    rw [e, readStringBytes, ← Text.utf8_eq_flatMap]
    simp [Cursor.advance]
  rw [readString]
  simp only [e', Text.fromUTF8?_utf8]

end Json

end HostWatch
