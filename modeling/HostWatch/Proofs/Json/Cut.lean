import HostWatch.Proofs.Json.Lexical

/-!
# Cut texts

A text that is cut off is read like the whole one up to the cut. What was read before the cut is
the same; what the cut meets is reported as an end of the text, which more bytes may mend (`Cut`).

1. `Meets s c c'`: behind the bytes of `c'` the bytes `s` have been cut off from those of `c`.
2. Each reader that succeeds on the whole text either succeeds on the cut one and meets it again, or
   reports an end. Strings end at their quote, and words and containers at their last byte, so that
   none of them is taken for something shorter; numbers are treated apart.
-/

namespace HostWatch.Json

/-- What is cut off from the bytes of the first cursor to make those of the second one. -/
def Meets (s : List UInt8) (c c' : Cursor) : Prop := c.rest = c'.rest ++ s

/-- What reading a cut text may give: what is expected, or a fault that more bytes may mend. -/
def Cut (R : β → Prop) : Except Failure β → Prop
  | .ok b => R b
  | .error e => e.fault.IsEnd

/-- The value that was read of the whole text, and a cursor that meets the one behind it. -/
def Again (s : List UInt8) (a : α) (c : Cursor) (r : α × Cursor) : Prop := r.1 = a ∧ Meets s c r.2

variable {s : List UInt8} {c c' d : Cursor}

theorem Cut.cases {R : β → Prop} {x : Except Failure β} (h : Cut R x) :
    (∃ b, x = .ok b ∧ R b) ∨ ∃ e, x = .error e ∧ e.fault.IsEnd := by
  cases x with
  | ok b => exact .inl ⟨b, rfl, h⟩
  | error e => exact .inr ⟨e, rfl, h⟩

theorem Cut.mono {R R' : β → Prop} {x : Except Failure β} (h : Cut R x) (weaker : ∀ b, R b → R' b) :
    Cut R' x := by
  rcases h.cases with ⟨b, rfl, hb⟩ | ⟨e, rfl, ended⟩
  · exact weaker b hb
  · exact ended

theorem Cut.bind {R : β → Prop} {R' : γ → Prop} {x : Except Failure β}
    {f : β → Except Failure γ} (h : Cut R x) (next : ∀ b, R b → Cut R' (f b)) :
    Cut R' (x >>= f) := by
  rcases h.cases with ⟨b, rfl, hb⟩ | ⟨e, rfl, ended⟩
  · exact next b hb
  · exact ended

/-- What is read of the cut text, with the reading it comes from. -/
theorem Cut.attach {R : β → Prop} {x : Except Failure β} (h : Cut R x) :
    Cut (fun b => x = .ok b ∧ R b) x := by
  rcases h.cases with ⟨b, rfl, hb⟩ | ⟨e, rfl, ended⟩
  · exact ⟨rfl, hb⟩
  · exact ended

theorem Cut.map {R : β → Prop} {R' : γ → Prop} {x : Except Failure β} {f : β → γ} (h : Cut R x)
    (next : ∀ b, R b → R' (f b)) : Cut R' (x.map f) := by
  rcases h.cases with ⟨b, rfl, hb⟩ | ⟨e, rfl, ended⟩
  · exact next b hb
  · exact ended

/-! ## The byte at a cursor -/

theorem Meets.peek? (h : Meets s c d) {b : UInt8} (here : d.peek? = some b) :
    c.peek? = some b ∧ Meets s c.advance d.advance := by
  have rest := rest_of_peek? here
  obtain ⟨bytes, place⟩ := c
  rw [Meets, rest, List.cons_append] at h
  obtain rfl : bytes = _ := h
  exact ⟨rfl, rfl⟩

theorem rest_eq_nil_of_peek? (h : d.peek? = none) : d.rest = [] := List.head?_eq_none_iff.1 h

theorem meets_skipGap (h : Meets s c d) : d.skipGap.rest = [] ∨ Meets s c.skipGap d.skipGap := by
  obtain ⟨bytes, place⟩ := d
  obtain ⟨_, place'⟩ := c
  obtain rfl : _ = bytes ++ s := h
  unfold Cursor.skipGap
  dsimp only
  induction bytes generalizing place place' with
  | nil => exact .inl rfl
  | cons b bytes ih =>
    simp only [List.cons_append, skipGapFrom]
    split
    · exact ih _ _
    · exact .inr rfl

/-- The byte behind a gap is the same, unless the text ends there. -/
theorem Meets.skipGap (h : Meets s c d) : d.skipGap.peek? = none ∨
    ∃ b, d.skipGap.peek? = some b ∧ c.skipGap.peek? = some b ∧ Meets s c.skipGap d.skipGap ∧
      Meets s c.skipGap.advance d.skipGap.advance := by
  cases here : d.skipGap.peek? with
  | none => exact .inl rfl
  | some b =>
    right
    rcases meets_skipGap h with none | meets
    · rw [rest_of_peek? here] at none
      cases none
    · obtain ⟨there, advanced⟩ := meets.peek? here
      exact ⟨b, rfl, there, meets, advanced⟩

/-! ## Strings -/

theorem cut_expectInString (meets : Meets s c d) {b : UInt8} (h : expectInString c = .ok b) :
    Cut (fun x => x = b ∧ d.peek? = some b) (expectInString d) := by
  obtain ⟨bytes, place⟩ := d
  cases bytes with
  | nil => trivial
  | cons x bytes =>
    have here := peek?_of_expectInString h
    obtain ⟨there, -⟩ := meets.peek? (b := x) rfl
    obtain rfl := Option.some.inj (there.symm.trans here)
    exact ⟨rfl, rfl⟩

theorem cut_readHexFour (meets : Meets s c d) {n : Nat} (h : readHexFour c = .ok (n, c')) :
    Cut (Again s n c') (readHexFour d) := by
  obtain ⟨bytes, place⟩ := d
  obtain ⟨_, place'⟩ := c
  obtain rfl : _ = bytes ++ s := meets
  match bytes with
  | [] | [_] | [_, _] | [_, _, _] => trivial
  | x :: y :: z :: w :: bytes =>
    unfold readHexFour at h ⊢
    dsimp only [List.cons_append] at h ⊢
    split at h
    · next digits =>
      obtain ⟨rfl, rfl⟩ := Prod.mk.inj (Except.ok.inj h)
      exact ⟨rfl, rfl⟩
    · cases h

theorem cut_readLowSurrogate (meets : Meets s c d) {high : Nat} {char : Char}
    (h : readLowSurrogate high c = .ok (char, c')) :
    Cut (Again s char c') (readLowSurrogate high d) := by
  unfold readLowSurrogate at h ⊢
  obtain ⟨b, slash, h⟩ := bind_eq_ok h
  refine (cut_expectInString meets slash).bind ?_
  rintro _ ⟨rfl, here⟩
  have meets := (meets.peek? here).2
  split at h
  · cases h
  · next isSlash =>
    obtain ⟨b', letter, h⟩ := bind_eq_ok h
    rw [if_neg isSlash]
    refine (cut_expectInString meets letter).bind ?_
    rintro _ ⟨rfl, here⟩
    have meets := (meets.peek? here).2
    split at h
    · cases h
    · next isLetter =>
      obtain ⟨⟨low, c₁⟩, digits, h⟩ := bind_eq_ok h
      rw [if_neg isLetter]
      refine (cut_readHexFour meets digits).bind ?_
      rintro ⟨x, d₁⟩ ⟨same, meets⟩
      obtain rfl : x = low := same
      dsimp only at h ⊢
      split at h
      · next range =>
        obtain ⟨eq, rfl⟩ := Prod.mk.inj (Except.ok.inj h)
        rw [if_pos range, eq]
        exact ⟨rfl, meets⟩
      · cases h

theorem cut_readUnicodeEscape (meets : Meets s c d) {char : Char}
    (h : readUnicodeEscape c = .ok (char, c')) : Cut (Again s char c') (readUnicodeEscape d) := by
  unfold readUnicodeEscape at h ⊢
  obtain ⟨⟨n, c₁⟩, first, h⟩ := bind_eq_ok h
  refine (cut_readHexFour meets first).bind ?_
  rintro ⟨_, d₁⟩ ⟨rfl, meets⟩
  dsimp only at h ⊢
  split at h
  · cases h
  · next lone =>
    rw [if_neg lone]
    split at h
    · next pair =>
      rw [if_pos pair]
      exact cut_readLowSurrogate meets h
    · next pair =>
      obtain ⟨rfl, rfl⟩ := Prod.mk.inj (Except.ok.inj h)
      rw [if_neg pair]
      exact ⟨rfl, meets⟩

theorem cut_readEscape (meets : Meets s c d) {bytes : List UInt8}
    (h : readEscape c = .ok (bytes, c')) : Cut (Again s bytes c') (readEscape d) := by
  unfold readEscape at h ⊢
  obtain ⟨b, letter, h⟩ := bind_eq_ok h
  refine (cut_expectInString meets letter).bind ?_
  rintro _ ⟨rfl, here⟩
  have meets := (meets.peek? here).2
  split at h
  · next isLetter =>
    obtain ⟨⟨char, c₁⟩, digits, h⟩ := bind_eq_ok h
    obtain ⟨rfl, rfl⟩ := Prod.mk.inj (Except.ok.inj h)
    rw [if_pos isLetter]
    refine (cut_readUnicodeEscape meets digits).bind ?_
    rintro ⟨_, d₁⟩ ⟨rfl, meets⟩
    exact ⟨rfl, meets⟩
  · next isLetter =>
    rw [if_neg isLetter]
    split at h
    · next short =>
      obtain ⟨rfl, rfl⟩ := Prod.mk.inj (Except.ok.inj h)
      exact ⟨rfl, meets⟩
    · cases h

/-- The loop over the bytes of a string. A bound that is too small is an end as well. -/
theorem cut_readStringBytes {bound bound' read bytes : List UInt8} (meets : Meets s c d)
    (h : readStringBytes bound read c = .ok (bytes, c')) :
    Cut (Again s bytes c') (readStringBytes bound' read d) := by
  induction bound generalizing bound' read c d with
  | nil => cases h
  | cons _ bound ih =>
    obtain _ | ⟨_, bound'⟩ := bound'
    · trivial
    obtain ⟨ahead, place⟩ := d
    obtain ⟨_, place'⟩ := c
    obtain rfl : _ = ahead ++ s := meets
    obtain _ | ⟨b, ahead⟩ := ahead
    · trivial
    have advanced : Meets s (Cursor.advance ⟨b :: (ahead ++ s), place'⟩)
      (Cursor.advance ⟨b :: ahead, place⟩) := rfl
    unfold readStringBytes at h ⊢
    dsimp only [List.cons_append] at h ⊢
    split at h
    · next quote =>
      obtain ⟨rfl, rfl⟩ := Prod.mk.inj (Except.ok.inj h)
      rw [if_pos quote]
      exact ⟨rfl, rfl⟩
    · next quote =>
      rw [if_neg quote]
      split at h
      · next slash =>
        rw [if_pos slash]
        split at h
        · cases h
        · next escape =>
          rcases (cut_readEscape advanced escape).cases with
            ⟨⟨_, d₁⟩, same, rfl, meets⟩ | ⟨e, same, ended⟩
          · rw [same]
            exact ih meets h
          · rw [same]
            exact ended
      · next slash =>
        rw [if_neg slash]
        split at h
        · cases h
        · next control =>
          rw [if_neg control]
          exact ih advanced h

theorem cut_readString (meets : Meets s c d) {text : String} (h : readString c = .ok (text, c')) :
    Cut (Again s text c') (readString d) := by
  unfold readString at h ⊢
  split at h
  · cases h
  · next inside =>
    rcases (cut_readStringBytes meets inside).cases with
      ⟨⟨_, d₁⟩, same, rfl, meets⟩ | ⟨e, same, ended⟩
    · rw [same]
      split at h
      · next decoded =>
        obtain ⟨rfl, rfl⟩ := Prod.mk.inj (Except.ok.inj h)
        dsimp only
        rw [decoded]
        exact ⟨rfl, meets⟩
      · cases h
    · rw [same]
      exact ended

/-! ## Words and punctuation -/

theorem cut_readWord {word : List UInt8} (meets : Meets s c d) (h : readWord word c = .ok c') :
    Cut (Meets s c') (readWord word d) := by
  induction word generalizing c d with
  | nil =>
    obtain rfl := Except.ok.inj h
    exact meets
  | cons w word ih =>
    obtain ⟨ahead, place⟩ := d
    obtain ⟨_, place'⟩ := c
    obtain rfl : _ = ahead ++ s := meets
    obtain _ | ⟨b, ahead⟩ := ahead
    · trivial
    have advanced : Meets s (Cursor.advance ⟨b :: (ahead ++ s), place'⟩)
      (Cursor.advance ⟨b :: ahead, place⟩) := rfl
    unfold readWord at h ⊢
    dsimp only [List.cons_append] at h ⊢
    split at h
    · next same =>
      rw [if_pos same]
      exact ih advanced h
    · cases h

theorem cut_readColon (meets : Meets s c d) (h : readColon c = .ok c') :
    Cut (Meets s c') (readColon d) := by
  unfold readColon at h ⊢
  dsimp only at h ⊢
  rcases meets.skipGap with none | ⟨b, here, there, -, advanced⟩
  · rw [none]
    trivial
  · rw [there] at h
    rw [here]
    split at h
    · cases h
    · next colon =>
      obtain rfl := Option.some.inj colon
      obtain rfl := Except.ok.inj h
      exact advanced
    · cases h

theorem cut_nextItem {first goes : Bool} (meets : Meets s c d)
    (h : nextItem first c = .ok (goes, c')) : Cut (Again s goes c') (nextItem first d) := by
  unfold nextItem at h ⊢
  dsimp only at h ⊢
  rcases meets.skipGap with none | ⟨b, here, there, meets, advanced⟩
  · rw [none]
    trivial
  rw [there] at h
  rw [here]
  split at h
  · cases h
  · next close =>
    obtain rfl := Option.some.inj close
    obtain ⟨rfl, rfl⟩ := Prod.mk.inj (Except.ok.inj h)
    exact ⟨rfl, meets⟩
  · next x close same =>
    obtain rfl := Option.some.inj same
    split at h
    · next isFirst =>
      obtain ⟨rfl, rfl⟩ := Prod.mk.inj (Except.ok.inj h)
      rw [if_pos isFirst]
      exact ⟨rfl, meets⟩
    · next isFirst =>
      rw [if_neg isFirst]
      split at h
      · next comma =>
        rw [if_pos comma]
        rcases advanced.skipGap with none | ⟨b, here, there, meets, -⟩
        · rw [none]
          trivial
        rw [there] at h
        rw [here]
        split at h
        · cases h
        · cases h
        · obtain ⟨rfl, rfl⟩ := Prod.mk.inj (Except.ok.inj h)
          exact ⟨rfl, meets⟩
      · cases h

theorem cut_nextMember {first goes : Bool} (meets : Meets s c d)
    (h : nextMember first c = .ok (goes, c')) : Cut (Again s goes c') (nextMember first d) := by
  unfold nextMember at h ⊢
  dsimp only at h ⊢
  rcases meets.skipGap with none | ⟨b, here, there, meets, advanced⟩
  · rw [none]
    trivial
  rw [there] at h
  rw [here]
  split at h
  · cases h
  · next close =>
    obtain rfl := Option.some.inj close
    obtain ⟨rfl, rfl⟩ := Prod.mk.inj (Except.ok.inj h)
    exact ⟨rfl, meets⟩
  · next x close same =>
    obtain rfl := Option.some.inj same
    split at h
    · next isFirst =>
      rw [if_pos isFirst]
      split at h
      · next quote =>
        obtain ⟨rfl, rfl⟩ := Prod.mk.inj (Except.ok.inj h)
        rw [if_pos quote]
        exact ⟨rfl, meets⟩
      · cases h
    · next isFirst =>
      rw [if_neg isFirst]
      split at h
      · next comma =>
        rw [if_pos comma]
        rcases advanced.skipGap with none | ⟨b, here, there, meets, -⟩
        · rw [none]
          trivial
        rw [there] at h
        rw [here]
        split at h
        · cases h
        · next quote =>
          obtain rfl := Option.some.inj quote
          obtain ⟨rfl, rfl⟩ := Prod.mk.inj (Except.ok.inj h)
          exact ⟨rfl, meets⟩
        · cases h
        · cases h
      · cases h

end HostWatch.Json
