import HostWatch.Proofs.Json.Lexical

/-!
# Strings and brackets of a record

Records are read without values in between, and members that no field asks for are stepped over. Both
close what they open, as the reader of values does: `spans_skipValue`, `even_record`.
-/

namespace HostWatch.Json

/-! ## Values that are stepped over -/

theorem within_skipEscape {c c' : Cursor} (h : skipEscape c = .ok c') :
    Within .escaped .inside c c' := by
  unfold skipEscape at h
  obtain ⟨b, letter, h⟩ := bind_eq_ok h
  have first : Within .escaped .inside c c.advance :=
    within_advance (peek?_of_expectInString letter) (by decide)
  split at h
  · obtain ⟨⟨n, c₁⟩, digits, h⟩ := bind_eq_ok h
    obtain rfl := Except.ok.inj h
    exact first.trans (within_hexFour digits)
  · split at h
    · obtain rfl := Except.ok.inj h
      exact first
    · cases h

theorem within_skipStringFrom {bound : List UInt8} {c c' : Cursor}
    (h : skipStringFrom bound c = .ok c') : Within .inside .outside c c' := by
  induction bound generalizing c with
  | nil => cases h
  | cons _ bound ih =>
    obtain ⟨rest, place⟩ := c
    unfold skipStringFrom at h
    dsimp only at h
    split at h
    · cases h
    · next b tail =>
      have here : Cursor.peek? ⟨b :: tail, place⟩ = some b := rfl
      split at h
      · next quote =>
        obtain rfl := Except.ok.inj h
        subst quote
        exact within_advance here (by decide)
      · next quote =>
        split at h
        · next slash =>
          subst slash
          split at h
          · cases h
          · next escape =>
            exact (within_advance (m := .inside) here (by decide)).trans
              ((within_skipEscape escape).trans (ih h))
        · next slash =>
          split at h
          · cases h
          · exact (within_plain here quote slash).trans (ih h)

theorem spans_skipExponent {c c' : Cursor} (h : skipExponent c = .ok c') : Spans 0 c c' := by
  have sign := spans_sign c (x := 0x2B) (y := 0x2D) (by decide) (by decide)
  unfold skipExponent at h
  dsimp only at h
  generalize (if c.peek? = some 0x2B ∨ c.peek? = some 0x2D then c.advance else c) = c₁ at h sign
  split at h
  · cases h
  · next digits =>
    obtain rfl := Except.ok.inj h
    exact sign.next (spans_digits digits)

theorem spans_skipFraction {c c' : Cursor} (h : skipFraction c = .ok c') : Spans 0 c c' := by
  unfold skipFraction at h
  split at h
  · cases h
  · next digits =>
    refine (spans_digits digits).next ?_
    split at h
    · next letter =>
      have first := letter.elim (fun h => Neutral.spans h (by decide)) fun h =>
        Neutral.spans h (by decide)
      exact first.next (spans_skipExponent h)
    · obtain rfl := Except.ok.inj h
      exact Spans.refl _

theorem spans_skipNumber {c c' : Cursor} (h : skipNumber c = .ok c') : Spans 0 c c' := by
  unfold skipNumber at h
  split at h
  · cases h
  · next digits =>
    refine (spans_digits digits).next ?_
    split at h
    · cases h
    · split at h
      · next point => exact (Neutral.spans point (by decide)).next (spans_skipFraction h)
      · next small => exact (Neutral.spans small (by decide)).next (spans_skipExponent h)
      · next capital => exact (Neutral.spans capital (by decide)).next (spans_skipExponent h)
      · obtain rfl := Except.ok.inj h
        exact Spans.refl _

theorem spans_skipName {c c' : Cursor} (h : skipName c = .ok c') : Spans 0 c c' := by
  have gap := spans_skipGap c
  unfold skipName at h
  dsimp only at h
  generalize c.skipGap = c₁ at h gap
  split at h
  · cases h
  · next quote =>
    split at h
    · cases h
    · next string =>
      exact gap.next (((within_skipStringFrom string).spans quote).next (spans_readColon h))
  · cases h

/-- To the next value: whatever was closed is no longer on the stack. -/
theorem spans_enter {frame : Frame} {outer stack : List Frame} {c c' : Cursor}
    (h : skipToNext.enter frame outer c = .ok (stack, c')) :
    Spans 0 c c' ∧ stack.length = outer.length + 1 := by
  unfold skipToNext.enter at h
  cases frame with
  | list =>
    obtain ⟨rfl, rfl⟩ := Prod.mk.inj (Except.ok.inj h)
    exact ⟨Spans.refl c, rfl⟩
  | object =>
    obtain ⟨c₂, name, e⟩ := map_eq_ok h
    obtain ⟨rfl, rfl⟩ := Prod.mk.inj e
    exact ⟨spans_skipName name, rfl⟩

theorem spans_skipToNext {bound : List UInt8} {afterValue : Bool} {stack stack' : List Frame}
    {c c' : Cursor} (h : skipToNext bound afterValue stack c = .ok (stack', c')) :
    Spans (stack'.length - stack.length) c c' := by
  induction bound generalizing afterValue stack c with
  | nil =>
    obtain ⟨rfl, rfl⟩ := Prod.mk.inj (Except.ok.inj h)
    rw [Int.sub_self]
    exact Spans.refl c
  | cons _ bound ih =>
    unfold skipToNext at h
    split at h
    · obtain ⟨rfl, rfl⟩ := Prod.mk.inj (Except.ok.inj h)
      exact Spans.refl c
    · next frame outer =>
      have gap := spans_skipGap c
      dsimp only at h
      generalize c.skipGap = c₁ at h gap
      split at h
      · cases h
      · next b here =>
        split at h
        · next comma =>
          obtain ⟨step, length⟩ := spans_enter h
          rw [length, List.length_cons, Int.sub_self]
          exact gap.next ((Neutral.spans (comma.1 ▸ here) (by decide)).next step)
        · split at h
          · next close =>
            have closing : b ≠ 0x22 ∧ opening b = -1 := by
              subst close
              cases frame <;> decide
            have step := (spans_advance here closing.1).trans (ih h)
            rw [closing.2] at step
            rw [List.length_cons, show (stack'.length : Int) - (outer.length + 1 : Nat) =
              -1 + (stack'.length - outer.length) by omega]
            exact gap.next step
          · split at h
            · cases h
            · obtain ⟨step, length⟩ := spans_enter h
              rw [length, List.length_cons, Int.sub_self]
              exact gap.next step

/-- A value that is no container leaves the stack as it is. -/
theorem spans_skipped {stack stack' : List Frame} {after : Bool} {c c₁ c' : Cursor}
    {step : Except Failure Cursor} (spans : ∀ c₂, step = .ok c₂ → Spans 0 c₁ c₂)
    (first : Spans 0 c c₁) (h : step.map (true, stack, ·) = .ok (after, stack', c')) :
    Spans (stack'.length - stack.length) c c' := by
  obtain ⟨c₂, e, eq⟩ := map_eq_ok h
  obtain ⟨-, rfl, rfl⟩ := Prod.mk.inj eq |>.imp_right Prod.mk.inj
  rw [Int.sub_self]
  exact first.next (spans c₂ e)

theorem spans_skipFrom {bound : List UInt8} {stack : List Frame} {c c' : Cursor}
    (h : skipFrom bound stack c = .ok c') : Spans (-stack.length) c c' := by
  induction bound generalizing stack c with
  | nil => cases h
  | cons _ bound ih =>
    have gap := spans_skipGap c
    unfold skipFrom at h
    dsimp only at h
    generalize c.skipGap = c₁ at h gap
    split at h
    · cases h
    · next after stack₁ c₂ step =>
      have value : Spans (stack₁.length - stack.length) c₁ c₂ := by
        split at step
        · cases step
        · next letter =>
          exact spans_skipped (fun _ h => spans_word (neutral_of_all (by decide)) h)
            (Neutral.spans letter (by decide)) step
        · next letter =>
          exact spans_skipped (fun _ h => spans_word (neutral_of_all (by decide)) h)
            (Neutral.spans letter (by decide)) step
        · next letter =>
          exact spans_skipped (fun _ h => spans_word (neutral_of_all (by decide)) h)
            (Neutral.spans letter (by decide)) step
        · next minus =>
          exact spans_skipped (fun _ h => spans_skipNumber h) (Neutral.spans minus (by decide)) step
        · next quote =>
          refine spans_skipped (fun c₃ h => ?_) (Spans.refl c₁) step
          exact (within_skipStringFrom h).spans quote
        · next bracket =>
          obtain ⟨-, rfl, rfl⟩ := Prod.mk.inj (Except.ok.inj step) |>.imp_right Prod.mk.inj
          have := spans_advance bracket (by decide)
          rwa [List.length_cons, show ((stack.length + 1 : Nat) : Int) - stack.length =
            opening 0x5B by rw [show opening 0x5B = 1 by decide]; omega]
        · next brace =>
          obtain ⟨-, rfl, rfl⟩ := Prod.mk.inj (Except.ok.inj step) |>.imp_right Prod.mk.inj
          have := spans_advance brace (by decide)
          rwa [List.length_cons, show ((stack.length + 1 : Nat) : Int) - stack.length =
            opening 0x7B by rw [show opening 0x7B = 1 by decide]; omega]
        · split at step
          · exact spans_skipped (fun _ h => spans_skipNumber h) (Spans.refl c₁) step
          · cases step
      split at h
      · cases h
      · next rest =>
        obtain rfl := Except.ok.inj h
        have := value.trans (spans_skipToNext rest)
        rw [List.length_nil, show (stack₁.length : Int) - stack.length + ((0 : Nat) - stack₁.length) =
          -stack.length by omega] at this
        exact gap.next this
      · next stack₂ c₃ _ rest =>
        have := (value.trans (spans_skipToNext rest)).trans (ih h)
        rw [show (stack₁.length : Int) - stack.length + (stack₂.length - stack₁.length) +
          -stack₂.length = -stack.length by omega] at this
        exact gap.next this

theorem spans_skipValue {c c' : Cursor} (h : skipValue c = .ok c') : Spans 0 c c' :=
  spans_skipFrom h

/-! ## Shapes -/

/-- What always fails behind a step gives no result. -/
theorem never_ok {x : Except ε β} {f : β → Except ε γ} {r : γ} (fails : ∀ b, ∃ e, f b = .error e)
    (h : x.bind f = .ok r) : False := by
  cases x with
  | error e => cases h
  | ok b =>
    obtain ⟨e, he⟩ := fails b
    exact absurd (he.symm.trans h) (by simp)

/-- A value of another kind is always refused. -/
theorem refuse_ne_ok {expected : String} {c : Cursor} {r : α × Cursor}
    (h : refuse expected c = .ok r) : False := by
  unfold refuse at h
  dsimp only at h
  split at h
  · cases h
  · exact never_ok (fun _ => ⟨_, rfl⟩) h
  · exact never_ok (fun _ => ⟨_, rfl⟩) h
  · exact never_ok (fun _ => ⟨_, rfl⟩) h
  · exact never_ok (fun _ => ⟨_, rfl⟩) h
  · exact never_ok (fun _ => ⟨_, rfl⟩) h
  · cases h
  · cases h
  · split at h
    · exact never_ok (fun _ => ⟨_, rfl⟩) h
    · cases h

theorem even_string (room : Nat) : Even (Shape.string.ofText room) := by
  intro c s c' h
  have gap := spans_skipGap c
  unfold Shape.string at h
  dsimp only at h
  generalize c.skipGap = c₁ at h gap
  split at h
  · next quote => exact gap.next ((within_string h).spans quote)
  · exact (refuse_ne_ok h).elim

theorem even_bool (room : Nat) : Even (Shape.bool.ofText room) := by
  intro c b c' h
  have gap := spans_skipGap c
  unfold Shape.bool at h
  dsimp only at h
  generalize c.skipGap = c₁ at h gap
  refine gap.next ?_
  split at h
  · next letter => exact spans_letter (by decide) letter h
  · next letter => exact spans_letter (by decide) letter h
  · exact (refuse_ne_ok h).elim

theorem even_number (expected : String) (accept : Number → Except DataFault α) (room : Nat) :
    Even ((Shape.number expected accept).ofText room) := by
  intro c a c' h
  have gap := spans_skipGap c
  unfold Shape.number at h
  dsimp only at h
  generalize c.skipGap = c₁ at h gap
  refine gap.next ?_
  split at h
  · next minus =>
    split at h
    · cases h
    · next number =>
      split at h
      · obtain ⟨rfl, rfl⟩ := Prod.mk.inj (Except.ok.inj h)
        exact (Neutral.spans minus (by decide)).next (spans_readNumber number)
      · cases h
  · split at h
    · split at h
      · cases h
      · next number =>
        split at h
        · obtain ⟨rfl, rfl⟩ := Prod.mk.inj (Except.ok.inj h)
          exact spans_readNumber number
        · cases h
    · exact (refuse_ne_ok h).elim
  · exact (refuse_ne_ok h).elim

theorem even_optional {s : Shape α} {room : Nat} (even : Even (s.ofText room)) :
    Even ((Shape.optional s).ofText room) := by
  intro c a c' h
  have gap := spans_skipGap c
  unfold Shape.optional at h
  dsimp only at h
  generalize c.skipGap = c₁ at h gap
  refine gap.next ?_
  split at h
  · next letter => exact spans_letter (by decide) letter h
  · obtain ⟨⟨b, c₂⟩, value, e⟩ := map_eq_ok h
    obtain ⟨rfl, rfl⟩ := Prod.mk.inj e
    exact even _ _ _ value

/-! ## Records -/

theorem even_field {shape : Shape β} {room : Nat} (even : Even (shape.ofText room)) {name : String}
    {mayEnd : Bool} {get : δ → Option β} {set : β → δ → δ} (d : δ) :
    Even ((Field.of name mayEnd shape get set).ofText room · d) := by
  intro c d' c' h
  obtain ⟨⟨b, c₂⟩, value, e⟩ := map_eq_ok h
  obtain ⟨-, rfl⟩ := Prod.mk.inj e
  exact even _ _ _ value

theorem spans_closeList {c : Cursor} (h : (closeList c).failure? = none) :
    Spans (-1) c (closeList c).cursor := by
  have gap := spans_skipGap c
  unfold closeList at h ⊢
  dsimp only at h ⊢
  generalize c.skipGap = c₁ at h gap ⊢
  split at h <;> try cases h
  next close => exact gap.next (spans_advance close (by decide))

theorem spans_closeObject {c : Cursor} (h : (closeObject c).failure? = none) :
    Spans (-1) c (closeObject c).cursor := by
  have gap := spans_skipGap c
  unfold closeObject at h ⊢
  dsimp only at h ⊢
  generalize c.skipGap = c₁ at h gap ⊢
  split at h <;> try cases h
  next close => exact gap.next (spans_advance close (by decide))

section Records

variable {δ α : Type} {r : Record δ α} {room : Nat}

theorem spans_readInOrder {fields : List (Field δ)}
    (even : ∀ field ∈ fields, ∀ d, Even (field.ofText room · d)) {index : Nat} {d d' : δ}
    {c c' : Cursor} (h : r.readInOrder room fields index d c = .ok (d', c')) : Spans 0 c c' := by
  induction fields generalizing index d c with
  | nil =>
    obtain ⟨-, rfl⟩ := Prod.mk.inj (Except.ok.inj h)
    exact Spans.refl c
  | cons field fields ih =>
    unfold Record.readInOrder at h
    split at h
    · cases h
    · next next =>
      split at h
      · cases h
      · next value =>
        exact (spans_nextItem next).1.next ((even field List.mem_cons_self _ _ _ _ value).next
          (ih (fun f hf => even f (List.mem_cons_of_mem _ hf)) h))
    · next next =>
      split at h
      · obtain ⟨-, rfl⟩ := Prod.mk.inj (Except.ok.inj h)
        exact (spans_nextItem next).1
      · cases h

theorem spans_readByName (even : ∀ field ∈ r.fields, ∀ d, Even (field.ofText room · d))
    {bound : List UInt8} {first : Bool} {d d' : δ} {c c' : Cursor}
    (h : r.readByName room bound first d c = .ok (d', c')) : Spans 0 c c' := by
  induction bound generalizing first d c with
  | nil =>
    obtain ⟨-, rfl⟩ := Prod.mk.inj (Except.ok.inj h)
    exact Spans.refl c
  | cons _ bound ih =>
    unfold Record.readByName at h
    split at h
    · cases h
    · next next =>
      obtain ⟨-, rfl⟩ := Prod.mk.inj (Except.ok.inj h)
      exact (spans_nextMember next).1
    · next next =>
      obtain ⟨step, quote⟩ := spans_nextMember next
      split at h
      · cases h
      · next name =>
        have named := step.next ((within_string name).spans quote)
        split at h
        · split at h
          · cases h
          · next skipped =>
            obtain ⟨c₂, colon, skip⟩ := bind_eq_ok skipped
            exact named.next ((spans_readColon colon).next ((spans_skipValue skip).next (ih h)))
        · next field found =>
          split at h
          · cases h
          · split at h
            · cases h
            · next value =>
              obtain ⟨c₂, colon, taken⟩ := bind_eq_ok value
              exact named.next ((spans_readColon colon).next
                ((even field (List.mem_of_find?_eq_some found) _ _ _ _ taken).next (ih h)))

/-- What closes a record behind its inside. -/
theorem spans_close {closing : Cursor → Closing}
    (closes : ∀ c, (closing c).failure? = none → Spans (-1) c (closing c).cursor)
    {inside : Except Stop (δ × Cursor)} {c : Cursor}
    (spans : ∀ d c', inside = .ok (d, c') → Spans 0 c c') {a : α} {c' : Cursor}
    (h : r.close closing inside = .ok (a, c')) : Spans (-1) c c' := by
  unfold Record.close at h
  dsimp only at h
  split at h
  · cases h
  · cases h
  · next d c₁ =>
    split at h
    · cases h
    · split at h
      · cases h
      · next closed =>
        obtain ⟨-, rfl⟩ := Prod.mk.inj (Except.ok.inj h)
        exact (spans d c₁ rfl).next (closes c₁ closed)

/-- **Records.** What is read as a record closes what it opens. -/
theorem even_record (even : ∀ room, ∀ field ∈ r.fields, ∀ d, Even (field.ofText room · d))
    (room : Nat) : Even (r.shape.ofText room) := by
  intro c a c' h
  have gap := spans_skipGap c
  unfold Record.shape at h
  dsimp only at h
  generalize c.skipGap = c₁ at h gap
  refine gap.next ?_
  split at h
  · cases h
  · cases h
  · next bracket =>
    exact (spans_advance bracket (by decide)).trans
      (spans_close (fun _ => spans_closeList) (fun _ _ => spans_readInOrder (even _)) h)
  · next brace =>
    exact (spans_advance brace (by decide)).trans
      (spans_close (fun _ => spans_closeObject) (fun _ _ => spans_readByName (even _)) h)
  · exact (refuse_ne_ok h).elim

end Records

end HostWatch.Json
