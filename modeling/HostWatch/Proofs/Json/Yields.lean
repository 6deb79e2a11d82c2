import HostWatch.Proofs.Json.LexicalRecords

/-!
# What a reader lets through

`yields_record`: what is read as a record has a property if the draft has one from the start that
every field keeps and that gives the record its own, whichever fields the text names, and in
whatever order.
-/

namespace HostWatch.Json

/-- What the shape reads from a text has the property. -/
def Shape.Yields (s : Shape α) (P : α → Prop) : Prop :=
  ∀ room c a c', s.ofText room c = .ok (a, c') → P a

/-- Reading the field keeps the property of the draft. -/
def Field.Keeps (field : Field δ) (Q : δ → Prop) : Prop :=
  ∀ room c d d' c', field.ofText room c d = .ok (d', c') → Q d → Q d'

theorem Shape.Yields.of_read {s : Shape α} {P : α → Prop} (h : s.Yields P) {bytes : List UInt8}
    {a : α} (read : s.read bytes = .ok a) : P a := by
  obtain ⟨c, step, -⟩ := finish_eq_ok read
  exact h _ _ _ _ step

/-! ## Scalars -/

/-- A number is let through as it was accepted. -/
theorem yields_number {expected : String} {accept : Number → Except DataFault α} {P : α → Prop}
    (accepted : ∀ n a, accept n = .ok a → P a) : (Shape.number expected accept).Yields P := by
  intro room c a c' h
  unfold Shape.number at h
  dsimp only at h
  split at h
  · split at h
    · cases h
    · split at h
      · next made => cases h; exact accepted _ _ made
      · cases h
  · split at h
    · split at h
      · cases h
      · split at h
        · next made => cases h; exact accepted _ _ made
        · cases h
    · exact (refuse_ne_ok h).elim
  · exact (refuse_ne_ok h).elim

theorem yields_optional {s : Shape α} {P : α → Prop} (h : s.Yields P) :
    s.optional.Yields fun o => ∀ a ∈ o, P a := by
  intro room c o c' read
  unfold Shape.optional at read
  dsimp only at read
  split at read
  · obtain ⟨_, -, e⟩ := map_eq_ok read
    obtain ⟨rfl, -⟩ := Prod.mk.inj e
    exact nofun
  · obtain ⟨⟨a, _⟩, value, e⟩ := map_eq_ok read
    obtain ⟨rfl, -⟩ := Prod.mk.inj e
    rintro _ ⟨⟩
    exact h _ _ _ _ value

/-! ## Records -/

section Records

variable {δ α β : Type} {r : Record δ α} {Q : δ → Prop}

theorem keeps_field {shape : Shape β} {P : β → Prop} (yields : shape.Yields P) {name : String}
    {mayEnd : Bool} {get : δ → Option β} {set : β → δ → δ}
    (kept : ∀ b d, P b → Q d → Q (set b d)) : (Field.of name mayEnd shape get set).Keeps Q := by
  intro room c d d' c' h hd
  obtain ⟨⟨b, _⟩, value, e⟩ := map_eq_ok h
  obtain ⟨rfl, -⟩ := Prod.mk.inj e
  exact kept b d (yields _ _ _ _ value) hd

theorem keeps_readInOrder {fields : List (Field δ)} (keeps : ∀ field ∈ fields, field.Keeps Q)
    {room index : Nat} {d d' : δ} {c c' : Cursor}
    (h : r.readInOrder room fields index d c = .ok (d', c')) (hd : Q d) : Q d' := by
  induction fields generalizing index d c with
  | nil =>
    obtain ⟨rfl, -⟩ := Prod.mk.inj (Except.ok.inj h)
    exact hd
  | cons field fields ih =>
    obtain ⟨first, others⟩ := List.forall_mem_cons.1 keeps
    unfold Record.readInOrder at h
    split at h
    · cases h
    · split at h
      · cases h
      · next value => exact ih others h (first _ _ _ _ _ value hd)
    · split at h
      · obtain ⟨rfl, -⟩ := Prod.mk.inj (Except.ok.inj h)
        exact hd
      · cases h

theorem keeps_readByName (keeps : ∀ field ∈ r.fields, field.Keeps Q) {room : Nat}
    {bound : List UInt8} {first : Bool} {d d' : δ} {c c' : Cursor}
    (h : r.readByName room bound first d c = .ok (d', c')) (hd : Q d) : Q d' := by
  induction bound generalizing first d c with
  | nil =>
    obtain ⟨rfl, -⟩ := Prod.mk.inj (Except.ok.inj h)
    exact hd
  | cons _ bound ih =>
    unfold Record.readByName at h
    split at h
    · cases h
    · obtain ⟨rfl, -⟩ := Prod.mk.inj (Except.ok.inj h)
      exact hd
    · split at h
      · cases h
      · split at h
        · -- no field has the name, and the value is stepped over
          split at h
          · cases h
          · exact ih h hd
        · next field found =>
          split at h
          · cases h
          · split at h
            · cases h
            · next value =>
              obtain ⟨c₂, -, taken⟩ := bind_eq_ok value
              exact ih h (keeps field (List.mem_of_find?_eq_some found) _ _ _ _ _ taken hd)

theorem finish_of_close {closing : Cursor → Closing} {inside : Except Stop (δ × Cursor)} {a : α}
    {c' : Cursor} (h : r.close closing inside = .ok (a, c')) :
    ∃ d c, inside = .ok (d, c) ∧ r.finish d = .ok a := by
  unfold Record.close at h
  dsimp only at h
  split at h
  · cases h
  · cases h
  · next d c =>
    split at h
    · cases h
    · next full =>
      split at h
      · cases h
      · obtain ⟨rfl, -⟩ := Prod.mk.inj (Except.ok.inj h)
        exact ⟨d, c, rfl, full⟩

/-- **Records.** A record is made of a draft with what every field keeps. -/
theorem yields_record (start : Q r.start) (keeps : ∀ field ∈ r.fields, field.Keeps Q)
    {P : α → Prop} (full : ∀ d a, Q d → r.finish d = .ok a → P a) : r.shape.Yields P := by
  intro room c a c' h
  unfold Record.shape at h
  dsimp only at h
  generalize c.skipGap = c₁ at h
  split at h
  · cases h
  · cases h
  · obtain ⟨d, _, inside, made⟩ := finish_of_close h
    exact full d a (keeps_readInOrder keeps inside start) made
  · obtain ⟨d, _, inside, made⟩ := finish_of_close h
    exact full d a (keeps_readByName keeps inside start) made
  · exact (refuse_ne_ok h).elim

end Records

end HostWatch.Json
