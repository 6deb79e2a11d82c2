import HostWatch.Proofs.Json.CutNumbers

/-!
# Cut values

`read_cut`: if a text without exponents is read as an object, each part of it from its front is
read as the same object, behind which only blanks have been cut off, or reported as a text that just
ends.

1. A container meets the cut inside one of its parts or between two of them. Where a part is a
   number that has become shorter, the container finds nothing behind it and reports an end
   (`cut_readItems`, `cut_readMembers`).
2. So only a number is ever read as something else (`cut_readValue`), and an object never is.
-/

namespace HostWatch.Json

/-! ## Containers -/

/-- The reader reads a cut text again or up to the cut. -/
def Cuts (f : Cursor → Step α) : Prop := ∀ s c d a c', ExponentFree c.rest → Meets s c d →
  f c = .ok (a, c') → Cut (AgainOrShort s a c') (f d)

section Containers

variable {f : Cursor → Step α} {s : List UInt8} {c c' d : Cursor}

theorem peek?_of_rest_nil (h : d.rest = []) : d.skipGap.peek? = none := by
  obtain ⟨_, place⟩ := d
  obtain rfl : _ = [] := h
  rfl

/-- Nothing more of a list is there. -/
theorem short_readItems (ended : d.rest = []) (bound : List UInt8) (R : List α × Cursor → Prop) :
    Cut R (readItems f bound false d) := by
  cases bound with
  | nil => trivial
  | cons _ bound =>
    unfold readItems nextItem
    dsimp only
    rw [peek?_of_rest_nil ended]
    trivial

/-- Nothing more of an object is there. -/
theorem short_readMembers (ended : d.rest = []) (bound : List UInt8)
    (R : List (String × α) × Cursor → Prop) : Cut R (readMembers f bound false d) := by
  cases bound with
  | nil => trivial
  | cons _ bound =>
    unfold readMembers nextMember
    dsimp only
    rw [peek?_of_rest_nil ended]
    trivial

theorem cut_readItems (even : Even f) (cuts : Cuts f) {bound bound' : List UInt8} {first : Bool}
    {as : List α} (free : ExponentFree c.rest) (meets : Meets s c d)
    (h : readItems f bound first c = .ok (as, c')) :
    Cut (Again s as c') (readItems f bound' first d) := by
  induction bound generalizing bound' first c d as with
  | nil => cases h
  | cons _ bound ih =>
    obtain _ | ⟨_, bound'⟩ := bound'
    · trivial
    rw [readItems_cons] at h ⊢
    obtain ⟨⟨goes, c₁⟩, next, h⟩ := bind_eq_ok h
    have free := free.of_spans (spans_nextItem next).1
    refine (cut_nextItem meets next).attach.bind ?_
    rintro ⟨goes, d₁⟩ ⟨same, rfl, meets⟩
    cases goes with
    | false =>
      obtain ⟨rfl, rfl⟩ := Prod.mk.inj (Except.ok.inj h)
      exact ⟨rfl, (meets.peek? ((spans_nextItem same).2 rfl)).2⟩
    | true =>
      obtain ⟨⟨a, c₂⟩, value, h⟩ := bind_eq_ok h
      obtain ⟨⟨others, c₃⟩, later, e⟩ := map_eq_ok h
      obtain ⟨rfl, rfl⟩ := Prod.mk.inj e
      refine (cuts _ _ _ _ _ free meets value).bind ?_
      rintro ⟨_, d₂⟩ (⟨rfl, meets⟩ | ended)
      · refine (ih (free.of_spans (even _ _ _ value)) meets later).map ?_
        rintro ⟨_, d₃⟩ ⟨rfl, meets⟩
        exact ⟨rfl, meets⟩
      · exact (short_readItems ended bound' fun _ => False).map fun _ => False.elim

theorem cut_readMember (cuts : Cuts f) {m : String × α} (free : ExponentFree c.rest)
    (meets : Meets s c d) (quote : d.peek? = some 0x22) (h : readMember f c = .ok (m, c')) :
    Cut (AgainOrShort s m c') (readMember f d) := by
  obtain ⟨there, advanced⟩ := meets.peek? quote
  rw [readMember_eq] at h ⊢
  obtain ⟨⟨name, c₁⟩, string, h⟩ := bind_eq_ok h
  obtain ⟨c₂, colon, h⟩ := bind_eq_ok h
  obtain ⟨⟨a, c₃⟩, value, e⟩ := map_eq_ok h
  obtain ⟨rfl, rfl⟩ := Prod.mk.inj e
  have free := free.of_spans ((within_string string).spans there)
  refine (cut_readString advanced string).bind ?_
  rintro ⟨_, d₁⟩ ⟨rfl, meets⟩
  refine (cut_readColon meets colon).bind fun d₂ meets => ?_
  refine (cuts _ _ _ _ _ (free.of_spans (spans_readColon colon)) meets value).map ?_
  rintro ⟨_, d₃⟩ (⟨rfl, meets⟩ | ended)
  · exact .inl ⟨rfl, meets⟩
  · exact .inr ended

theorem cut_readMembers (even : Even f) (cuts : Cuts f) {bound bound' : List UInt8} {first : Bool}
    {ms : List (String × α)} (free : ExponentFree c.rest) (meets : Meets s c d)
    (h : readMembers f bound first c = .ok (ms, c')) :
    Cut (Again s ms c') (readMembers f bound' first d) := by
  induction bound generalizing bound' first c d ms with
  | nil => cases h
  | cons _ bound ih =>
    obtain _ | ⟨_, bound'⟩ := bound'
    · trivial
    rw [readMembers_cons] at h ⊢
    obtain ⟨⟨goes, c₁⟩, next, h⟩ := bind_eq_ok h
    obtain ⟨step, peek⟩ := spans_nextMember next
    have free := free.of_spans step
    refine (cut_nextMember meets next).attach.bind ?_
    rintro ⟨goes, d₁⟩ ⟨same, rfl, meets⟩
    have peek' := (spans_nextMember same).2
    cases goes with
    | false =>
      obtain ⟨rfl, rfl⟩ := Prod.mk.inj (Except.ok.inj h)
      exact ⟨rfl, (meets.peek? peek').2⟩
    | true =>
      obtain ⟨⟨m, c₂⟩, member, h⟩ := bind_eq_ok h
      obtain ⟨⟨others, c₃⟩, later, e⟩ := map_eq_ok h
      obtain ⟨rfl, rfl⟩ := Prod.mk.inj e
      refine (cut_readMember cuts free meets peek' member).bind ?_
      rintro ⟨_, d₂⟩ (⟨rfl, meets⟩ | ended)
      · refine (ih (free.of_spans (spans_readMember even peek member)) meets later).map ?_
        rintro ⟨_, d₃⟩ ⟨rfl, meets⟩
        exact ⟨rfl, meets⟩
      · exact (short_readMembers ended bound' fun _ => False).map fun _ => False.elim

end Containers

/-! ## Values -/

/-- What was read again, or something that reaches up to the cut in place of a number. -/
def AgainOrNumber (s : List UInt8) (j : Json) (c : Cursor) (r : Json × Cursor) : Prop :=
  Again s j c r ∨ (∃ n : Number, j = n.toJson) ∧ r.2.rest = []

theorem AgainOrNumber.short {s : List UInt8} {j : Json} {c : Cursor} {r : Json × Cursor}
    (h : AgainOrNumber s j c r) : AgainOrShort s j c r := h.imp_right And.right

section Values

variable {s : List UInt8} {c c' d : Cursor} {j : Json}

theorem cut_word {word : List UInt8} {value : Json} (meets : Meets s c d)
    (h : (readWord word c).map (value, ·) = .ok (j, c')) :
    Cut (AgainOrNumber s j c') ((readWord word d).map (value, ·)) := by
  obtain ⟨c₁, read, e⟩ := map_eq_ok h
  obtain ⟨rfl, rfl⟩ := Prod.mk.inj e
  exact (cut_readWord meets read).map fun _ meets => .inl ⟨rfl, meets⟩

theorem cut_number {positive : Bool} (free : ExponentFree c.rest) (meets : Meets s c d)
    (h : (readNumber positive c).map (fun (n, c) => (n.toJson, c)) = .ok (j, c')) :
    Cut (AgainOrNumber s j c') ((readNumber positive d).map fun (n, c) => (n.toJson, c)) := by
  obtain ⟨⟨n, c₁⟩, read, e⟩ := map_eq_ok h
  obtain ⟨rfl, rfl⟩ := Prod.mk.inj e
  refine (cut_readNumber free meets read).map ?_
  rintro ⟨n', d₁⟩ (⟨rfl, meets⟩ | ended)
  · exact .inl ⟨rfl, meets⟩
  · exact .inr ⟨⟨n, rfl⟩, ended⟩

/-- A value, if the values inside it are read again. -/
theorem cut_readValue_of {room : Nat} (inner : ∀ r, room = r + 1 → Cuts (readValue r))
    (free : ExponentFree c.rest) (meets : Meets s c d) (h : readValue room c = .ok (j, c')) :
    Cut (AgainOrNumber s j c') (readValue room d) := by
  rw [readValue.eq_def] at h ⊢
  dsimp only at h ⊢
  have free := free.of_spans (spans_skipGap c)
  rcases meets.skipGap with none | ⟨b, here, there, meets, advanced⟩
  · rw [none]
    trivial
  have behind : b ≠ 0x22 → ExponentFree c.skipGap.advance.rest := fun quote =>
    free.of_spans (spans_advance there quote)
  rw [there] at h
  rw [here]
  split at h
  · cases h
  · next letter =>
    obtain rfl := Option.some.inj letter
    exact cut_word advanced h
  · next letter =>
    obtain rfl := Option.some.inj letter
    exact cut_word advanced h
  · next letter =>
    obtain rfl := Option.some.inj letter
    exact cut_word advanced h
  · next minus =>
    obtain rfl := Option.some.inj minus
    exact cut_number (behind (by decide)) advanced h
  · next quote =>
    obtain rfl := Option.some.inj quote
    obtain ⟨⟨text, c₁⟩, read, e⟩ := map_eq_ok h
    obtain ⟨rfl, rfl⟩ := Prod.mk.inj e
    refine (cut_readString advanced read).map ?_
    rintro ⟨_, d₁⟩ ⟨rfl, meets⟩
    exact .inl ⟨rfl, meets⟩
  · next bracket =>
    obtain rfl := Option.some.inj bracket
    cases room with
    | zero => cases h
    | succ room =>
      obtain ⟨⟨items, c₁⟩, read, e⟩ := map_eq_ok h
      obtain ⟨rfl, rfl⟩ := Prod.mk.inj e
      refine (cut_readItems (even_readValue room) (inner room rfl) (behind (by decide)) advanced
        read).map ?_
      rintro ⟨_, d₁⟩ ⟨rfl, meets⟩
      exact .inl ⟨rfl, meets⟩
  · next brace =>
    obtain rfl := Option.some.inj brace
    cases room with
    | zero => cases h
    | succ room =>
      obtain ⟨⟨members, c₁⟩, read, e⟩ := map_eq_ok h
      obtain ⟨rfl, rfl⟩ := Prod.mk.inj e
      refine (cut_readMembers (even_readValue room) (inner room rfl) (behind (by decide)) advanced
        read).map ?_
      rintro ⟨_, d₁⟩ ⟨rfl, meets⟩
      exact .inl ⟨rfl, meets⟩
  · split at h
    · next digit =>
      rw [if_pos digit]
      exact cut_number free meets h
    · cases h

theorem cuts_readValue (room : Nat) : Cuts (readValue room) := by
  induction room with
  | zero =>
    intro s c d j c' free meets h
    exact (cut_readValue_of (fun r none => by cases none) free meets h).mono fun _ => AgainOrNumber.short
  | succ room ih =>
    intro s c d j c' free meets h
    refine (cut_readValue_of (fun r same => ?_) free meets h).mono fun _ => AgainOrNumber.short
    obtain rfl := Nat.succ.inj same
    exact ih

/-- **Cut values.** A value is read again, unless it is a number and reaches up to the cut. -/
theorem cut_readValue {room : Nat} (free : ExponentFree c.rest) (meets : Meets s c d)
    (h : readValue room c = .ok (j, c')) : Cut (AgainOrNumber s j c') (readValue room d) :=
  cut_readValue_of (fun r _ => cuts_readValue r) free meets h

end Values

/-! ## Whole texts -/

theorem skipGapFrom_eq_nil_iff {rest : List UInt8} {place : Place} :
    (skipGapFrom rest place).rest = [] ↔ ∀ b ∈ rest, isGapByte b = true := by
  induction rest generalizing place with
  | nil => exact iff_of_true rfl fun _ h => absurd h List.not_mem_nil
  | cons b rest ih =>
    rw [skipGapFrom, List.forall_mem_cons]
    split
    · next gap => rw [ih, and_iff_right gap]
    · next gap => exact iff_of_false (List.cons_ne_nil _ _) fun h => gap h.1

/-- **Cut texts.** A part of an object's text, from its front, is read as the object if only blanks
have been cut off, and otherwise reported as a text that just ends. -/
theorem read_cut {part s : List UInt8} {members : List Member} (free : ExponentFree (part ++ s))
    (h : read (part ++ s) = .ok (.obj members)) :
    (read part = .ok (.obj members) ∧ ∀ b ∈ s, isGapByte b = true) ∨
      ∃ e, read part = .error e ∧ e.fault.IsEnd := by
  obtain ⟨c, value, gaps⟩ := finish_eq_ok h
  have meets : Meets s (Cursor.start (part ++ s)) (Cursor.start part) := rfl
  unfold read
  rcases (cut_readValue free meets value).cases with ⟨⟨j, d⟩, same, again⟩ | ⟨e, same, ended⟩
  · rcases again with ⟨rfl, meets⟩ | ⟨⟨n, no⟩, -⟩
    · have all := skipGapFrom_eq_nil_iff.1 gaps
      rw [meets] at all
      have here : d.skipGap.rest = [] :=
        skipGapFrom_eq_nil_iff.2 fun b hb => all b (List.mem_append_left s hb)
      refine .inl ⟨?_, fun b hb => all b (List.mem_append_right d.rest hb)⟩
      rw [same, finish, here]
      rfl
    · cases n <;> cases no
  · rw [same]
    exact .inr ⟨e, rfl, ended⟩

end HostWatch.Json
