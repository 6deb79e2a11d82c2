import HostWatch.Json.Shape
import HostWatch.Proofs.Json.RoundTrip

/-!
# Records are read back

`takes_record`: a record is read from the object of its members, in whatever order they come, if
each of them names another field and is read by the shape of that field.

1. `Fills` says what members do to a draft of the record, one after another.
2. Behind the first member the loop over the fields takes one member after another
   (`readByName_further`).
3. The shapes of single fields read what is written for them.
-/

namespace HostWatch.Json

/-! ## Fields -/

section Fields

variable {δ α : Type} (r : Record δ α) (room : Nat)

/-- Reading these members one after another makes the second draft of the first one. -/
inductive Fills : δ → List Member → δ → Prop where
  | done (d : δ) : Fills d [] d
  | field {d d₁ d₂ : δ} {name : String} {j : Json} {ms : List Member} {field : Field δ}
    (named : r.fields.find? (·.name = name) = some field) (missing : field.isSet d = false)
    (taken : Takes (field.ofText room · d) (Text.utf8 (render j)) d₁) (others : Fills d₁ ms d₂) :
    Fills d ((name, j) :: ms) d₂

variable {r room}

theorem Fills.append {d d₁ d₂ : δ} {ms more : List Member} (h : Fills r room d ms d₁)
    (h' : Fills r room d₁ more d₂) : Fills r room d (ms ++ more) d₂ := by
  induction h with
  | done d => exact h'
  | field named missing taken _ ih => exact .field named missing taken (ih h')

/-- The bytes of members as they stand in an object. -/
abbrev writtenMembers (ms : List Member) : List UInt8 :=
  membersBytes (fun j => Text.utf8 (render j)) ms

/-- The bytes of members behind others. -/
abbrev writtenFurther (ms : List Member) : List UInt8 :=
  furtherBytes (fun j => Text.utf8 (render j)) ms

theorem nextMember_close (first : Bool) (rest : List UInt8) (place : Place) :
    nextMember first ⟨0x7D :: rest, place⟩ = .ok (false, ⟨0x7D :: rest, place⟩) := by
  rw [nextMember, skipGap_cons (by decide)]
  rfl

theorem nextMember_first (rest : List UInt8) (place : Place) :
    nextMember true ⟨0x22 :: rest, place⟩ = .ok (true, ⟨0x22 :: rest, place⟩) := by
  rw [nextMember, skipGap_cons (by decide)]
  rfl

theorem nextMember_comma (rest : List UInt8) (place : Place) :
    nextMember false ⟨0x2C :: 0x22 :: rest, place⟩ =
      .ok (true, ⟨0x22 :: rest, place.after 0x2C⟩) := by
  rw [nextMember, skipGap_cons (by decide)]
  simp only [Cursor.peek?, List.head?_cons, if_neg Bool.false_ne_true, Cursor.advance,
    skipGap_cons (show isGapByte 0x22 = false by decide)]
  rfl

/-- The name of a member and the value of its field, from behind the opening quote. -/
theorem readField_written (name : String) {d d₁ : δ} {j : Json} {field : Field δ}
    (taken : Takes (field.ofText room · d) (Text.utf8 (render j)) d₁) {rest : List UInt8}
    (ends : EndsValue rest) (place : Place) :
    ∃ place₁ place₂,
      readString ⟨quotedTail name ++ 0x3A :: (Text.utf8 (render j) ++ rest), place⟩ =
        .ok (name, ⟨0x3A :: (Text.utf8 (render j) ++ rest), place₁⟩) ∧
      (readColon ⟨0x3A :: (Text.utf8 (render j) ++ rest), place₁⟩).bind (field.ofText room · d) =
        .ok (d₁, ⟨rest, place₂⟩) := by
  obtain ⟨place₁, e₁⟩ := readString_quote name (0x3A :: (Text.utf8 (render j) ++ rest)) place
  obtain ⟨place₂, e₂⟩ := taken rest (place₁.after 0x3A) ends
  refine ⟨place₁, place₂, e₁, ?_⟩
  have colon : readColon ⟨0x3A :: (Text.utf8 (render j) ++ rest), place₁⟩ =
      .ok ⟨Text.utf8 (render j) ++ rest, place₁.after 0x3A⟩ := by
    rw [readColon, skipGap_cons (by decide)]
    rfl
  rw [colon]
  exact e₂

/-- The members behind the first one, up to the closing brace. -/
theorem readByName_further {d d₂ : δ} {ms : List Member} (h : Fills r room d ms d₂) :
    ∀ bound rest place, (writtenFurther ms ++ 0x7D :: rest).length ≤ bound.length →
      ∃ place', r.readByName room bound false d ⟨writtenFurther ms ++ 0x7D :: rest, place⟩ =
        .ok (d₂, ⟨0x7D :: rest, place'⟩) := by
  induction h with
  | done d =>
    intro bound rest place hb
    obtain _ | ⟨_, bound⟩ := bound
    · simp at hb
    refine ⟨place, ?_⟩
    show r.readByName room (_ :: bound) false d ⟨0x7D :: rest, place⟩ = _
    rw [Record.readByName, nextMember_close]
  | @field d d₁ d₂ name j ms field named missing taken others ih =>
    intro bound rest place hb
    obtain _ | ⟨_, bound⟩ := bound
    · simp at hb
    have split : writtenFurther ((name, j) :: ms) ++ 0x7D :: rest =
        0x2C :: 0x22 :: (quotedTail name ++ 0x3A ::
          (Text.utf8 (render j) ++ (writtenFurther ms ++ 0x7D :: rest))) := by
      simp [furtherBytes, memberBytes]
    have ends : EndsValue (writtenFurther ms ++ 0x7D :: rest) := endsValue_further ms rest
    obtain ⟨place₁, place₂, name₁, value₁⟩ :=
      readField_written name taken ends ((place.after 0x2C).after 0x22)
    have short : (writtenFurther ms ++ 0x7D :: rest).length ≤ bound.length := by
      rw [split] at hb
      simp only [List.length_cons, List.length_append] at hb ⊢
      omega
    obtain ⟨place₃, e⟩ := ih bound rest place₂ short
    refine ⟨place₃, ?_⟩
    rw [split, Record.readByName, nextMember_comma]
    simp only [Cursor.advance, name₁, named, missing, Bool.false_eq_true, if_false, value₁, e]

/-- The inside of an object, up to the closing brace. -/
theorem readByName_written {d d₂ : δ} {ms : List Member} (h : Fills r room d ms d₂)
    (bound rest : List UInt8) (place : Place)
    (hb : (writtenMembers ms ++ 0x7D :: rest).length < bound.length) :
    ∃ place', r.readByName room bound true d ⟨writtenMembers ms ++ 0x7D :: rest, place⟩ =
      .ok (d₂, ⟨0x7D :: rest, place'⟩) := by
  obtain _ | ⟨_, bound⟩ := bound
  · simp at hb
  cases h with
  | done d =>
    refine ⟨place, ?_⟩
    show r.readByName room (_ :: bound) true d ⟨0x7D :: rest, place⟩ = _
    rw [Record.readByName, nextMember_close]
  | @field _ d₁ _ name j ms field named missing taken others =>
    have split : writtenMembers ((name, j) :: ms) ++ 0x7D :: rest =
        0x22 :: (quotedTail name ++ 0x3A ::
          (Text.utf8 (render j) ++ (writtenFurther ms ++ 0x7D :: rest))) := by
      simp [membersBytes, memberBytes]
    have ends : EndsValue (writtenFurther ms ++ 0x7D :: rest) := endsValue_further ms rest
    obtain ⟨place₁, place₂, name₁, value₁⟩ :=
      readField_written name taken ends (place.after 0x22)
    have short : (writtenFurther ms ++ 0x7D :: rest).length ≤ bound.length := by
      rw [split] at hb
      simp only [List.length_cons, List.length_append] at hb ⊢
      omega
    obtain ⟨place₃, e⟩ := readByName_further others bound rest place₂ short
    refine ⟨place₃, ?_⟩
    rw [split, Record.readByName, nextMember_first]
    simp only [Cursor.advance, name₁, named, missing, Bool.false_eq_true, if_false, value₁, e]

/-- **Records.** A record is read from the object of members that fill it. -/
theorem takes_record {d : δ} {ms : List Member} {a : α} (h : Fills r room r.start ms d)
    (full : r.finish d = .ok a) :
    Takes (r.shape.ofText (room + 1)) (Text.utf8 (render (.obj ms))) a := by
  intro rest place _
  obtain ⟨place', e⟩ := readByName_written h (0x7B :: (writtenMembers ms ++ 0x7D :: rest)) rest
    (place.after 0x7B) (Nat.lt_succ_self _)
  refine ⟨place'.after 0x7D, ?_⟩
  rw [utf8_render_obj, List.cons_append, List.append_assoc, List.singleton_append]
  unfold Record.shape
  dsimp only
  rw [skipGap_cons (by decide)]
  show r.close closeObject (r.readByName room _ true r.start ⟨_, place.after 0x7B⟩) = _
  rw [e]
  unfold Record.close
  dsimp only
  rw [full]
  dsimp only
  rw [closeObject, skipGap_cons (by decide)]
  rfl

/-- A record is read from a text that holds nothing else. -/
theorem read_record {d : δ} {ms : List Member} {a : α} (h : Fills r 126 r.start ms d)
    (full : r.finish d = .ok a) : r.shape.read (Text.utf8 (render (.obj ms))) = .ok a := by
  obtain ⟨place, e⟩ := takes_record h full [] ⟨1, 0⟩ (by simp [EndsValue])
  rw [List.append_nil] at e
  rw [Shape.read, Cursor.start, maxDepth, e]
  rfl

end Fields

/-! ## Shapes of fields -/

theorem takes_boolShape (room : Nat) (b : Bool) :
    Takes (Shape.bool.ofText room) (Text.utf8 (render (.bool b))) b := by
  intro rest place _
  cases b
  · refine ⟨((((place.after 0x66).after 0x61).after 0x6C).after 0x73).after 0x65, ?_⟩
    show Shape.bool.ofText room ⟨0x66 :: 0x61 :: 0x6C :: 0x73 :: 0x65 :: rest, place⟩ = _
    unfold Shape.bool
    dsimp only
    rw [skipGap_cons (by decide)]
    rfl
  · refine ⟨(((place.after 0x74).after 0x72).after 0x75).after 0x65, ?_⟩
    show Shape.bool.ofText room ⟨0x74 :: 0x72 :: 0x75 :: 0x65 :: rest, place⟩ = _
    unfold Shape.bool
    dsimp only
    rw [skipGap_cons (by decide)]
    rfl

theorem number_digit {d : Nat} (hd : d < 10) {expected : String}
    {accept : Number → Except DataFault α} {room : Nat} {bytes rest : List UInt8}
    {place place' : Place} {n : Number} {a : α} (accepted : accept n = .ok a)
    (e : readNumber true ⟨digitByte d :: bytes, place⟩ = .ok (n, ⟨rest, place'⟩)) :
    (Shape.number expected accept).ofText room ⟨digitByte d :: bytes, place⟩ =
      .ok (a, ⟨rest, place'⟩) := by
  have gap : ∀ d < 10, isGapByte (digitByte d) = false := by decide
  unfold Shape.number
  dsimp only
  rw [skipGap_cons (gap d hd), e]
  interval_cases d <;> simp only [accepted] <;> rfl

/-- A whole number is read as what is made of it. -/
theorem takes_number {n : Int} (range : minInt ≤ n ∧ n ≤ maxInt)
    {accept : Number → Except DataFault α} {a : α} (accepted : accept (.int n) = .ok a)
    (expected : String) (room : Nat) :
    Takes ((Shape.number expected accept).ofText room) (Text.utf8 (render (.int n))) a := by
  intro rest place ends
  rw [utf8_render_int]
  split_ifs with negative
  · obtain ⟨place', e⟩ := readNumber_int range.1 range.2 ends (place.after 0x2D)
    rw [decide_eq_false (by omega)] at e
    refine ⟨place', ?_⟩
    unfold Shape.number
    dsimp only
    rw [List.append_assoc, List.singleton_append, skipGap_cons (by decide)]
    simp only [Cursor.peek?, List.head?_cons, Cursor.advance, e, accepted]
  · obtain ⟨place', e⟩ := readNumber_int range.1 range.2 ends place
    obtain ⟨d, hd, tail, first⟩ := head_numeral n.natAbs rest
    rw [decide_eq_true (by omega), first] at e
    refine ⟨place', ?_⟩
    rw [List.nil_append, first]
    exact number_digit hd accepted e

theorem takes_integer {n low high : Int} (range : minInt ≤ n ∧ n ≤ maxInt)
    (bounds : low ≤ n ∧ n ≤ high) (expected : String) (room : Nat) :
    Takes ((Shape.integer expected low high).ofText room) (Text.utf8 (render (.int n))) n :=
  takes_number range (if_pos bounds) expected room

/-- A name of a table is read as what it stands for there. -/
theorem takes_choice {table : List (String × α)} {name : String} {a : α}
    (named : Shape.lookupName table name = .ok a) (room : Nat) :
    Takes ((Shape.choice table).ofText room) (Text.utf8 (render (.str name))) a := by
  intro rest place _
  obtain ⟨place', e⟩ := readString_quote name rest (place.after 0x22)
  refine ⟨place', ?_⟩
  rw [render, utf8_quote, List.cons_append]
  unfold Shape.choice
  dsimp only
  rw [skipGap_cons (by decide)]
  show Shape.readName table ⟨_, place.after 0x22⟩ = _
  rw [Shape.readName, e]
  simp only [named]

/-- What is not `null` is read by the shape itself. -/
theorem takes_optional {s : Shape α} {room : Nat} {b : UInt8} {bytes : List UInt8} {a : α}
    (gap : isGapByte b = false) (notNull : b ≠ 0x6E) (h : Takes (s.ofText room) (b :: bytes) a) :
    Takes ((Shape.optional s).ofText room) (b :: bytes) (some a) := by
  intro rest place ends
  obtain ⟨place', e⟩ := h rest place ends
  refine ⟨place', ?_⟩
  rw [List.cons_append] at e ⊢
  unfold Shape.optional
  dsimp only
  rw [skipGap_cons gap, if_neg (by simpa [Cursor.peek?] using notNull), e]
  rfl

theorem takes_optional_null (s : Shape α) (room : Nat) :
    Takes ((Shape.optional s).ofText room) nullBytes none := by
  intro rest place _
  refine ⟨(((place.after 0x6E).after 0x75).after 0x6C).after 0x6C, ?_⟩
  show (Shape.optional s).ofText room ⟨0x6E :: 0x75 :: 0x6C :: 0x6C :: rest, place⟩ = _
  unfold Shape.optional
  dsimp only
  rw [skipGap_cons (by decide)]
  rfl

theorem takes_field {δ β : Type} {shape : Shape β} {room : Nat} {bytes : List UInt8} {b : β}
    (h : Takes (shape.ofText room) bytes b) {name : String} {mayEnd : Bool} {get : δ → Option β}
    {set : β → δ → δ} {d : δ} :
    Takes ((Field.of name mayEnd shape get set).ofText room · d) bytes (set b d) := by
  intro rest place ends
  obtain ⟨place', e⟩ := h rest place ends
  refine ⟨place', ?_⟩
  show (shape.ofText room _).map _ = _
  rw [e]
  rfl

end HostWatch.Json
