import HostWatch.Proofs.Json.FloatText
import HostWatch.Proofs.Json.TextMap

/-!
# Values are read back from their text

`takes_render`: the text of a value is read again, wherever it stands and however deep the value is
nested, as long as there is room for its containers. What is read is `reread` of the value: numbers
that are not whole become what their text reads as, and objects get their names in order.
`reread_of_plain` says when that is the value itself.

1. A value of each kind is told from the others by its first byte (`readValue_digit` and its
   siblings).
2. Lists and objects are runs of parts (`utf8_renderItems`, `utf8_renderMembers`); with one room less
   for the parts, the induction follows the value.
-/

namespace HostWatch.Json

/-! ## What reading makes of a text -/

mutual

/-- Every whole number is one that a value can hold. -/
def InRange : Json → Prop
  | .int n => minInt ≤ n ∧ n ≤ maxInt
  | .arr items => InRangeItems items
  | .obj members => InRangeMembers members
  | _ => True

/-- Every item is in range. -/
def InRangeItems : List Json → Prop
  | [] => True
  | j :: rest => InRange j ∧ InRangeItems rest

/-- Every member is in range. -/
def InRangeMembers : List Member → Prop
  | [] => True
  | (_, j) :: rest => InRange j ∧ InRangeMembers rest

end

mutual

/-- What is read from the text of a value. -/
def reread : Json → Json
  | .float x => rereadFloat x
  | .arr items => .arr (rereadItems items)
  | .obj members => object (rereadMembers members)
  | j => j

/-- What is read from the items of a list. -/
def rereadItems : List Json → List Json
  | [] => []
  | j :: rest => reread j :: rereadItems rest

/-- What is read from the members of an object. -/
def rereadMembers : List Member → List Member
  | [] => []
  | (name, j) :: rest => (name, reread j) :: rereadMembers rest

end

theorem rereadItems_eq (items : List Json) : rereadItems items = items.map reread := by
  induction items with
  | nil => rfl
  | cons j rest ih => rw [rereadItems, ih, List.map_cons]

theorem rereadMembers_eq (members : List Member) :
    rereadMembers members = members.map fun m => (m.1, reread m.2) := by
  induction members with
  | nil => rfl
  | cons m rest ih => rw [rereadMembers, ih, List.map_cons]

mutual

/-- A plain value is read as itself. -/
theorem reread_of_plain : ∀ {j : Json}, Plain j → reread j = j
  | .null, _ | .bool _, _ | .int _, _ | .str _, _ => rfl
  | .float _, h => h.elim
  | .arr _, h => by rw [reread, rereadItems_of_plain h]
  | .obj _, h => by rw [reread, rereadMembers_of_plain h.2, object, putEntries_of_sortedNames h.1]

theorem rereadItems_of_plain : ∀ {items : List Json}, PlainItems items → rereadItems items = items
  | [], _ => rfl
  | _ :: _, h => by rw [rereadItems, reread_of_plain h.1, rereadItems_of_plain h.2]

theorem rereadMembers_of_plain : ∀ {members : List Member}, PlainMembers members →
    rereadMembers members = members
  | [], _ => rfl
  | _ :: _, h => by rw [rereadMembers, reread_of_plain h.1, rereadMembers_of_plain h.2]

end

mutual

theorem Plain.inRange : ∀ {j : Json}, Plain j → InRange j
  | .null, _ | .bool _, _ | .str _, _ => trivial
  | .int _, h => h
  | .float _, h => h.elim
  | .arr _, h => PlainItems.inRange h
  | .obj _, h => PlainMembers.inRange h.2

theorem PlainItems.inRange : ∀ {items : List Json}, PlainItems items → InRangeItems items
  | [], _ => trivial
  | _ :: _, h => ⟨Plain.inRange h.1, PlainItems.inRange h.2⟩

theorem PlainMembers.inRange : ∀ {members : List Member}, PlainMembers members →
    InRangeMembers members
  | [], _ => trivial
  | _ :: _, h => ⟨Plain.inRange h.1, PlainMembers.inRange h.2⟩

end

/-! ## Whole numbers -/

/-- The bytes of a whole number: a sign, if it is negative, and digits. -/
theorem utf8_render_int (n : Int) : Text.utf8 (render (.int n)) =
    (if n < 0 then [0x2D] else []) ++ numeralBytes (digitsOf n.natAbs) := by
  rw [← utf8_toString, render]
  cases n with
  | ofNat n => rfl
  | negSucc n =>
    show Text.utf8 ("-" ++ toString (n + 1)) = _
    rw [Text.utf8_append, if_pos (Int.negSucc_lt_zero n)]
    rfl

/-- The digits of a whole number are read as the number behind its sign. -/
theorem readNumber_int {n : Int} (low : minInt ≤ n) (high : n ≤ maxInt) {rest : List UInt8}
    (ends : EndsValue rest) (place : Place) :
    ∃ place', readNumber (decide (0 ≤ n)) ⟨numeralBytes (digitsOf n.natAbs) ++ rest, place⟩ =
      .ok (.int n, ⟨rest, place'⟩) := by
  have minInt_eq : minInt = -9223372036854775808 := rfl
  have maxInt_eq : maxInt = 18446744073709551615 := rfl
  have limit_eq : maxSignificand = 18446744073709551615 := rfl
  have power_eq : Nat.pow 2 63 = 9223372036854775808 := rfl
  have range : valueOf 0 (digitsOf n.natAbs) ≤ maxSignificand := by
    rw [valueOf_digitsOf]
    omega
  obtain ⟨place', e⟩ := readNumber_whole (leadingDigits_digitsOf n.natAbs) range (decide (0 ≤ n)) ends
    place
  refine ⟨place', ?_⟩
  rw [e, valueOf_digitsOf]
  unfold wholeNumber
  rcases Int.lt_or_le n 0 with negative | nonneg
  · rw [decide_eq_false (by omega), if_neg Bool.false_ne_true, if_pos (by omega),
      show -(n.natAbs : Int) = n by omega]
  · rw [decide_eq_true nonneg, if_pos rfl, show (n.natAbs : Int) = n by omega]

/-- The bytes of a whole number that is not negative begin with a digit. -/
theorem head_numeral (n : Nat) (rest : List UInt8) :
    ∃ d < 10, ∃ tail, numeralBytes (digitsOf n) ++ rest = digitByte d :: tail := by
  obtain ⟨d, ds, digits⟩ := List.exists_cons_of_ne_nil (digitsOf_ne_nil n)
  refine ⟨d, lt_ten_of_mem_digitsOf (n := n) (digits ▸ List.mem_cons_self),
    numeralBytes ds ++ rest, ?_⟩
  rw [digits]
  rfl

theorem takes_int {n : Int} (low : minInt ≤ n) (high : n ≤ maxInt) (room : Nat) :
    Takes (readValue room) (Text.utf8 (render (.int n))) (.int n) := by
  intro rest place ends
  rw [utf8_render_int]
  split_ifs with negative
  · obtain ⟨place', e⟩ := readNumber_int low high ends (place.after 0x2D)
    rw [decide_eq_false (by omega)] at e
    refine ⟨place', ?_⟩
    rw [List.append_assoc, List.singleton_append, readValue_minus, e]
    rfl
  · obtain ⟨place', e⟩ := readNumber_int low high ends place
    obtain ⟨d, hd, tail, first⟩ := head_numeral n.natAbs rest
    rw [decide_eq_true (by omega), first] at e
    refine ⟨place', ?_⟩
    rw [List.nil_append, first, readValue_digit hd, e]
    rfl

/-! ## Values by their first byte -/

theorem readValue_list (room : Nat) (bytes : List UInt8) (place : Place) :
    readValue (room + 1) ⟨0x5B :: bytes, place⟩ =
      (readItems (readValue room) (0x5B :: bytes) true ⟨bytes, place.after 0x5B⟩).map
        fun (items, c) => (.arr items, c) := by
  rw [readValue.eq_def]
  dsimp only
  rw [skipGap_cons (by decide)]
  rfl

theorem readValue_object (room : Nat) (bytes : List UInt8) (place : Place) :
    readValue (room + 1) ⟨0x7B :: bytes, place⟩ =
      (readMembers (readValue room) (0x7B :: bytes) true ⟨bytes, place.after 0x7B⟩).map
        fun (members, c) => (object members, c) := by
  rw [readValue.eq_def]
  dsimp only
  rw [skipGap_cons (by decide)]
  rfl

theorem takes_str (room : Nat) (s : String) :
    Takes (readValue room) (quotedBytes s) (.str s) := by
  intro rest place _
  obtain ⟨place', e⟩ := readString_quote s rest (place.after 0x22)
  refine ⟨place', ?_⟩
  rw [readValue.eq_def]
  dsimp only [quotedBytes, List.cons_append]
  rw [skipGap_cons (by decide)]
  show (readString ⟨quotedTail s ++ rest, place.after 0x22⟩).map _ = _
  rw [e]
  rfl

theorem takes_bool (room : Nat) (b : Bool) :
    Takes (readValue room) (Text.utf8 (render (.bool b))) (.bool b) := by
  intro rest place _
  cases b
  · refine ⟨((((place.after 0x66).after 0x61).after 0x6C).after 0x73).after 0x65, ?_⟩
    show readValue room ⟨0x66 :: 0x61 :: 0x6C :: 0x73 :: 0x65 :: rest, place⟩ = _
    rw [readValue.eq_def]
    dsimp only
    rw [skipGap_cons (by decide)]
    rfl
  · refine ⟨(((place.after 0x74).after 0x72).after 0x75).after 0x65, ?_⟩
    show readValue room ⟨0x74 :: 0x72 :: 0x75 :: 0x65 :: rest, place⟩ = _
    rw [readValue.eq_def]
    dsimp only
    rw [skipGap_cons (by decide)]
    rfl

/-- The first byte of a value: no blank, no closing bracket, and the first letter of `null` only if
all of `null` stands there. -/
def Begins (bytes : List UInt8) (j : Json) : Prop :=
  ∃ b tail, bytes = b :: tail ∧ isGapByte b = false ∧ b ≠ 0x5D ∧
    (b = 0x6E → bytes = nullBytes ∧ reread j = .null)

theorem begins_of_ne {b : UInt8} (tail : List UInt8) {j : Json} (gap : isGapByte b = false)
    (close : b ≠ 0x5D) (letter : b ≠ 0x6E) : Begins (b :: tail) j :=
  ⟨b, tail, rfl, gap, close, fun e => absurd e letter⟩

/-- A sign, perhaps, and digits. -/
theorem begins_signed (minus : Prop) [Decidable minus] {bytes : List UInt8} {j : Json}
    (h : ∃ d < 10, bytes.head? = some (digitByte d)) :
    Begins ((if minus then [0x2D] else []) ++ bytes) j := by
  have digits : ∀ d < 10, isGapByte (digitByte d) = false ∧ digitByte d ≠ 0x5D ∧
      digitByte d ≠ 0x6E := by decide
  obtain ⟨d, hd, first⟩ := h
  split_ifs
  · exact begins_of_ne bytes (by decide) (by decide) (by decide)
  · cases bytes with
    | nil => cases first
    | cons b bytes =>
      obtain rfl := Option.some.inj first
      obtain ⟨gap, close, letter⟩ := digits d hd
      exact begins_of_ne bytes gap close letter

theorem begins_render (j : Json) : Begins (Text.utf8 (render j)) j := by
  cases j with
  | null => exact ⟨0x6E, [0x75, 0x6C, 0x6C], rfl, by decide, by decide, fun _ => ⟨rfl, rfl⟩⟩
  | bool b => cases b <;> exact begins_of_ne _ (by decide) (by decide) (by decide)
  | int n =>
    rw [utf8_render_int]
    refine begins_signed _ ?_
    have := (leadingDigits_digitsOf n.natAbs).head?_numeralBytes []
    rwa [List.append_nil] at this
  | float x =>
    rw [render]
    rcases floatText_form x with null | ⟨minus, bytes, form, eq⟩
    · refine ⟨0x6E, [0x75, 0x6C, 0x6C], null, by decide, by decide, fun _ => ⟨null, ?_⟩⟩
      rw [reread]
      exact rereadFloat_eq (null ▸ takes_null 0)
    · rw [eq]
      exact begins_signed _ form.digit
  | str s =>
    rw [render, utf8_quote]
    exact begins_of_ne _ (by decide) (by decide) (by decide)
  | arr items =>
    rw [utf8_render_arr]
    exact begins_of_ne _ (by decide) (by decide) (by decide)
  | obj members =>
    rw [utf8_render_obj]
    exact begins_of_ne _ (by decide) (by decide) (by decide)

theorem beginsItem_render (j : Json) : BeginsItem (Text.utf8 (render j)) := by
  obtain ⟨b, tail, eq, gap, close, -⟩ := begins_render j
  exact ⟨b, tail, eq, gap, close⟩

/-! ## Whole values -/

mutual

/-- **Round trip.** The text of a value is read wherever it stands, if there is room for it. -/
theorem takes_render : ∀ {j : Json} {room : Nat}, InRange j → depth j ≤ room →
    Takes (readValue room) (Text.utf8 (render j)) (reread j)
  | .null, room, _, _ => takes_null room
  | .bool b, room, _, _ => takes_bool room b
  | .int _, room, h, _ => takes_int h.1 h.2 room
  | .float x, room, _, _ => takes_floatText x room
  | .str s, room, _, _ => by
    rw [render, utf8_quote]
    exact takes_str room s
  | .arr items, 0, _, hd => absurd hd (by rw [depth]; omega)
  | .arr items, room + 1, h, hd => by
    rw [depth] at hd
    have parts : ∀ j ∈ items, Takes (readValue room) (Text.utf8 (render j)) (reread j) :=
      takes_renderItems h (by omega)
    intro rest place _
    rw [utf8_render_arr, List.cons_append, List.append_assoc, List.singleton_append,
      readValue_list]
    obtain ⟨place', e⟩ := readItems_written items
      (fun j hj => ⟨beginsItem_render j, parts j hj⟩)
      (0x5B :: (itemsBytes (fun j => Text.utf8 (render j)) items ++ 0x5D :: rest)) rest
      (place.after 0x5B) (Nat.lt_succ_self _)
    refine ⟨place', ?_⟩
    rw [e, reread, rereadItems_eq]
    rfl
  | .obj members, 0, _, hd => absurd hd (by rw [depth]; omega)
  | .obj members, room + 1, h, hd => by
    rw [depth] at hd
    have parts : ∀ m ∈ members, Takes (readValue room) (Text.utf8 (render m.2)) (reread m.2) :=
      takes_renderMembers h (by omega)
    intro rest place _
    rw [utf8_render_obj, List.cons_append, List.append_assoc, List.singleton_append,
      readValue_object]
    obtain ⟨place', e⟩ := readMembers_written members parts
      (0x7B :: (membersBytes (fun j => Text.utf8 (render j)) members ++ 0x7D :: rest)) rest
      (place.after 0x7B) (Nat.lt_succ_self _)
    refine ⟨place', ?_⟩
    rw [e, reread, rereadMembers_eq]
    rfl

theorem takes_renderItems : ∀ {items : List Json} {room : Nat}, InRangeItems items →
    depthItems items ≤ room →
    ∀ j ∈ items, Takes (readValue room) (Text.utf8 (render j)) (reread j)
  | [], _, _, _ => fun _ hj => absurd hj List.not_mem_nil
  | _ :: _, _, h, hd => by
    rw [depthItems, Nat.max_le] at hd
    exact List.forall_mem_cons.2 ⟨takes_render h.1 hd.1, takes_renderItems h.2 hd.2⟩

theorem takes_renderMembers : ∀ {members : List Member} {room : Nat}, InRangeMembers members →
    depthMembers members ≤ room →
    ∀ m ∈ members, Takes (readValue room) (Text.utf8 (render m.2)) (reread m.2)
  | [], _, _, _ => fun _ hm => absurd hm List.not_mem_nil
  | (_, _) :: _, _, h, hd => by
    rw [depthMembers, Nat.max_le] at hd
    exact List.forall_mem_cons.2 ⟨takes_render h.1 hd.1, takes_renderMembers h.2 hd.2⟩

end

/-- The text of a value is read as a whole. -/
theorem read_render {j : Json} (h : InRange j) (hd : depth j ≤ maxDepth) :
    read (Text.utf8 (render j)) = .ok (reread j) := by
  obtain ⟨place, e⟩ := takes_render h hd [] ⟨1, 0⟩ (by simp [EndsValue])
  rw [List.append_nil] at e
  rw [read, Cursor.start, e]
  rfl

end HostWatch.Json
