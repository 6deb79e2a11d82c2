import HostWatch.Proofs.Json.Balance
import HostWatch.Proofs.Json.CutNumbers

/-!
# Texts of plain values

`exponentFree_render`: the text of a plain value, which holds no doubles, has no exponents, so that
`read_cut` applies to it.

1. `Smooth` bytes close their strings, have no exponent and begin with no letter of one. They may be
   joined, and a text is made of such bytes.
2. The text of a container is no shorter than that of an item or a member (`length_item_le`,
   `length_member_le`), and that of a string no shorter than the string (`length_str_le`).
-/

namespace HostWatch.Json

/-! ## Texts without exponents -/

/-- The letter of an exponent. -/
def IsExponent (b : UInt8) : Prop := b = 0x65 ∨ b = 0x45

instance : DecidablePred IsExponent := fun b => inferInstanceAs (Decidable (b = 0x65 ∨ b = 0x45))

/-- Strings of the bytes are closed in them, no number in them has an exponent, and they do not make
one behind a digit. -/
structure Smooth (bytes : List UInt8) : Prop where
  mode : Mode.outside.after bytes = .outside
  free : ExponentFree bytes
  begins : ∀ b ∈ (skeleton .outside bytes).head?, ¬ IsExponent b

theorem Smooth.append {a b : List UInt8} (ha : Smooth a) (hb : Smooth b) : Smooth (a ++ b) where
  mode := by rw [Mode.after_append, ha.mode, hb.mode]
  free := by
    unfold ExponentFree
    rw [skeleton_append, ha.mode]
    refine List.isChain_append.2 ⟨ha.free, hb.free, fun x _ y hy _ => ?_⟩
    exact not_or.1 (hb.begins y hy)
  begins c hc := by
    rw [skeleton_append, ha.mode, List.head?_append] at hc
    rcases Option.or_eq_some_iff.1 hc with hc | ⟨-, hc⟩
    · exact ha.begins c hc
    · exact hb.begins c hc

theorem joins_smooth : Joins Smooth := ⟨⟨rfl, List.isChain_nil, nofun⟩, Smooth.append⟩

theorem smooth_byte {b : UInt8} (quote : b ≠ 0x22) (letter : ¬ IsExponent b) : Smooth [b] where
  mode := by
    show Mode.step .outside b = .outside
    rw [Mode.step, if_neg quote]
  free := List.isChain_singleton b
  begins c hc := by
    obtain rfl : b = c := Option.some.inj hc
    exact letter

theorem smooth_word {b : UInt8} {word : List UInt8} (letter : ¬ IsExponent b)
    (mode : Mode.outside.after (b :: word) = .outside) (free : ExponentFree (b :: word)) :
    Smooth (b :: word) :=
  ⟨mode, free, fun _ h => Option.some.inj h ▸ letter⟩

theorem smooth_quoted (s : String) : Smooth (quotedBytes s) := by
  have outside : skeleton .outside (quotedBytes s) = [0x22] :=
    congrArg (0x22 :: ·) (quotedTail_inside s).2
  refine ⟨(quotedTail_inside s).1, ?_, fun c hc => ?_⟩
  · unfold ExponentFree
    rw [outside]
    exact List.isChain_singleton _
  · rw [outside] at hc
    obtain rfl := Option.some.inj hc
    decide

theorem smooth_int (n : Int) : Smooth (Text.utf8 (render (.int n))) := by
  rw [utf8_render_int]
  refine joins_smooth.each fun b hb => ?_
  rcases List.mem_append.1 hb with sign | digit
  · have minus : b = 0x2D := by
      split_ifs at sign
      · exact List.mem_singleton.1 sign
      · cases sign
    rw [minus]
    exact smooth_byte (by decide) (by decide)
  · obtain ⟨d, hd, rfl⟩ := List.mem_map.1 digit
    have digit := digitValue?_digitByte d (lt_ten_of_mem_digitsOf hd)
    refine smooth_byte (neutral_of_digit digit).1 ?_
    rintro (letter | letter)
    all_goals
      rw [letter] at digit
      cases digit

/-- Bytes between brackets. -/
theorem Smooth.enclosed {bytes : List UInt8} (h : Smooth bytes) {b e : UInt8} (hb : opening b = 1)
    (he : opening e = -1) : Smooth (b :: (bytes ++ [e])) := by
  have bracket {x : UInt8} (hx : opening x ≠ 0) : Smooth [x] := by
    refine smooth_byte ?_ ?_
    · rintro rfl
      exact hx rfl
    · rintro (rfl | rfl) <;> exact hx rfl
  exact (bracket (by rw [hb]; decide)).append (h.append (bracket (by rw [he]; decide)))

theorem smooth_obj {members : List Member} (h : ∀ m ∈ members, Smooth (Text.utf8 (render m.2))) :
    Smooth (Text.utf8 (render (.obj members))) := by
  rw [utf8_render_obj]
  have inside : Smooth (membersBytes (fun j => Text.utf8 (render j)) members) :=
    joins_smooth.members (smooth_byte (by decide) (by decide)) (smooth_byte (by decide) (by decide))
      smooth_quoted h
  exact inside.enclosed rfl rfl

theorem smooth_str (s : String) : Smooth (Text.utf8 (render (.str s))) := by
  rw [render, utf8_quote]
  exact smooth_quoted s

mutual

theorem smooth_render : ∀ j : Json, Plain j → Smooth (Text.utf8 (render j))
  | .null, _ => @smooth_word 0x6E ullBytes (by decide) (by decide) (by decide)
  | .bool true, _ => @smooth_word 0x74 rueBytes (by decide) (by decide) (by decide)
  | .bool false, _ => @smooth_word 0x66 alseBytes (by decide) (by decide) (by decide)
  | .int n, _ => smooth_int n
  | .float _, plain => plain.elim
  | .str s, _ => smooth_str s
  | .arr items, plain => by
    rw [utf8_render_arr]
    have inside := joins_smooth.items (smooth_byte (by decide) (by decide))
      (smooth_renderItems items plain)
    exact inside.enclosed rfl rfl
  | .obj members, plain => smooth_obj (smooth_renderMembers members plain.2)

theorem smooth_renderItems : ∀ items : List Json, PlainItems items →
    ∀ j ∈ items, Smooth (Text.utf8 (render j))
  | [], _ => fun _ hj => absurd hj List.not_mem_nil
  | j :: rest, plain =>
    List.forall_mem_cons.2 ⟨smooth_render j plain.1, smooth_renderItems rest plain.2⟩

theorem smooth_renderMembers : ∀ members : List Member, PlainMembers members →
    ∀ m ∈ members, Smooth (Text.utf8 (render m.2))
  | [], _ => fun _ hm => absurd hm List.not_mem_nil
  | (_, j) :: rest, plain =>
    List.forall_mem_cons.2 ⟨smooth_render j plain.1, smooth_renderMembers rest plain.2⟩

end

/-- **Exponents.** The text of a plain value has none. -/
theorem exponentFree_render {j : Json} (plain : Plain j) : ExponentFree (Text.utf8 (render j)) :=
  (smooth_render j plain).free

/-! ## Lengths -/

theorem length_le_flatMap {f : α → List β} (h : ∀ a, f a ≠ []) (as : List α) :
    as.length ≤ (as.flatMap f).length := by
  rw [List.length_flatMap]
  have each : ∀ n ∈ as.map fun a => (f a).length, 1 ≤ n := by
    intro n hn
    obtain ⟨a, -, rfl⟩ := List.mem_map.1 hn
    exact List.length_pos_iff.2 (h a)
  simpa using List.length_le_sum_of_one_le _ each

theorem length_str_le (s : String) : s.length + 2 ≤ (Text.utf8 (render (.str s))).length := by
  have escaped (c : Char) : escapeChar c ≠ [] := by
    unfold escapeChar
    split_ifs <;> exact List.cons_ne_nil _ _
  have encoded (c : Char) : String.utf8EncodeChar c ≠ [] :=
    List.length_pos_iff.1 (String.length_utf8EncodeChar c ▸ c.utf8Size_pos)
  rw [render, utf8_quote, quotedTail, List.length_cons, List.length_append, List.length_singleton,
    ← String.length_toList]
  have chars := length_le_flatMap escaped s.toList
  have bytes := length_le_flatMap encoded (s.toList.flatMap escapeChar)
  omega

/-- A whole number in range has a sign and twenty digits at most. -/
theorem length_int_le {n : Int} (h : minInt ≤ n ∧ n ≤ maxInt) :
    (Text.utf8 (render (.int n))).length ≤ 21 := by
  have limits : minInt = -9223372036854775808 ∧ maxInt = 18446744073709551615 := ⟨rfl, rfl⟩
  have digits : (digitsOf n.natAbs).length ≤ 20 := length_digitsOf_le (by decide) (by omega)
  have sign : (if n < 0 then [(0x2D : UInt8)] else []).length ≤ 1 := by split_ifs <;> simp
  rw [utf8_render_int, List.length_append, numeralBytes, List.length_map]
  omega

theorem length_item_le {items : List Json} {j : Json} (hj : j ∈ items) :
    (Text.utf8 (render j)).length ≤ (Text.utf8 (render (.arr items))).length := by
  let write (j : Json) := Text.utf8 (render j)
  have later {as : List Json} (hj : j ∈ as) : (write j).Sublist (laterBytes write as) :=
    (List.sublist_cons_self 0x2C _).trans (List.sublist_flatten_of_mem (List.mem_map_of_mem hj))
  have inside : (write j).Sublist (itemsBytes write items) := by
    cases items with
    | nil => cases hj
    | cons k rest =>
      rcases List.mem_cons.1 hj with rfl | hj
      · exact List.sublist_append_left _ _
      · exact (later hj).trans (List.sublist_append_right _ _)
  rw [utf8_render_arr]
  exact ((inside.trans (List.sublist_append_left _ [0x5D])).cons 0x5B).length_le

theorem length_member_le {members : List Member} {m : Member} (hm : m ∈ members) :
    (Text.utf8 (render m.2)).length ≤ (Text.utf8 (render (.obj members))).length := by
  let write (j : Json) := Text.utf8 (render j)
  have value (x : Member) : (write x.2).Sublist (memberBytes write x) :=
    ((List.sublist_cons_self 0x3A _).trans (List.sublist_append_right _ _))
  have further {ms : List Member} (hm : m ∈ ms) : (write m.2).Sublist (furtherBytes write ms) :=
    ((value m).trans (List.sublist_cons_self 0x2C _)).trans
      (List.sublist_flatten_of_mem (List.mem_map_of_mem hm))
  have inside : (write m.2).Sublist (membersBytes write members) := by
    cases members with
    | nil => cases hm
    | cons x rest =>
      rcases List.mem_cons.1 hm with rfl | hm
      · exact (value m).trans (List.sublist_append_left _ _)
      · exact (further hm).trans (List.sublist_append_right _ _)
  rw [utf8_render_obj]
  exact ((inside.trans (List.sublist_append_left _ [0x7D])).cons 0x7B).length_le

end HostWatch.Json
