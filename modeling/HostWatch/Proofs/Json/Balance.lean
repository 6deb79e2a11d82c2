import HostWatch.Proofs.Json.LexicalRecords
import HostWatch.Proofs.Json.Records

/-!
# Written values are balanced

`nesting_cut_pos`: as long as the last bracket of a written container is missing, one more container
has been opened than closed. A reader that closes what it opens therefore cannot take a part of the
text for a whole one (`Record.read_cut`).

1. `Balanced` bytes close their strings and containers, and no part from their front closes more
   than it has opened. Bytes that are joined, and bytes between brackets, stay balanced.
2. Quoted text, words and numbers are balanced, and so is every written value by induction
   (`balanced_render`).
-/

namespace HostWatch.Json

/-- Strings and containers of the bytes are closed in them, and none that they have not opened. -/
structure Balanced (bytes : List UInt8) : Prop where
  mode : Mode.outside.after bytes = .outside
  closed : nesting (skeleton .outside bytes) = 0
  front : ∀ cut, cut <+: bytes → 0 ≤ nesting (skeleton .outside cut)

/-- A byte outside of strings that opens none. -/
theorem nesting_skeleton_cons {b : UInt8} (quote : b ≠ 0x22) (bytes : List UInt8) :
    nesting (skeleton .outside (b :: bytes)) = opening b + nesting (skeleton .outside bytes) := by
  rw [skeleton, Mode.step, if_neg quote, nesting]

theorem Balanced.nil : Balanced [] where
  mode := rfl
  closed := rfl
  front cut h := by
    rw [List.prefix_nil.1 h]
    decide

theorem Balanced.append {a b : List UInt8} (ha : Balanced a) (hb : Balanced b) :
    Balanced (a ++ b) where
  mode := by rw [Mode.after_append, ha.mode, hb.mode]
  closed := by rw [skeleton_append, nesting_append, ha.mode, ha.closed, hb.closed, Int.zero_add]
  front cut h := by
    rcases List.prefix_or_prefix_of_prefix h (List.prefix_append a b) with short | ⟨more, rfl⟩
    · exact ha.front cut short
    · rw [skeleton_append, nesting_append, ha.mode, ha.closed, Int.zero_add]
      exact hb.front more ((List.prefix_append_right_inj a).1 h)

theorem joins_balanced : Joins Balanced := ⟨Balanced.nil, Balanced.append⟩

theorem balanced_byte {b : UInt8} (h : Neutral b) : Balanced [b] where
  mode := by
    show Mode.step .outside b = .outside
    rw [Mode.step, if_neg h.1]
  closed := by
    show nesting [b] = 0
    rw [nesting, h.2]
    rfl
  front cut hcut := by
    rcases List.prefix_cons_iff.1 hcut with rfl | ⟨t, rfl, ht⟩
    · decide
    · rw [List.prefix_nil.1 ht, nesting_skeleton_cons h.1, h.2]
      decide

theorem balanced_neutral {bytes : List UInt8} (h : ∀ b ∈ bytes, Neutral b) : Balanced bytes :=
  joins_balanced.each fun b hb => balanced_byte (h b hb)

/-! ## Quoted text -/

/-- A quoted text leads out of the string that it begins, and all of it is inside. -/
theorem quotedTail_inside (s : String) :
    Mode.inside.after (quotedTail s) = .outside ∧ skeleton .inside (quotedTail s) = [] := by
  obtain ⟨place, e⟩ := readString_quote s [] ⟨1, 0⟩
  obtain ⟨w, rest, mode, bare⟩ := within_string e
  rw [List.append_nil] at rest
  obtain rfl : quotedTail s = w := rest.trans (List.append_nil w)
  exact ⟨mode, bare⟩

theorem balanced_quoted (s : String) : Balanced (quotedBytes s) where
  mode := (quotedTail_inside s).1
  closed := by
    show nesting (0x22 :: skeleton .inside (quotedTail s)) = 0
    rw [(quotedTail_inside s).2]
    decide
  front cut h := by
    rcases List.prefix_cons_iff.1 h with rfl | ⟨t, rfl, more, eq⟩
    · decide
    · have bare := (quotedTail_inside s).2
      rw [← eq, skeleton_append] at bare
      show 0 ≤ nesting (0x22 :: skeleton .inside t)
      rw [(List.append_eq_nil_iff.1 bare).1]
      decide

/-! ## Containers -/

/-- Inside a container that is not closed yet one more is open. -/
theorem nesting_cut_pos {b : UInt8} (hb : opening b = 1) {bytes cut : List UInt8}
    (h : Balanced bytes) (hcut : cut <+: bytes) : 0 < nesting (skeleton .outside (b :: cut)) := by
  have quote : b ≠ 0x22 := by
    rintro rfl
    exact absurd hb (by decide)
  have := h.front cut hcut
  rw [nesting_skeleton_cons quote, hb]
  omega

theorem Balanced.enclosed {bytes : List UInt8} (h : Balanced bytes) {b e : UInt8}
    (hb : opening b = 1) (he : opening e = -1) : Balanced (b :: (bytes ++ [e])) := by
  have quotes : b ≠ 0x22 ∧ e ≠ 0x22 := by
    constructor <;>
      · rintro rfl
        first | exact absurd hb (by decide) | exact absurd he (by decide)
  have closed : nesting (skeleton .outside (b :: (bytes ++ [e]))) = 0 := by
    rw [nesting_skeleton_cons quotes.1, skeleton_append, nesting_append, h.mode, h.closed, hb]
    show 1 + (0 + nesting (e :: skeleton _ [])) = 0
    rw [nesting, he]
    rfl
  refine ⟨?_, closed, fun cut hcut => ?_⟩
  · show Mode.after (Mode.outside.step b) (bytes ++ [e]) = .outside
    rw [Mode.step, if_neg quotes.1, Mode.after_append, h.mode]
    show Mode.step .outside e = .outside
    rw [Mode.step, if_neg quotes.2]
  · rcases List.prefix_cons_iff.1 hcut with rfl | ⟨t, rfl, ht⟩
    · decide
    · rcases List.prefix_concat_iff.1 ht with rfl | short
      · exact closed.ge
      · exact (nesting_cut_pos hb h short).le

theorem balanced_items {as : List β} {write : β → List UInt8} (h : ∀ a ∈ as, Balanced (write a)) :
    Balanced (itemsBytes write as) := joins_balanced.items (balanced_byte (by decide)) h

theorem balanced_members {ms : List (String × β)} {write : β → List UInt8}
    (h : ∀ m ∈ ms, Balanced (write m.2)) : Balanced (membersBytes write ms) :=
  joins_balanced.members (balanced_byte (by decide)) (balanced_byte (by decide)) balanced_quoted h

/-! ## Values -/

theorem neutral_of_numberByte {b : UInt8} (h : NumberByte b) : Neutral b := by
  rcases h with digit | rfl | rfl | rfl | rfl
  · obtain ⟨d, e⟩ := Option.isSome_iff_exists.1 digit
    exact neutral_of_digit e
  all_goals decide

theorem balanced_signed (minus : Prop) [Decidable minus] {bytes : List UInt8}
    (h : ∀ b ∈ bytes, NumberByte b) : Balanced ((if minus then [0x2D] else []) ++ bytes) := by
  refine balanced_neutral fun b hb => neutral_of_numberByte ?_
  rcases List.mem_append.1 hb with sign | digit
  · split_ifs at sign
    · exact .inr (.inr (.inr (.inr (List.mem_singleton.1 sign))))
    · exact absurd sign List.not_mem_nil
  · exact h b digit

mutual

/-- **Written values** are balanced. -/
theorem balanced_render : ∀ j : Json, Balanced (Text.utf8 (render j))
  | .null => @balanced_neutral nullBytes (neutral_of_all (by decide))
  | .bool true => @balanced_neutral (0x74 :: rueBytes) (neutral_of_all (by decide))
  | .bool false => @balanced_neutral (0x66 :: alseBytes) (neutral_of_all (by decide))
  | .int n => by
    rw [utf8_render_int]
    exact balanced_signed _ fun b hb =>
      numberByte_of_mem (fun _ h => lt_ten_of_mem_digitsOf h) hb
  | .float x => by
    rw [render]
    rcases floatText_form x with null | ⟨minus, bytes, form, eq⟩
    · rw [null]
      exact balanced_neutral (neutral_of_all (by decide))
    · rw [eq]
      exact balanced_signed _ form.number
  | .str s => by
    rw [render, utf8_quote]
    exact balanced_quoted s
  | .arr items => by
    rw [utf8_render_arr]
    exact (balanced_items (balanced_renderItems items)).enclosed (by decide) (by decide)
  | .obj members => by
    rw [utf8_render_obj]
    exact (balanced_members (balanced_renderMembers members)).enclosed (by decide) (by decide)

theorem balanced_renderItems : ∀ items : List Json, ∀ j ∈ items, Balanced (Text.utf8 (render j))
  | [] => fun _ hj => absurd hj List.not_mem_nil
  | j :: rest => List.forall_mem_cons.2 ⟨balanced_render j, balanced_renderItems rest⟩

theorem balanced_renderMembers : ∀ members : List Member,
    ∀ m ∈ members, Balanced (Text.utf8 (render m.2))
  | [] => fun _ hm => absurd hm List.not_mem_nil
  | (_, j) :: rest => List.forall_mem_cons.2 ⟨balanced_render j, balanced_renderMembers rest⟩

end

/-! ## Cut texts -/

/-- A text that is read as a whole closes what it opens. -/
theorem nesting_eq_zero_of_finish {f : Cursor → Step α} (even : Even f) {bytes : List UInt8} {a : α}
    (h : finish (f (Cursor.start bytes)) = .ok a) : nesting (skeleton .outside bytes) = 0 := by
  obtain ⟨c, value, rest⟩ := finish_eq_ok h
  obtain ⟨w, eq, -, count⟩ := (even _ _ _ value).next (spans_skipGap c)
  rw [rest, List.append_nil] at eq
  rwa [show bytes = w from eq]

/-- **Cut records.** A part of a written object, from its front, is not read as a record. -/
theorem Record.read_cut {r : Record δ α} (even : Even (r.shape.ofText maxDepth))
    {members : List Member} {cut : List UInt8} (part : cut <+: Text.utf8 (render (.obj members)))
    (proper : cut ≠ Text.utf8 (render (.obj members))) : ∃ e, r.shape.read cut = .error e := by
  cases h : r.shape.read cut with
  | error e => exact ⟨e, rfl⟩
  | ok a =>
    have closed := nesting_eq_zero_of_finish even h
    rw [utf8_render_obj] at part proper
    rcases List.prefix_cons_iff.1 part with rfl | ⟨t, rfl, ht⟩
    · cases h
    · rcases List.prefix_concat_iff.1 ht with whole | short
      · exact absurd (congrArg (0x7B :: ·) whole) proper
      · have inside : Balanced (writtenMembers members) :=
          balanced_members (balanced_renderMembers members)
        exact absurd closed (nesting_cut_pos (by decide) inside short).ne'

end HostWatch.Json
