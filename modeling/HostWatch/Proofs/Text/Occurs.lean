import Mathlib.Data.List.Basic
import HostWatch.Text.Blank

/-!
# Where a text occurs

The search for a text is the infix relation (`occurs_iff`), and what holds none of the characters
that another text is cut at occurs in that text just where it occurs in one of the pieces
(`infix_iff_pieces`). Pieces that were joined come apart again (`pieces_joined`), and the first word
is what stands before the first blank (`headD_words`).
-/

namespace HostWatch.Text

variable {isGap : Char → Bool} {needle text : List Char}

theorem occurs_iff : occurs needle text = true ↔ needle <:+: text := by
  induction text with
  | nil => simp [occurs]
  | cons c rest ih =>
    rw [occurs, Bool.or_eq_true, List.isPrefixOf_iff_prefix, ih, List.infix_cons_iff]

/-! ## Pieces -/

theorem pieces_gap {c : Char} (gap : isGap c = true) (rest : List Char) :
    pieces isGap (c :: rest) = [] :: pieces isGap rest := by
  rw [pieces, if_pos gap]

theorem pieces_other {c : Char} (other : ¬ isGap c = true) {rest piece : List Char}
    {others : List (List Char)} (cut : pieces isGap rest = piece :: others) :
    pieces isGap (c :: rest) = (c :: piece) :: others := by
  rw [pieces, if_neg other, cut]

theorem pieces_eq_cons (isGap : Char → Bool) (text : List Char) :
    ∃ piece others, pieces isGap text = piece :: others := by
  induction text with
  | nil => exact ⟨_, _, rfl⟩
  | cons c rest ih =>
    obtain ⟨piece, others, cut⟩ := ih
    by_cases gap : isGap c = true
    · exact ⟨_, _, pieces_gap gap rest⟩
    · exact ⟨_, _, pieces_other gap cut⟩

/-- The first piece ends at the first gap. -/
theorem pieces_append_gap {start : List Char} (whole : ∀ c ∈ start, ¬ isGap c = true) {c : Char}
    (gap : isGap c = true) (rest : List Char) :
    pieces isGap (start ++ c :: rest) = start :: pieces isGap rest := by
  induction start with
  | nil => exact pieces_gap gap rest
  | cons d start ih =>
    obtain ⟨other, whole⟩ := List.forall_mem_cons.1 whole
    exact pieces_other other (ih whole)

theorem pieces_whole (whole : ∀ c ∈ text, ¬ isGap c = true) : pieces isGap text = [text] := by
  induction text with
  | nil => rfl
  | cons c rest ih =>
    obtain ⟨other, whole⟩ := List.forall_mem_cons.1 whole
    exact pieces_other other (ih whole)

theorem pieces_joined {gap : Char} (isGap_gap : isGap gap = true) {first : List Char}
    {others : List (List Char)} (whole : ∀ piece ∈ first :: others, ∀ c ∈ piece, ¬ isGap c = true) :
    pieces isGap (first ++ others.flatMap (gap :: ·)) = first :: others := by
  induction others generalizing first with
  | nil =>
    rw [List.flatMap_nil, List.append_nil]
    exact pieces_whole (whole first List.mem_cons_self)
  | cons second others ih =>
    obtain ⟨wholeFirst, whole⟩ := List.forall_mem_cons.1 whole
    rw [List.flatMap_cons, List.cons_append, pieces_append_gap wholeFirst isGap_gap, ih whole]

/-- What holds no gap begins a text just if it begins the first piece. -/
theorem prefix_iff_piece (whole : ∀ c ∈ needle, ¬ isGap c = true) {piece : List Char}
    {others : List (List Char)} (cut : pieces isGap text = piece :: others) :
    needle <+: text ↔ needle <+: piece := by
  induction text generalizing needle piece others with
  | nil =>
    obtain ⟨rfl, -⟩ := List.cons.inj cut
    rfl
  | cons c rest ih =>
    cases needle with
    | nil => simp
    | cons d needle =>
      obtain ⟨other, whole⟩ := List.forall_mem_cons.1 whole
      by_cases gap : isGap c = true
      · obtain ⟨rfl, -⟩ := List.cons.inj ((pieces_gap gap rest).symm.trans cut)
        rw [List.cons_prefix_cons, List.prefix_nil]
        exact iff_of_false (fun same => other (same.1 ▸ gap)) (List.cons_ne_nil d needle)
      · obtain ⟨piece', others', cut'⟩ := pieces_eq_cons isGap rest
        obtain ⟨rfl, -⟩ := List.cons.inj ((pieces_other gap cut').symm.trans cut)
        rw [List.cons_prefix_cons, List.cons_prefix_cons, ih whole cut']

/-- What holds no gap occurs in a text just if it occurs in one of the pieces. -/
theorem infix_iff_pieces (whole : ∀ c ∈ needle, ¬ isGap c = true) :
    needle <:+: text ↔ ∃ piece ∈ pieces isGap text, needle <:+: piece := by
  induction text with
  | nil => simp [pieces]
  | cons c rest ih =>
    obtain ⟨piece, others, cut⟩ := pieces_eq_cons isGap rest
    by_cases gap : isGap c = true
    · have begins := prefix_iff_piece whole (pieces_gap gap rest)
      rw [List.infix_cons_iff, begins, ih, pieces_gap gap, List.exists_mem_cons_iff,
        List.prefix_nil, List.infix_nil]
    · have begins := prefix_iff_piece whole (pieces_other gap cut)
      rw [List.infix_cons_iff, begins, ih, pieces_other gap cut, cut, List.exists_mem_cons_iff,
        List.exists_mem_cons_iff, List.infix_cons_iff, or_assoc]

/-- What holds no gap does not reach across one. -/
theorem infix_append_gap {start : List Char} (whole : ∀ c ∈ needle, ¬ isGap c = true)
    (wholeStart : ∀ c ∈ start, ¬ isGap c = true) {c : Char} (gap : isGap c = true)
    (rest : List Char) : needle <:+: start ++ c :: rest ↔ needle <:+: start ∨ needle <:+: rest := by
  rw [infix_iff_pieces whole, pieces_append_gap wholeStart gap, List.exists_mem_cons_iff,
    ← infix_iff_pieces whole]

/-! ## Words -/

/-- The first word ends at the first gap. -/
theorem runs_append_gap {word : List Char} (nonempty : word ≠ [])
    (whole : ∀ c ∈ word, ¬ isGap c = true) {gap : Char} (isGap_gap : isGap gap = true)
    (rest : List Char) : ∃ others, runs isGap (word ++ gap :: rest) = word :: others := by
  induction word with
  | nil => exact absurd rfl nonempty
  | cons c word ih =>
    obtain ⟨other, whole⟩ := List.forall_mem_cons.1 whole
    cases word with
    | nil =>
      rw [List.singleton_append, runs, if_neg other, if_pos isGap_gap]
      exact ⟨_, rfl⟩
    | cons d word =>
      obtain ⟨others, cut⟩ := ih (List.cons_ne_nil d word) whole
      rw [List.cons_append] at cut
      rw [List.cons_append, List.cons_append, runs, if_neg other,
        if_neg (whole d List.mem_cons_self), cut]
      exact ⟨others, rfl⟩

theorem headD_words {word : List Char} (nonempty : word ≠ [])
    (blankless : ∀ c ∈ word, ¬ isBlank c = true) {gap : Char} (blank : isBlank gap = true)
    (rest : List Char) : (words (word ++ gap :: rest)).headD [] = word := by
  obtain ⟨others, cut⟩ := runs_append_gap nonempty blankless blank rest
  rw [words, cut, List.headD_cons]

end HostWatch.Text
