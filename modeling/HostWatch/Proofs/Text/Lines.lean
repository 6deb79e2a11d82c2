import Mathlib.Data.List.DropRight
import Mathlib.Data.List.Forall2
import HostWatch.Text.Blank

/-!
# Lines and the blanks around them

1. A text that was trimmed has no blanks at either end, so trimming it again keeps it
   (`trimmed_trimmed`).
2. What is left of a text when blanks at its ends are dropped says the same (`Sheds`): it occurs in
   the text, it is blank just if the text is, and both are the same once trimmed.
3. Lines that are not blank come apart again when they have been joined and trimmed, each without
   some blanks at its ends (`forall₂_sheds_lines`). The induction is on the lines; only the first of
   them loses blanks in front, which is why trimming at the end comes first.
-/

namespace HostWatch.Text

variable {cs : List Char} {c : Char}

/-! ## Texts without blanks around them -/

theorem trimEnd_eq (cs : List Char) : trimEnd cs = cs.rdropWhile isBlank := rfl

theorem not_isBlank_head?_trimmed (h : (trimmed cs).head? = some c) : isBlank c = false := by
  -- what is kept starts where the blanks at the start of `cs` end
  obtain ⟨rest, whole⟩ := List.rdropWhile_prefix isBlank (trimStart cs)
  have front : (cs.dropWhile isBlank).head? = some c := by
    rw [← trimStart, ← whole, List.head?_append, ← trimEnd_eq, ← trimmed, h, Option.some_or]
  have first := List.head?_dropWhile_not isBlank cs
  rw [front] at first
  exact first

theorem not_isBlank_getLast?_trimmed (h : (trimmed cs).getLast? = some c) : isBlank c = false := by
  have nonempty : trimmed cs ≠ [] := List.ne_nil_of_mem (List.mem_of_getLast? h)
  rw [← List.getLast_of_getLast?_eq_some h]
  exact Bool.eq_false_iff.2 (List.rdropWhile_last_not isBlank (trimStart cs) nonempty)

/-- Nothing is taken away where neither end is blank. -/
theorem trimmed_eq_self (first : ∀ c ∈ cs.head?, isBlank c = false)
    (last : ∀ c ∈ cs.getLast?, isBlank c = false) : trimmed cs = cs := by
  have start : trimStart cs = cs := by
    cases cs with
    | nil => rfl
    | cons c rest => exact List.dropWhile_cons_of_neg (Bool.eq_false_iff.1 (first c rfl))
  rw [trimmed, start, trimEnd_eq, List.rdropWhile_eq_self_iff]
  exact fun nonempty => Bool.eq_false_iff.1 (last _ (List.getLast?_eq_some_getLast nonempty))

theorem trimmed_trimmed (cs : List Char) : trimmed (trimmed cs) = trimmed cs :=
  trimmed_eq_self (fun _ => not_isBlank_head?_trimmed) (fun _ => not_isBlank_getLast?_trimmed)

/-! ## Blanks dropped from the ends -/

/-- `b` is left of `a` when some of the blanks at its ends are dropped. -/
def Sheds (a b : List Char) : Prop :=
  ∃ front back, AllBlank front ∧ AllBlank back ∧ a = front ++ b ++ back

theorem AllBlank.append {a b : List Char} (ha : AllBlank a) (hb : AllBlank b) :
    AllBlank (a ++ b) :=
  List.forall_mem_append.2 ⟨ha, hb⟩

theorem allBlank_nil : AllBlank [] := nofun

theorem sheds_trimStart (cs : List Char) : Sheds cs (trimStart cs) :=
  ⟨cs.takeWhile isBlank, [], fun _ => List.mem_takeWhile_imp, allBlank_nil, by
    rw [List.append_nil, trimStart, List.takeWhile_append_dropWhile]⟩

theorem sheds_trimEnd (cs : List Char) : Sheds cs (trimEnd cs) :=
  ⟨[], cs.rtakeWhile isBlank, allBlank_nil, fun _ => List.mem_rtakeWhile_imp, by
    rw [List.nil_append, trimEnd_eq, List.rdropWhile_append_rtakeWhile]⟩

namespace Sheds

variable {a b d : List Char}

theorem of_back {back : List Char} (blank : AllBlank back) : Sheds (b ++ back) b :=
  ⟨[], back, allBlank_nil, blank, rfl⟩

theorem trans (h : Sheds a b) (h' : Sheds b d) : Sheds a d := by
  obtain ⟨front, back, hf, hb, rfl⟩ := h
  obtain ⟨front', back', hf', hb', rfl⟩ := h'
  exact ⟨front ++ front', back' ++ back, hf.append hf', hb'.append hb, by
    simp only [List.append_assoc]⟩

theorem isInfix (h : Sheds a b) : b <:+: a := by
  obtain ⟨front, back, -, -, rfl⟩ := h
  exact ⟨front, back, rfl⟩

theorem allBlank_iff (h : Sheds a b) : AllBlank a ↔ AllBlank b := by
  refine ⟨fun blank c hc => blank c (h.isInfix.subset hc), fun blank => ?_⟩
  obtain ⟨front, back, hf, hb, rfl⟩ := h
  exact (hf.append blank).append hb

end Sheds

/-! ## Trimming what was put together -/

theorem trimStart_append {a : List Char} (h : ¬ AllBlank a) (b : List Char) :
    trimStart (a ++ b) = trimStart a ++ b := by
  have nonempty : ¬ (a.dropWhile isBlank).isEmpty = true := fun none =>
    h (List.dropWhile_eq_nil_iff.1 (List.isEmpty_iff.1 none))
  rw [trimStart, List.dropWhile_append, if_neg nonempty, trimStart]

theorem trimEnd_append {b : List Char} (h : ¬ AllBlank b) (a : List Char) :
    trimEnd (a ++ b) = a ++ trimEnd b := by
  have nonempty : ¬ (b.reverse.dropWhile isBlank).isEmpty = true := fun none =>
    h fun c hc => List.dropWhile_eq_nil_iff.1 (List.isEmpty_iff.1 none) c (List.mem_reverse.2 hc)
  rw [trimEnd, List.reverse_append, List.dropWhile_append, if_neg nonempty, List.reverse_append,
    List.reverse_reverse, trimEnd]

/-! ## Lines -/

/-- A character that no line ends at belongs to the first line. -/
theorem lines_cons {c : Char} {rest : List Char} (feed : c ≠ '\n')
    (next : c = '\r' → rest.head? ≠ some '\n') :
    lines (c :: rest) = (c :: (lines rest).headD []) :: (lines rest).tail := by
  rw [lines]
  · cases lines rest <;> rfl
  · exact feed
  · exact fun _ isReturn same => next isReturn (same ▸ rfl)

/-- A line ends at the first line feed, without the carriage return in front of it. -/
theorem lines_append_feed {line : List Char} (whole : '\n' ∉ line) (rest : List Char) :
    ∃ first back, line = first ++ back ∧ AllBlank back ∧
      lines (line ++ '\n' :: rest) = first :: lines rest := by
  induction line with
  | nil => exact ⟨[], [], rfl, allBlank_nil, rfl⟩
  | cons c line ih =>
    obtain ⟨feed, whole⟩ := not_or.1 (mt List.mem_cons.2 whole)
    cases line with
    | nil =>
      by_cases isReturn : c = '\r'
      · subst isReturn
        exact ⟨[], ['\r'], rfl, by decide, rfl⟩
      · refine ⟨[c], [], rfl, allBlank_nil, ?_⟩
        rw [List.singleton_append, lines_cons (Ne.symm feed) fun same => absurd same isReturn]
        rfl
    | cons d line =>
      obtain ⟨first, back, parts, blank, cut⟩ := ih whole
      have inside : (d :: line ++ '\n' :: rest).head? ≠ some '\n' := fun same =>
        whole (Option.some.inj same ▸ List.mem_cons_self)
      refine ⟨c :: first, back, by rw [parts]; rfl, blank, ?_⟩
      rw [List.cons_append, lines_cons (Ne.symm feed) fun _ => inside, cut]
      rfl

theorem lines_whole {line : List Char} (nonempty : line ≠ []) (whole : '\n' ∉ line) :
    lines line = [line] := by
  induction line with
  | nil => exact absurd rfl nonempty
  | cons c line ih =>
    obtain ⟨feed, whole⟩ := not_or.1 (mt List.mem_cons.2 whole)
    cases line with
    | nil =>
      rw [lines_cons (Ne.symm feed) fun _ => by decide]
      rfl
    | cons d line =>
      have inside : (d :: line).head? ≠ some '\n' := fun same =>
        whole (Option.some.inj same ▸ List.mem_cons_self)
      rw [lines_cons (Ne.symm feed) fun _ => inside, ih (List.cons_ne_nil d line) whole]
      rfl

theorem feed_not_mem_lines {text line : List Char} (h : line ∈ lines text) : '\n' ∉ line := by
  fun_induction lines text generalizing line with
  | case1 => cases h
  | case2 rest ih | case3 rest ih =>
    rcases List.mem_cons.1 h with rfl | h
    · exact List.not_mem_nil
    · exact ih h
  | case4 c rest feed _ none _ =>
    rw [List.mem_singleton.1 h, List.mem_singleton]
    exact fun same => feed same.symm
  | case5 c rest feed _ first others cut ih =>
    rw [cut] at ih
    rcases List.mem_cons.1 h with rfl | h
    · rw [List.mem_cons, not_or]
      exact ⟨fun same => feed same.symm, ih List.mem_cons_self⟩
    · exact ih (List.mem_cons_of_mem _ h)

/-! ## Lines joined and trimmed -/

/-- The line has no line feed in it and is not blank. -/
def IsFilled (line : List Char) : Prop := '\n' ∉ line ∧ ¬ AllBlank line

theorem IsFilled.of_sheds {a b : List Char} (h : IsFilled a) (sheds : Sheds a b) : IsFilled b :=
  ⟨fun feed => h.1 (sheds.isInfix.subset feed), mt sheds.allBlank_iff.2 h.2⟩

theorem IsFilled.ne_nil {line : List Char} (h : IsFilled line) : line ≠ [] :=
  fun none => h.2 (none ▸ allBlank_nil)

theorem not_allBlank_joined {line : List Char} (h : IsFilled line) (others : List (List Char)) :
    ¬ AllBlank (List.intercalate ['\n'] (line :: others)) := by
  cases others with
  | nil => simpa [List.intercalate] using h.2
  | cons second others =>
    rw [List.intercalate_cons_cons, List.append_assoc]
    exact fun blank => h.2 fun c hc => blank c (List.mem_append_left _ hc)

theorem forall₂_sheds_lines_trimEnd {kept : List (List Char)} (filled : ∀ line ∈ kept, IsFilled line) :
    List.Forall₂ Sheds kept (lines (trimEnd (List.intercalate ['\n'] kept))) := by
  induction kept with
  | nil => exact .nil
  | cons line kept ih =>
    obtain ⟨here, filled⟩ := List.forall_mem_cons.1 filled
    cases kept with
    | nil =>
      have left := sheds_trimEnd line
      have rest := here.of_sheds left
      rw [show List.intercalate ['\n'] [line] = line from List.intercalate_singleton,
        lines_whole rest.ne_nil rest.1]
      exact .cons left .nil
    | cons second kept =>
      have later := not_allBlank_joined (filled second List.mem_cons_self) kept
      obtain ⟨first, back, parts, blank, cut⟩ :=
        lines_append_feed here.1 (trimEnd (List.intercalate ['\n'] (second :: kept)))
      rw [List.intercalate_cons_cons, trimEnd_append later, List.append_assoc,
        List.singleton_append, cut, parts]
      exact .cons (.of_back blank) (ih filled)

/-- Lines that are filled come apart again when they have been joined and trimmed. -/
theorem forall₂_sheds_lines {kept : List (List Char)} (filled : ∀ line ∈ kept, IsFilled line) :
    List.Forall₂ Sheds kept (lines (trimmed (List.intercalate ['\n'] kept))) := by
  cases kept with
  | nil => exact .nil
  | cons line kept =>
    obtain ⟨here, others⟩ := List.forall_mem_cons.1 filled
    have left := sheds_trimStart line
    -- only the first line loses blanks in front
    have front : trimStart (List.intercalate ['\n'] (line :: kept)) =
        List.intercalate ['\n'] (trimStart line :: kept) := by
      cases kept with
      | nil => simp [List.intercalate]
      | cons second kept =>
        rw [List.intercalate_cons_cons, List.intercalate_cons_cons, List.append_assoc,
          List.append_assoc, trimStart_append here.2]
    rw [trimmed, front]
    obtain ⟨first, rest, sheds, later, cut⟩ := List.forall₂_cons_left_iff.1
      (forall₂_sheds_lines_trimEnd (List.forall_mem_cons.2 ⟨here.of_sheds left, others⟩))
    rw [cut]
    exact .cons (left.trans sheds) later

end HostWatch.Text
