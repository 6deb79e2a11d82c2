import HostWatch.Inference.Echo
import HostWatch.Proofs.Text.Lines
import HostWatch.Proofs.Text.Occurs

/-!
# Answers without echoes

`clean_keeps_useful`: whatever a local model answers, the useful lines of its answer are kept, in
their order and without some blanks at their ends, and nothing else is.

1. A line is useful if it is not blank and none of the patterns occurs in it (`isUseful_iff`), and it
   stays so when blanks at its ends are dropped (`IsUseful.of_sheds`).
2. Useful lines are filled, so that they come apart again when they have been joined and trimmed,
   whatever carriage returns and other blanks stand around them (`Text.forall₂_sheds_lines`).
-/

namespace HostWatch.Echo

open Text (AllBlank IsFilled Sheds)

variable {line : List Char}

theorem isUseful_iff :
    IsUseful line ↔ ¬ AllBlank line ∧ ∀ p ∈ patterns, ¬ p.toList <:+: line := by
  simp only [IsUseful, IsEcho, Text.occurs_iff, not_exists, not_and]

theorem IsUseful.of_sheds {shed : List Char} (h : IsUseful line) (sheds : Sheds line shed) :
    IsUseful shed := by
  obtain ⟨filled, fresh⟩ := isUseful_iff.1 h
  exact isUseful_iff.2 ⟨mt sheds.allBlank_iff.2 filled,
    fun p hp occurs => fresh p hp (occurs.trans sheds.isInfix)⟩

/-- The useful lines of a text. -/
def usefulLines (raw : List Char) : List (List Char) :=
  (Text.lines raw).filter fun line => decide (IsUseful line)

theorem isFilled_of_mem_usefulLines {raw : List Char} (h : line ∈ usefulLines raw) :
    IsFilled line := by
  obtain ⟨mem, useful⟩ := List.mem_filter.1 h
  exact ⟨Text.feed_not_mem_lines mem, (of_decide_eq_true useful).1⟩

theorem forall₂_sheds_removed (raw : List Char) :
    List.Forall₂ Sheds (usefulLines raw) (Text.lines (removed raw)) :=
  Text.forall₂_sheds_lines fun _ => isFilled_of_mem_usefulLines

theorem isUseful_of_mem_lines_removed {raw : List Char} (h : line ∈ Text.lines (removed raw)) :
    IsUseful line := by
  obtain ⟨i, hi, rfl⟩ := List.mem_iff_getElem.1 h
  have same := (forall₂_sheds_removed raw).length_eq
  have kept : (usefulLines raw)[i] ∈ usefulLines raw := List.getElem_mem _
  exact (of_decide_eq_true (List.mem_filter.1 kept).2).of_sheds
    ((forall₂_sheds_removed raw).get (by omega) hi)

/-- **Answers of a local model.** A line is useful if it is neither blank nor contains a pattern. Each
line of what is kept of an answer is useful, no blank stands at either end, and its lines are the
useful lines of the answer, in order, each without some blanks at its ends. -/
theorem clean_keeps_useful (raw : String) :
    (∀ line, IsUseful line ↔ ¬ AllBlank line ∧ ∀ p ∈ patterns, ¬ p.toList <:+: line) ∧
    (∀ line ∈ Text.lines (clean raw).toList, IsUseful line) ∧
    (∀ c, (clean raw).toList.head? = some c ∨ (clean raw).toList.getLast? = some c →
      Text.isBlank c = false) ∧
    List.Forall₂ Sheds ((Text.lines raw.toList).filter fun line => IsUseful line)
      (Text.lines (clean raw).toList) := by
  have text : (clean raw).toList = removed raw.toList := String.toList_ofList
  rw [text]
  refine ⟨fun _ => isUseful_iff, fun _ => isUseful_of_mem_lines_removed, fun c ends => ?_,
    forall₂_sheds_removed raw.toList⟩
  exact ends.elim Text.not_isBlank_head?_trimmed Text.not_isBlank_getLast?_trimmed

/-- Carriage returns, an ideographic space and an echo. -/
example : clean "\r\n\u3000Check\r\r\nNote: as an AI\n\u0085Then restart.\r" =
    "Check\r\n\u0085Then restart." := by
  decide +kernel

end HostWatch.Echo
