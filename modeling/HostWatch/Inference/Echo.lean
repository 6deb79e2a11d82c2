import HostWatch.Text.Blank

/-!
# Echoes in answers

A local model tends to repeat parts of what it was told. Lines that do so are dropped from its
answer, and so are blank lines.
-/

namespace HostWatch.Echo

/-- Texts that only an echo contains. -/
def patterns : List String :=
  ["Please provide", "Please note", "Please give", "You are a", "As a Linux", "As an AI",
    "I'd be happy to", "Here's my response", "Here is my response", "Let me help", "I can help",
    "(2-3 sentences", "sentences max)", "Be specific and concise", "brief, actionable", "Hint:",
    "Note:"]

/-- The line contains one of the patterns. -/
def IsEcho (line : List Char) : Prop := ∃ p ∈ patterns, Text.occurs p.toList line = true

instance : DecidablePred IsEcho := fun line => by unfold IsEcho; infer_instance

/-- The line says something of its own. -/
def IsUseful (line : List Char) : Prop := ¬ Text.AllBlank line ∧ ¬ IsEcho line

instance : DecidablePred IsUseful := fun line =>
  inferInstanceAs (Decidable (¬ Text.AllBlank line ∧ ¬ IsEcho line))

/-- Lines with a line feed between them. -/
def joinLines : List (List Char) → List Char := List.intercalate ['\n']

/-- The useful lines of a text, without blanks at either end. -/
def removed (raw : List Char) : List Char :=
  Text.trimmed (joinLines ((Text.lines raw).filter fun line => decide (IsUseful line)))

/-- The useful lines of an answer, without blanks at either end. -/
def clean (raw : String) : String := .ofList (removed raw.toList)

end HostWatch.Echo
