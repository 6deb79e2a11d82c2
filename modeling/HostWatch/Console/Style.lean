/-!
# Styles of terminal text

A style is switched on before a text and off behind it by an escape sequence of the terminal.
-/

namespace HostWatch.Console

/-- The codes that switch a style on and off. -/
structure Style where
  on : Nat
  off : Nat
  deriving Repr, DecidableEq

namespace Style

/-- Switches off every colour of letters. -/
def plainColour : Nat := 39

/-- Switches off everything. -/
def plain : Nat := 0

/-- Heavy letters. -/
def bold : Style := ⟨1, plain⟩

/-- Faint letters. -/
def dimmed : Style := ⟨2, plain⟩

/-- Red letters. -/
def red : Style := ⟨31, plainColour⟩

/-- Green letters. -/
def green : Style := ⟨32, plainColour⟩

/-- Yellow letters. -/
def yellow : Style := ⟨33, plainColour⟩

/-- Magenta letters. -/
def magenta : Style := ⟨35, plainColour⟩

/-- Cyan letters. -/
def cyan : Style := ⟨36, plainColour⟩

/-- Bright red letters. -/
def brightRed : Style := ⟨91, plainColour⟩

/-- Bright green letters. -/
def brightGreen : Style := ⟨92, plainColour⟩

/-- The escape sequence of a code. -/
def escape (code : Nat) : String := "\x1b[" ++ toString code ++ "m"

/-- A text in a style. -/
def paint (s : Style) (text : String) : String := escape s.on ++ text ++ escape s.off

end Style

end HostWatch.Console
