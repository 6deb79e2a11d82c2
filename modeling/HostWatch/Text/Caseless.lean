/-!
# Words compared without case

Names such as severities are recognised whatever their case. All of them are ASCII words, so only
the characters whose lowercase form is an ASCII character matter.
-/

namespace HostWatch.Text

/-- The lowercase form of a character, where that form is an ASCII letter; any other character
stays as it is. The Kelvin sign is the one character outside ASCII with such a form. -/
def lower (c : Char) : Char :=
  if c = '\u212A' then 'k' else c.toLower

/-- `s` with every character put in lowercase as far as `lower` goes. -/
def Str.lower (s : String) : String := .ofList (s.toList.map Text.lower)

/-- The value that a table of lowercase words gives to `s`, whatever its case. -/
def lookupCaseless (table : List (String × α)) (s : String) : Option α :=
  table.lookup (Str.lower s)

end HostWatch.Text
