import HostWatch.Text.Unprintable

/-!
# Text quoted for messages

A string in double quotes in which everything a reader could not see is escaped.
-/

namespace HostWatch.Text

/-- The lowercase hexadecimal digits of a number. -/
def hexDigits (n : Nat) : String := .ofList (Nat.toDigits 16 n)

/-- How a character stands between double quotes. -/
def debugChar (c : Char) : String :=
  if c = '"' then "\\\""
  else if c = '\\' then "\\\\"
  else if c = '\n' then "\\n"
  else if c = '\r' then "\\r"
  else if c = '\t' then "\\t"
  else if c.toNat = 0 then "\\0"
  else if isUnprintable c then "\\u\x7b" ++ hexDigits c.toNat ++ "\x7d"
  else c.toString

/-- A string in double quotes, escaped for a message. -/
def debugQuote (s : String) : String :=
  "\"" ++ String.join (s.toList.map debugChar) ++ "\""

end HostWatch.Text
