/-!
# The calendar

Moments as dates of the Gregorian calendar, which is taken to hold for all time, in UTC.
-/

namespace HostWatch

/-- A day of the calendar. -/
structure Date where
  year : Int
  /-- From 1 to 12. -/
  month : Nat
  /-- From 1. -/
  day : Nat
  deriving Repr, DecidableEq

namespace Date

/-- Days from the first of March of the year 0 to the first of January 1970. -/
def epochOffset : Int := 719468

/-- Days in four hundred years. -/
def eraLength : Int := 146097

/-- The year, counted from March, that a day of a span of four hundred years falls in. -/
def yearOfEra (day : Nat) : Nat := (day - day / 1460 + day / 36524 - day / 146096) / 365

/-- The date that is so many days after the first of January 1970. -/
def ofDays (days : Int) : Date :=
  let shifted := days + epochOffset
  let era := shifted / eraLength
  let dayOfEra := (shifted % eraLength).toNat
  let year := yearOfEra dayOfEra
  let dayOfYear := dayOfEra - (365 * year + year / 4 - year / 100)
  let monthFromMarch := (5 * dayOfYear + 2) / 153
  let month := if monthFromMarch < 10 then monthFromMarch + 3 else monthFromMarch - 9
  { year := year + era * 400 + (if month ≤ 2 then 1 else 0)
    month
    day := dayOfYear - (153 * monthFromMarch + 2) / 5 + 1 }

/-- A number with at least so many digits. -/
def padded (width n : Nat) : String :=
  let digits := toString n
  "".pushn '0' (width - digits.length) ++ digits

/-- A year in four digits; one outside them carries its sign. -/
def yearText (year : Int) : String :=
  if 0 ≤ year ∧ year ≤ 9999 then padded 4 year.toNat
  else (if year < 0 then "-" else "+") ++ padded 4 year.natAbs

/-- A date as year, month and day. -/
def text (d : Date) : String := yearText d.year ++ "-" ++ padded 2 d.month ++ "-" ++ padded 2 d.day

end Date

/-- Seconds in a day. -/
def dayLength : Int := 86400

/-- The date and the time of day, in seconds since the epoch. -/
def momentText (seconds : Int) : String :=
  let time := (seconds % dayLength).toNat
  (Date.ofDays (seconds / dayLength)).text ++ " " ++ Date.padded 2 (time / 3600) ++ ":"
    ++ Date.padded 2 (time / 60 % 60) ++ ":" ++ Date.padded 2 (time % 60)

end HostWatch
