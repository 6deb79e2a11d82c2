import HostWatch.Health
import HostWatch.Text.Blank

/-!
# Processor time

The counters that the kernel keeps of the time its processors spend, and the share of busy time
between two readings of them.
-/

namespace HostWatch

/-- Ticks since boot, by what they were spent on. -/
structure CpuCounters where
  user : Nat := 0
  nice : Nat := 0
  system : Nat := 0
  idle : Nat := 0
  iowait : Nat := 0
  deriving Repr, DecidableEq, Inhabited

namespace CpuCounters

/-- Greatest number that a counter or a sum of counters can hold. -/
def maxTicks : Nat := Nat.pow 2 64 - 1

/-- Ticks spent on work. -/
def busy (c : CpuCounters) : Nat := c.user + c.nice + c.system

/-- All ticks. -/
def total (c : CpuCounters) : Nat := c.busy + c.idle + c.iowait

/-- The sums of the counters can be held. -/
def Fits (c : CpuCounters) : Prop := c.total ≤ maxTicks

instance : DecidablePred Fits := fun c => inferInstanceAs (Decidable (c.total ≤ maxTicks))

/-- A number kept between two others. -/
def clamp (low high x : Float) : Float := if x < low then low else if high < x then high else x

/-- The busy share of the ticks between two readings, in percent. Counters that ran backwards
count as standing still. -/
def usageSince (later earlier : CpuCounters) : Float :=
  let total := later.total - earlier.total
  if total = 0 then 0
  else clamp 0 100 (floatOfNat (later.busy - earlier.busy) / floatOfNat total * 100)

end CpuCounters

/-- Reads a whole number of 64 bits; a plus sign may stand before the digits. -/
def parseCount? (cs : List Char) : Option Nat :=
  let digits := match cs with
    | '+' :: rest => rest
    | _ => cs
  if digits.isEmpty || !digits.all Char.isDigit then none
  else
    let n := digits.foldl (fun n c => n * 10 + (c.toNat - 48)) 0
    if n ≤ CpuCounters.maxTicks then some n else none

/-- The counters of all processors together, from the line that begins with `cpu` and a blank. The
first four must be there; the fifth counts as 0 when it cannot be read. -/
def CpuCounters.parse? (text : String) : Option CpuCounters := do
  let line ← (Text.lines text.toList).find? (['c', 'p', 'u', ' '].isPrefixOf ·)
  let fields := ((Text.words line).drop 1).map parseCount?
  match fields with
  | some user :: some nice :: some system :: some idle :: rest =>
    some ⟨user, nice, system, idle, (rest.head?.getD none).getD 0⟩
  | _ => none

end HostWatch
