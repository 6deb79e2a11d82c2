import HostWatch.Monitor.Cycle
import HostWatch.Settings.File

/-!
# A monitor at its station

A monitor together with what it works with: the clock, its settings and its source of
measurements. Cycles move the clock as far as measuring takes time.
-/

namespace HostWatch

/-- A monitor with its clock, in milliseconds, its settings and its source of measurements. -/
structure Station (σ : Type) where
  clock : Int
  settings : SettingsSource
  watch : Watch
  source : σ

namespace Station

/-- The time in seconds. -/
def now (s : Station σ) : Int := s.clock / 1000

/-- Runs a cycle. -/
def cycle [Sampler σ] (s : Station σ) : Except CycleFault (Station σ) :=
  (s.watch.cycle s.settings.current s.clock s.source).map fun (watch, clock, source) =>
    { s with watch, clock, source }

/-- Runs so many cycles. -/
def cycles [Sampler σ] : Nat → Station σ → Except CycleFault (Station σ)
  | 0, s => .ok s
  | n + 1, s => s.cycle.bind (cycles n)

end Station

end HostWatch
