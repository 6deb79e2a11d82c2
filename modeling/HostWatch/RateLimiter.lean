/-!
# Limiting the rate of requests

Requests are granted in windows of one second. A window begins with the first request after the
window before it has passed, and grants as many requests as the limit allows. A clock may count in
any unit; `second` is how many of them make a second.
-/

namespace HostWatch

/-- Milliseconds that a window lasts. -/
def windowLength : Int := 1000

/-- A window of time and what has been granted in it. -/
structure RateLimiter where
  /-- When the window began. -/
  started : Int
  /-- Requests granted in it. -/
  count : Nat
  /-- Greatest number of requests granted in a window. -/
  limit : Nat
  deriving Repr, DecidableEq

namespace RateLimiter

/-- A limiter whose first window begins now. -/
def new (now : Int) (limit : Nat) : RateLimiter := ⟨now, 0, limit⟩

/-- The limiter in the window that a moment falls in. -/
def windowAt (r : RateLimiter) (now : Int) (second : Int := windowLength) : RateLimiter :=
  if second ≤ now - r.started then { r with started := now, count := 0 } else r

/-- Asks for a request to be granted. -/
def tryAcquire (r : RateLimiter) (now : Int) (second : Int := windowLength) :
    Bool × RateLimiter :=
  let r := r.windowAt now second
  if r.count < r.limit then (true, { r with count := r.count + 1 }) else (false, r)

/-- Begins a fresh window. -/
def reset (r : RateLimiter) (now : Int) : RateLimiter := { r with started := now, count := 0 }

/-- Another limit; what the window has granted stays counted. -/
def setLimit (r : RateLimiter) (limit : Nat) : RateLimiter := { r with limit }

end RateLimiter

end HostWatch
