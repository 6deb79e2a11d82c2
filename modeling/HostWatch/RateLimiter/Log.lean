import HostWatch.RateLimiter

/-!
# The log of a limiter

What is asked of a limiter, call by call, and which requests it granted. The windows are read off
the log alone: the limiter remembers the start of one window and a number, the log has them all.
-/

namespace HostWatch.RateLimiter

/-- Something asked of a limiter. -/
inductive Ask where
  | request
  | reset
  | setLimit (limit : Nat)
  deriving DecidableEq

/-- A call of a limiter at a moment. -/
structure Call where
  time : Int
  ask : Ask
  deriving DecidableEq

/-- A call and whether a request was granted in it. -/
structure Entry where
  call : Call
  granted : Bool
  deriving DecidableEq

/-- What a call does to the limiter, and whether it grants a request. -/
def respond (second : Int) (r : RateLimiter) (c : Call) : Bool × RateLimiter :=
  match c.ask with
  | .request => r.tryAcquire c.time second
  | .reset => (false, r.reset c.time)
  | .setLimit limit => (false, r.setLimit limit)

/-- The limiter after calls one after another. -/
def after (second : Int) (r : RateLimiter) (calls : List Call) : RateLimiter :=
  calls.foldl (fun r c => (r.respond second c).2) r

/-- The log of calls one after another. -/
def log (second : Int) : RateLimiter → List Call → List Entry
  | _, [] => []
  | r, c :: calls => ⟨c, (r.respond second c).1⟩ :: log second (r.respond second c).2 calls

/-- The calls come in the order of time, none of them before `start`. -/
def InOrder (start : Int) (calls : List Call) : Prop :=
  (start :: calls.map (·.time)).Pairwise (· ≤ ·)

instance (start : Int) (calls : List Call) : Decidable (InOrder start calls) :=
  inferInstanceAs (Decidable (List.Pairwise _ _))

/-! ## What a log says -/

/-- Requests granted in a part of a log. -/
def grants (entries : List Entry) : Nat := entries.countP (·.granted)

/-- Requests granted from one moment to another, both included. -/
def grantsWithin (first last : Int) (entries : List Entry) : Nat :=
  entries.countP fun e => e.granted && decide (first ≤ e.call.time ∧ e.call.time ≤ last)

/-- Requests granted later than a moment. -/
def grantsLaterThan (moment : Int) (entries : List Entry) : Nat :=
  entries.countP fun e => e.granted && decide (moment < e.call.time)

/-- The limit in force after a part of a log that began with this one. -/
def limitAfter (limit : Nat) (entries : List Entry) : Nat :=
  entries.foldl (fun limit e => match e.call.ask with | .setLimit new => new | _ => limit) limit

/-- The greatest limit in force during a part of a log that began with this one. -/
def greatestLimit (limit : Nat) (entries : List Entry) : Nat :=
  entries.foldl (fun most e => match e.call.ask with | .setLimit new => max most new | _ => most)
    limit

/-- A window, with the limit in force when it began. -/
structure Window where
  began : Int
  limit : Nat
  entries : List Entry := []

namespace Window

/-- The call begins another window: a reset does, and a request does that comes a second or more
after the window began. -/
def EndsAt (second : Int) (w : Window) (c : Call) : Prop :=
  c.ask = .reset ∨ c.ask = .request ∧ second ≤ c.time - w.began

instance (second : Int) (w : Window) (c : Call) : Decidable (w.EndsAt second c) :=
  inferInstanceAs (Decidable (_ ∨ _))

/-- The window that the next entry of the log falls in. -/
def next (second : Int) (w : Window) (e : Entry) : Window :=
  if w.EndsAt second e.call then ⟨e.call.time, limitAfter w.limit w.entries, [e]⟩
  else { w with entries := w.entries ++ [e] }

/-- The window that a log has come to when it goes on from `w`. -/
def current (second : Int) (w : Window) (log : List Entry) : Window := log.foldl (next second) w

/-- The windows of a log that goes on from `w`, in the order of time. -/
def split (second : Int) (w : Window) : List Entry → List Window
  | [] => [w]
  | e :: log =>
    if w.EndsAt second e.call then w :: split second (w.next second e) log
    else split second (w.next second e) log

/-- Every request of the window is granted just if fewer requests than the limit then in force have
been granted in the window before it, and nothing but a request is granted. -/
def Fair (w : Window) : Prop :=
  ∀ before e after, w.entries = before ++ e :: after →
    (e.granted = true ↔ e.call.ask = .request ∧ grants before < limitAfter w.limit before)

end Window

/-- The windows of a log that begins at `start` with a limit. -/
def windows (second start : Int) (limit : Nat) (log : List Entry) : List Window :=
  Window.split second ⟨start, limit, []⟩ log

/-- Greatest limit that a limiter can be given, and greatest number that it can count to. -/
def maxLimit : Nat := Nat.pow 2 32 - 1

/-- The limit that a call sets, if it sets one, can be given. -/
def Call.Fits (c : Call) : Prop := ∀ limit, c.ask = .setLimit limit → limit ≤ maxLimit

/-- The call leaves a limit in force as it is, and the window open. -/
def Call.Keeps (limit : Nat) (c : Call) : Prop := c.ask = .request ∨ c.ask = .setLimit limit

instance (limit : Nat) : DecidablePred (Call.Keeps limit) := fun c =>
  inferInstanceAs (Decidable (c.ask = .request ∨ c.ask = .setLimit limit))

end HostWatch.RateLimiter
