import HostWatch.RateLimiter
import HostWatch.Rpc.Message

/-!
# Handlers

A handler answers the requests of one method. It works on a state of its own and on the limiter
that guards all handlers, may refuse a request for one of four reasons, and may crash; a crash is
answered like an internal error and leaves everything else as it is.
-/

namespace HostWatch.Rpc

/-- Why a handler refuses a request. -/
inductive Refusal where
  | invalidParams (message : String)
  | config (message : String)
  | unavailable (message : String)
  | internal (message : String)
  deriving Repr, DecidableEq

namespace Refusal

/-- The refusal in words. -/
def message : Refusal → String
  | invalidParams m | config m | unavailable m | internal m => m

/-- The code reported for it. -/
def code : Refusal → Code
  | invalidParams _ => .invalidParams
  | config _ => .configError
  | unavailable _ => .resourceUnavailable
  | internal _ => .internalError

end Refusal

/-- How a handler ended. -/
inductive Handled where
  | done (result : Json)
  | refused (why : Refusal)
  | crashed

namespace Handled

/-- A handler ended with a result or a refusal. -/
def ofExcept : Except Refusal Json → Handled
  | .ok result => done result
  | .error why => refused why

/-- The response to a request whose handler ended so. -/
def response (now : Int) : Handled → Response
  | done result => .ok now result
  | refused why => .error now why.code why.message
  | crashed => .error now .internalError "Internal error"

end Handled

/-- What handlers work on: a state of their own, and the limiter that guards them. -/
structure Desk (σ : Type) where
  limiter : RateLimiter
  state : σ

/-- Answers the requests of one method. -/
abbrev Handler (σ : Type) := Request → Desk σ → Handled × Desk σ

namespace Handler

/-- A handler that changes nothing. -/
def reading (f : Request → σ → Except Refusal Json) : Handler σ := fun r desk =>
  (.ofExcept (f r desk.state), desk)

/-- A handler that changes its state. -/
def changing (f : Request → σ → Except Refusal Json × σ) : Handler σ := fun r desk =>
  let (result, state) := f r desk.state
  (.ofExcept result, { desk with state })

end Handler

/-- Handlers by the method that they answer; of two for one method the later one counts. -/
abbrev HandlerTable (σ : Type) := NameMap (Handler σ)

namespace HandlerTable

/-- The methods that are answered, in order. -/
def methods (t : HandlerTable σ) : List String := t.entries.map (·.1)

/-- Answers a request by the handler of its method. The response carries the id of the request. -/
def answer (t : HandlerTable σ) (now : Int) (r : Request) (desk : Desk σ) : Response × Desk σ :=
  match t.get? r.method with
  | none =>
    ((Response.error now .methodNotFound ("Method not found: " ++ r.method)).withId r.id, desk)
  | some handler =>
    let (handled, desk) := handler r desk
    ((handled.response now).withId r.id, desk)

end HandlerTable

end HostWatch.Rpc
