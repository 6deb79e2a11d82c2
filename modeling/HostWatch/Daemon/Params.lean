import HostWatch.Alert.Filter
import HostWatch.Rpc.Handler

/-!
# Parameters of the alert methods

Which alerts a request is about: a filter, or one alert or all of them. A parameter that is `null`
counts as absent.
-/

namespace HostWatch

/-- The alerts that a change is about. -/
inductive Target where
  | all
  | one (id : String)
  deriving Repr, DecidableEq

namespace Rpc.Request

/-- A parameter that has to be a text. -/
def text? (r : Request) (name : String) : Except Refusal (Option String) :=
  match r.param? name with
  | none => .ok none
  | some (.str s) => .ok (some s)
  | some _ => .error (.invalidParams ("'" ++ name ++ "' must be a string"))

/-- A parameter that has to name a value. -/
def named? (r : Request) (name : String) (parse : String → Except UnknownName α) :
    Except Refusal (Option α) :=
  match r.text? name with
  | .error e => .error e
  | .ok none => .ok none
  | .ok (some s) =>
    match parse s with
    | .ok a => .ok (some a)
    | .error e => .error (.invalidParams e.message)

/-- A parameter that has to be a boolean; false when it is absent. -/
def flag (r : Request) (name : String) : Except Refusal Bool :=
  match r.param? name with
  | none => .ok false
  | some (.bool b) => .ok b
  | some _ => .error (.invalidParams ("'" ++ name ++ "' must be a boolean"))

/-- A parameter that has to be a whole number that is not negative. -/
def natural? (r : Request) (name : String) : Except Refusal (Option Nat) :=
  match r.param? name with
  | none => .ok none
  | some j =>
    match j.nat? with
    | some n => .ok (some n)
    | none => .error (.invalidParams ("'" ++ name ++ "' must be a non-negative integer"))

/-- The filter that the parameters describe. -/
def filter (r : Request) : Except Refusal Filter := do
  let severity ← r.named? "severity" Severity.parse
  let category ← r.named? "category" Category.parse
  let status ← r.named? "status" Status.parse
  let source ← r.text? "source"
  let includeDismissed ← r.flag "include_dismissed"
  let limit ← r.natural? "limit"
  return { severity, category, status, source, includeDismissed, limit }

/-- The alerts that the parameters name. -/
def target (r : Request) : Except Refusal Target :=
  match r.flag "all" with
  | .error e => .error e
  | .ok true => .ok .all
  | .ok false =>
    match r.param? "id" with
    | none => .error (.invalidParams "Missing 'id' or 'all' parameter")
    | some (.str id) =>
      if id.isEmpty then .error (.invalidParams "'id' must be a non-empty string")
      else .ok (.one id)
    | some _ => .error (.invalidParams "'id' must be a non-empty string")

end Rpc.Request

end HostWatch
