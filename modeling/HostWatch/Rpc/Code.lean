/-!
# Error codes

The codes a failed response can carry. The first five are those of JSON-RPC, the others belong to
this daemon.
-/

namespace HostWatch.Rpc

/-- What went wrong with a request. -/
inductive Code where
  | parseError
  | invalidRequest
  | methodNotFound
  | invalidParams
  | internalError
  | rateLimited
  | configError
  | resourceUnavailable
  deriving Repr, DecidableEq

namespace Code

/-- Every code. -/
def all : List Code :=
  [parseError, invalidRequest, methodNotFound, invalidParams, internalError, rateLimited,
    configError, resourceUnavailable]

/-- The number that stands for a code in a response. -/
def number : Code → Int
  | parseError => -32700
  | invalidRequest => -32600
  | methodNotFound => -32601
  | invalidParams => -32602
  | internalError => -32603
  | rateLimited => -32001
  | configError => -32002
  | resourceUnavailable => -32003

/-- The name of a code. -/
def name : Code → String
  | parseError => "PARSE_ERROR"
  | invalidRequest => "INVALID_REQUEST"
  | methodNotFound => "METHOD_NOT_FOUND"
  | invalidParams => "INVALID_PARAMS"
  | internalError => "INTERNAL_ERROR"
  | rateLimited => "RATE_LIMITED"
  | configError => "CONFIG_ERROR"
  | resourceUnavailable => "RESOURCE_UNAVAILABLE"

/-- The code of a number. -/
def ofNumber? (n : Int) : Option Code := all.find? (·.number = n)

theorem ofNumber?_number (c : Code) : ofNumber? c.number = some c := by cases c <;> rfl

/-- A code for people: its name and its number. -/
def describe (c : Code) : String := c.name ++ " (" ++ toString c.number ++ ")"

end Code

end HostWatch.Rpc
