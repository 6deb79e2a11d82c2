import HostWatch.Json.Shape
import HostWatch.Rpc.Code

/-!
# Requests and responses

One JSON document each way. A request names a method, carries an object of parameters and may
carry an id; the response carries either a result or an error, the time it was made, and the id of
its request.
-/

namespace HostWatch.Rpc

/-- A request of a client. -/
structure Request where
  method : String
  /-- An object, if the request was read from a text. -/
  params : Json
  id : Option String
  deriving BEq

/-- A request without parameters and without id. -/
def Request.ofMethod (method : String) : Request := ⟨method, .obj [], none⟩

/-- The request with other parameters; `null` stands for none. -/
def Request.withParams (r : Request) (params : Json) : Request :=
  { r with params := if params.isNull then .obj [] else params }

/-- A parameter that is there and not `null`. -/
def Request.param? (r : Request) (name : String) : Option Json :=
  (r.params.get? name).filter fun j => !j.isNull

/-- The error of a failed response. -/
structure ErrorBody where
  message : String
  code : Int
  deriving Repr, DecidableEq, BEq

/-- What became of a request. -/
inductive Outcome where
  | result (value : Json)
  | error (body : ErrorBody)
  deriving BEq

/-- The answer to a request. -/
structure Response where
  outcome : Outcome
  /-- Seconds since the epoch when the answer was made. -/
  timestamp : Int
  id : Option String
  deriving BEq

/-- The answer of a request that succeeded. -/
def Response.ok (now : Int) (value : Json) : Response := ⟨.result value, now, none⟩

/-- The answer of a request that failed. -/
def Response.error (now : Int) (code : Code) (message : String) : Response :=
  ⟨.error ⟨message, code.number⟩, now, none⟩

/-- The answer with the id of its request. -/
def Response.withId (r : Response) (id : Option String) : Response := { r with id }

/-! ## What can be wrong with a message -/

/-- Why bytes are no message. -/
inductive Malformed where
  | json (failure : Json.Failure)
  | notAnObject
  | idKind
  | errorMissing

/-- The reason in words. -/
def Malformed.message : Malformed → String
  | .json f => f.message
  | .notAnObject => "request must be an object"
  | .idKind => "id must be a string or number"
  | .errorMissing => "failed response without error"

/-- Why bytes were not accepted as a message. -/
inductive DecodeError where
  /-- They may be the beginning of a message. -/
  | incomplete
  | malformed (reason : Malformed)
  | missingMethod
  | paramsKind

namespace DecodeError

/-- The error in words. -/
def message : DecodeError → String
  | incomplete => "incomplete request"
  | malformed r => "malformed request: " ++ r.message
  | missingMethod => "missing or empty method"
  | paramsKind => "params must be an object"

/-- The code reported for it. -/
def code : DecodeError → Code
  | paramsKind => .invalidRequest
  | _ => .parseError

/-- A JSON failure as a decoding error: a text that just ends is incomplete. -/
def ofFailure (f : Json.Failure) : DecodeError :=
  if f.fault.IsEnd then incomplete else malformed (.json f)

end DecodeError

/-! ## Requests on the wire -/

/-- The id of a request. -/
def requestId : Option Json → Except DecodeError (Option String)
  | none | some .null => .ok none
  | some (.str s) => .ok (some s)
  | some (.int n) => .ok (some (toString n))
  | some (.float x) => .ok (some (Json.floatText x))
  | some _ => .error (.malformed .idKind)

/-- The parameters of a request. -/
def requestParams : Option Json → Except DecodeError Json
  | none | some .null => .ok (.obj [])
  | some (.obj members) => .ok (.obj members)
  | some _ => .error .paramsKind

/-- The method of a request. -/
def requestMethod : Option Json → Except DecodeError String
  | some (.str s) => if s.isEmpty then .error .missingMethod else .ok s
  | _ => .error .missingMethod

/-- The request that a document stands for. -/
def Request.ofJson (document : Json) : Except DecodeError Request :=
  match document with
  | .obj members => do
    let method ← requestMethod (members.lookup "method")
    let params ← requestParams (members.lookup "params")
    let id ← requestId (members.lookup "id")
    return ⟨method, params, id⟩
  | _ => .error (.malformed .notAnObject)

/-- Reads a request. -/
def Request.decode (bytes : List UInt8) : Except DecodeError Request :=
  match Json.read bytes with
  | .error f => .error (.ofFailure f)
  | .ok document => Request.ofJson document

/-- The member of an id, if there is one. -/
def idMember : Option String → List Json.Member
  | none => []
  | some id => [("id", .str id)]

/-- The text of a request. -/
def Request.encode (r : Request) : String :=
  Json.render (.obj ([("method", .str r.method), ("params", r.params)] ++ idMember r.id))

/-! ## Responses on the wire -/

/-- The fields of a response as they are read. -/
structure Response.Draft where
  success : Option Bool := none
  result : Option (Option Json) := none
  error : Option (Option ErrorBody) := none
  timestamp : Option Int := none
  id : Option (Option Json) := none

/-- The fields of an error as they are read. -/
structure ErrorBody.Draft where
  message : Option String := none
  code : Option Int := none

/-- The record of an error. -/
def ErrorBody.record : Json.Record ErrorBody.Draft ErrorBody where
  name := "struct ErrorBody"
  fields :=
    [.of "message" false .string (·.message) fun v d => { d with message := some v },
      .of "code" false (.integer "i32" (-(Int.pow 2 31)) (Int.pow 2 31 - 1)) (·.code) fun v d =>
        { d with code := some v }]
  start := {}
  finish d := do
    let message ← Json.required "message" d.message
    let code ← Json.required "code" d.code
    return ⟨message, code⟩

/-- A whole number of 64 bits with sign. -/
def int64 : Json.Shape Int := .integer "i64" (-(Int.pow 2 63)) (Int.pow 2 63 - 1)

/-- A response as it stands on the wire. -/
structure Response.Wire where
  success : Bool
  result : Option Json
  error : Option ErrorBody
  timestamp : Int
  id : Option Json

/-- The record of a response. -/
def Response.record : Json.Record Response.Draft Response.Wire where
  name := "struct WireResponse"
  fields :=
    [.of "success" false .bool (·.success) fun v d => { d with success := some v },
      .of "result" true (.optional .json) (·.result) fun v d => { d with result := some v },
      .of "error" true (.optional ErrorBody.record.shape) (·.error) fun v d =>
        { d with error := some v },
      .of "timestamp" true int64 (·.timestamp) fun v d => { d with timestamp := some v },
      .of "id" true (.optional .json) (·.id) fun v d => { d with id := some v }]
  start := {}
  finish d := do
    let success ← Json.required "success" d.success
    return ⟨success, d.result.join, d.error.join, d.timestamp.getD 0, d.id.join⟩

/-- The id of a response; any value other than a string is kept as its text. -/
def responseId : Option Json → Option String
  | none => none
  | some (.str s) => some s
  | some j => some j.render

/-- Reads a response. -/
def Response.decode (bytes : List UInt8) : Except DecodeError Response :=
  match Response.record.shape.read bytes with
  | .error f => .error (.ofFailure f)
  | .ok wire =>
    match wire.success, wire.error with
    | true, _ => .ok ⟨.result (wire.result.getD .null), wire.timestamp, responseId wire.id⟩
    | false, some body => .ok ⟨.error body, wire.timestamp, responseId wire.id⟩
    | false, none => .error (.malformed .errorMissing)

/-- An error as JSON. -/
def ErrorBody.toJson (e : ErrorBody) : Json :=
  .obj [("message", .str e.message), ("code", .int e.code)]

/-- The text of a response: exactly one of result and error. -/
def Response.encode (r : Response) : String :=
  let outcome : List Json.Member :=
    match r.outcome with
    | .result value => [("success", .bool true), ("result", value)]
    | .error body => [("success", .bool false), ("error", body.toJson)]
  Json.render (.obj (outcome ++ [("timestamp", .int r.timestamp)] ++ idMember r.id))

end HostWatch.Rpc
