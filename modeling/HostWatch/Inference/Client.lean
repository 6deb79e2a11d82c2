import HostWatch.Inference.Address
import HostWatch.Inference.Basic
import HostWatch.Inference.Echo
import HostWatch.Json.Reader
import HostWatch.Path

/-!
# Asking a backend

How a question becomes a request to a backend of each kind, and how the reply becomes an answer.
Whatever goes wrong on the way ends in an answer that failed.
-/

namespace HostWatch

/-- What is sent to a backend. -/
structure HttpRequest where
  address : Address
  headers : List (String × String)
  body : Json

/-- What comes back in the end. -/
inductive HttpReply where
  | broken (reason : String)
  | late
  /-- A response whose body breaks off. -/
  | cut (status : Nat) (reason : String)
  | response (status : Nat) (body : List UInt8)

/-- The access to a backend. -/
structure Client where
  kind : Backend
  endpoint : String
  model : String
  key : Option String
  /-- The environment variable that should hold the key. -/
  keyVariable : String
  timeoutSeconds : Nat

namespace Client

/-! ## Setting up -/

/-- The address of a local backend. -/
def localEndpoint : String := "http://127.0.0.1:8085"

/-- The address of a backend: the one in the settings, but those that everybody knows for remote
backends that the settings leave at the local one. -/
def resolveEndpoint (kind : Backend) (configured : String) : String :=
  let configured := String.ofList (Path.dropSlashes (Text.trimmed configured.toList))
  let isUsual := configured.isEmpty || configured = localEndpoint
  match kind with
  | .claude => if isUsual then "https://api.anthropic.com" else configured
  | .openai => if isUsual then "https://api.openai.com" else configured
  | .local => if configured.isEmpty then localEndpoint else configured
  | .none => configured

/-- The model to ask: the one in the settings, else the usual one. -/
def resolveModel (kind : Backend) (configured : String) : String :=
  if !configured.isEmpty then configured
  else
    match kind with
    | .claude => "claude-3-5-haiku-latest"
    | .openai => "gpt-4o-mini"
    | _ => ""

/-- The access that settings describe. The key comes from the environment `env`. -/
def new (env : String → Option String) (s : InferenceSettings) : Client where
  kind := s.backend
  endpoint := resolveEndpoint s.backend s.endpoint
  model := resolveModel s.backend s.model
  key :=
    if s.keyVariable.isEmpty then none
    else (env s.keyVariable).filter fun k => !Text.Str.isAllBlank k
  keyVariable := s.keyVariable
  timeoutSeconds := s.timeoutSeconds

/-- The access that settings ask for; none if they ask for no backend. -/
def build? (env : String → Option String) (s : InferenceSettings) : Option Client :=
  if s.backend = .none then none else some (new env s)

/-! ## Sending -/

/-- Text that may stand in a header. -/
def isHeaderText (s : String) : Bool :=
  s.toList.all fun c => c = '\t' || (0x20 ≤ c.toNat && c.toNat ≠ 0x7F)

/-- The key, which a remote backend needs. -/
def requireKey (c : Client) : Except InferenceError String :=
  match c.key with
  | some key => .ok key
  | none =>
    .error (.missingKey (if c.keyVariable.isEmpty then "llm.api_key_env" else c.keyVariable))

/-- What a local model is told about its part. -/
def systemPrompt : String :=
  "You are a helpful Linux system administrator AI. Give direct, actionable advice. "
    ++ "Do not ask questions or request clarification. Just provide the answer."

/-- The temperature of a question as JSON. -/
def temperature (q : Question) : Json := .float q.temperature.toFloat

/-- The body of a question for a local backend. -/
def completionBody (q : Question) : Json :=
  .object [("prompt", .str ("<s>[INST] <<SYS>>\n" ++ systemPrompt ++ "\n<</SYS>>\n\n" ++ q.prompt
      ++ " [/INST]")),
    ("n_predict", .int q.maxTokens), ("temperature", temperature q),
    ("stop", .arr [.str "</s>", .str "[INST]", .str "[/INST]"])]

/-- The body of a question for a remote backend. -/
def chatBody (c : Client) (q : Question) : Json :=
  .object [("model", .str c.model), ("max_tokens", .int q.maxTokens),
    ("temperature", temperature q),
    ("messages", .arr [.object [("role", .str "user"), ("content", .str q.prompt)]])]

/-- A request to a path below the endpoint. With no time to wait nothing is sent. -/
def post (c : Client) (path : String) (headers : List (String × String)) (body : Json) :
    Except InferenceError HttpRequest :=
  match Address.parse? (c.endpoint ++ path) with
  | none => .error (.http "request failed: builder error")
  | some address =>
    if !headers.all fun h => isHeaderText h.2 then .error (.http "request failed: builder error")
    else if c.timeoutSeconds = 0 then .error (.timeout 0)
    else .ok ⟨address, headers ++ [("content-type", "application/json")], body⟩

/-- The request for a question, or why nothing is sent. -/
def request (c : Client) (q : Question) : Except InferenceError HttpRequest :=
  match c.kind with
  | .none => .error .noBackend
  | .local => c.post "/completion" [] (completionBody q)
  | .claude => do
    let key ← c.requireKey
    c.post "/v1/messages" [("x-api-key", key), ("anthropic-version", "2023-06-01")] (c.chatBody q)
  | .openai => do
    let key ← c.requireKey
    c.post "/v1/chat/completions" [("authorization", "Bearer " ++ key)] (c.chatBody q)

/-! ## Receiving -/

/-- What a backend is called in messages. -/
def peerName : Backend → String
  | .local => "llama-server"
  | .claude => "Claude API"
  | .openai => "OpenAI API"
  | .none => ""

/-- What is made of the body of a response, if its status is one of success. -/
def ifSuccess (c : Client) (status : Nat) (made : Except InferenceError α) :
    Except InferenceError α :=
  if status < 200 ∨ 300 ≤ status then .error (.status status (peerName c.kind)) else made

/-- The JSON value of a reply that succeeded. -/
def payload (c : Client) : HttpReply → Except InferenceError Json
  | .broken reason => .error (.http ("request failed: " ++ reason))
  | .late => .error (.timeout c.timeoutSeconds)
  | .cut status reason =>
    c.ifSuccess status (.error (.invalidResponse ("failed to parse body: " ++ reason)))
  | .response status body =>
    c.ifSuccess status
      ((Json.read (if status = 204 then [] else body)).mapError fun f =>
        .invalidResponse ("failed to parse body: error decoding response body: " ++ f.message))

/-- The text at the place of a payload where a backend of that kind puts it. -/
def textOf : Backend → Json → Except InferenceError String
  | .local, j =>
    match j.get? "error", (j.get? "content").bind Json.str? with
    | some e, _ => .error (.invalidResponse e.render)
    | none, some text => .ok (Echo.clean text)
    | none, none => .error (.invalidResponse "missing content in llama-server response")
  | .claude, j =>
    match (((j.get? "content").bind (·.item? 0)).bind (·.get? "text")).bind Json.str? with
    | some text => .ok (Text.Str.trim text)
    | none => .error (.invalidResponse "missing content[0].text")
  | .openai, j =>
    match ((((j.get? "choices").bind (·.item? 0)).bind (·.get? "message")).bind
      (·.get? "content")).bind Json.str? with
    | some text => .ok (Text.Str.trim text)
    | none => .error (.invalidResponse "missing choices[0].message.content")
  | .none, _ => .error .noBackend

/-- The answer that a text or an error makes. -/
def conclude : Except InferenceError String → Answer
  | .error e => .failed e.message
  | .ok text => if text.isEmpty then .failed InferenceError.empty.message else .ok text

/-- Asks a question; `peer` says how the backend replies to a request. -/
def generate (c : Client) (peer : HttpRequest → HttpReply) (q : Question) : Answer :=
  conclude (do
    let request ← c.request q
    let j ← c.payload (peer request)
    textOf c.kind j)

end Client

end HostWatch
