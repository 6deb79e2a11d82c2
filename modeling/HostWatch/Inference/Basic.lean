import HostWatch.Settings.Basic
import HostWatch.Text.Blank

/-!
# Questions and answers

What an inference backend is asked, and what comes of it.
-/

namespace HostWatch

/-- A question for a backend. -/
structure Question where
  prompt : String
  maxTokens : Nat
  temperature : Float32

/-- A question with the bounds that the settings give. -/
def Question.new (s : InferenceSettings) (prompt : String) : Question :=
  ⟨prompt, s.maxTokens, s.temperature⟩

/-- What came of a question. -/
structure Answer where
  success : Bool
  output : String
  error : Option String
  deriving Repr, DecidableEq

namespace Answer

/-- An answer that succeeded. -/
def ok (output : String) : Answer := ⟨true, output, none⟩

/-- An answer that failed. -/
def failed (error : String) : Answer := ⟨false, "", some error⟩

/-- Either there is a text without blanks around it, or there is an error and no text. -/
def WellFormed (a : Answer) : Prop :=
  (a.success = true ∧ a.error = none ∧ a.output ≠ "" ∧ Text.Str.trim a.output = a.output)
    ∨ (a.success = false ∧ a.output = "" ∧ a.error.isSome)

instance : DecidablePred WellFormed := fun a => by unfold WellFormed; infer_instance

end Answer

/-- Why a backend gave no text. -/
inductive InferenceError where
  | noBackend
  | missingKey (name : String)
  | http (text : String)
  | timeout (seconds : Nat)
  | status (code : Nat) (peer : String)
  | invalidResponse (text : String)
  | empty
  deriving Repr, DecidableEq

/-- The error in words. -/
def InferenceError.message : InferenceError → String
  | .noBackend => "no inference backend configured"
  | .missingKey v => "API key not available (set " ++ v ++ ")"
  | .http text => "HTTP error: " ++ text
  | .timeout seconds => "request timeout after " ++ toString seconds ++ " seconds"
  | .status code peer => "HTTP " ++ toString code ++ " from " ++ peer
  | .invalidResponse text => "invalid response: " ++ text
  | .empty => "backend returned empty output"

end HostWatch
