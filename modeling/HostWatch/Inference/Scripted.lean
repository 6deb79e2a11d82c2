import HostWatch.Inference.Basic

/-!
# A scripted backend

A backend that gives prepared answers in order and repeats the last one, for rehearsals.
-/

namespace HostWatch

/-- Prepared answers, and what has been asked so far. -/
structure ScriptedBackend where
  answers : List Answer
  /-- How long every answer takes, in milliseconds. -/
  delay : Nat := 0
  calls : Nat := 0
  prompts : List String := []

namespace ScriptedBackend

/-- The kind it passes for. -/
def kind : Backend := .local

/-- Always the same text. -/
def alwaysOk (output : String) : ScriptedBackend := { answers := [.ok output] }

/-- Always the same error. -/
def alwaysFailing (error : String) : ScriptedBackend := { answers := [.failed error] }

/-- Asks for an answer. -/
def generate (b : ScriptedBackend) (prompt : String) : Answer × ScriptedBackend :=
  let b := { b with calls := b.calls + 1, prompts := b.prompts ++ [prompt] }
  match b.answers with
  | [] => (.failed InferenceError.empty.message, b)
  | [a] => (a, b)
  | a :: rest => (a, { b with answers := rest })

end ScriptedBackend

end HostWatch
