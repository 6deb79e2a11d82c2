import HostWatch.Inference.Client
import HostWatch.Proofs.Json.Lexical
import HostWatch.Proofs.Text.Lines

/-!
# Answers of a backend

`generate_wellFormed`: whatever the settings, the environment and the backend are, a question ends
in a text without blanks around it or in an error, and it ends in a text just if a reply of success
carries one where a backend of that kind puts it.

1. A text that was trimmed has no blanks at either end (`WellFormed.not_isBlank_ends`).
2. A request is made only of a key that the environment holds, if one is needed (`key_of_request`),
   and the answer depends on what comes back for that request alone (`generate_congr`).
3. Each stage is passed in one way: the reply (`payload_eq_ok_iff`), the place in the payload
   (`textOf_eq_ok_iff`) and the text (`conclude_eq_ok_iff`).
-/

namespace HostWatch

/-! ## Places in JSON values -/

namespace Json

/-- A step into a value. -/
inductive Inward where
  | member (name : String)
  | item (index : Nat)

/-- The value one step further in. -/
def inward? (j : Json) : Inward → Option Json
  | .member name => j.get? name
  | .item index => j.item? index

/-- The text at a place. -/
def textAt? (j : Json) (path : List Inward) : Option String :=
  (path.foldlM inward? j).bind str?

end Json

namespace Answer

variable {a : Answer}

theorem WellFormed.success_iff (h : a.WellFormed) {text : String} :
    a.success = true ∧ a.output = text ↔ a = .ok text := by
  obtain ⟨success, output, error⟩ := a
  rcases h with ⟨rfl, rfl, -⟩ | ⟨rfl, -⟩ <;> simp [ok]

theorem WellFormed.not_isBlank_ends (h : a.WellFormed) {char : Char}
    (ends : a.output.toList.head? = some char ∨ a.output.toList.getLast? = some char) :
    Text.isBlank char = false := by
  have trimmed : Text.trimmed a.output.toList = a.output.toList := by
    rcases h with ⟨-, -, -, same⟩ | ⟨-, none, -⟩
    · exact (String.toList_ofList).symm.trans (congrArg String.toList same)
    · rw [none]
      rfl
  rw [← trimmed] at ends
  exact ends.elim Text.not_isBlank_head?_trimmed Text.not_isBlank_getLast?_trimmed

end Answer

namespace Client

open Json (bind_eq_ok_iff mapError_eq_ok_iff)

/-- Where a backend of that kind puts its text. -/
def textPath : Backend → List Json.Inward
  | .none => []
  | .local => [.member "content"]
  | .claude => [.member "content", .item 0, .member "text"]
  | .openai => [.member "choices", .item 0, .member "message", .member "content"]

/-- What is kept of a text from a backend of that kind. -/
def kept : Backend → String → String
  | .local => Echo.clean
  | _ => Text.Str.trim

variable {c : Client} {q : Question} {env : String → Option String} {s : InferenceSettings}

/-! ## Requests -/

/-- The key is what the environment holds under a name, and not blank. -/
theorem key_new {key : String} (h : (new env s).key = some key) :
    s.keyVariable ≠ "" ∧ env s.keyVariable = some key ∧ ¬ Text.AllBlank key.toList := by
  unfold new at h
  dsimp only at h
  split at h
  · cases h
  · next named =>
    obtain ⟨held, shown⟩ := Option.filter_eq_some_iff.1 h
    refine ⟨fun none => named (by rw [none]; rfl), held, fun blank => ?_⟩
    rw [Text.Str.isAllBlank, List.all_eq_true.2 blank] at shown
    cases shown

/-- A remote backend is asked with a key only. -/
theorem key_of_request {r : HttpRequest} (h : c.request q = .ok r) :
    c.kind ≠ .none ∧ (c.kind = .claude ∨ c.kind = .openai → ∃ key, c.key = some key) := by
  have required {make : String → Except InferenceError HttpRequest}
      (h : (c.requireKey >>= make) = .ok r) : ∃ key, c.key = some key := by
    obtain ⟨key, given, -⟩ := bind_eq_ok_iff.1 h
    unfold requireKey at given
    cases held : c.key with
    | none => rw [held] at given; cases given
    | some key => exact ⟨key, rfl⟩
  unfold request at h
  cases kind : c.kind with
  | none => rw [kind] at h; cases h
  | «local» => exact ⟨nofun, by simp⟩
  | claude | openai =>
    rw [kind] at h
    exact ⟨nofun, fun _ => required h⟩

/-- The answer depends on what comes back for the request alone. -/
theorem generate_congr {peer peer' : HttpRequest → HttpReply}
    (h : ∀ r, c.request q = .ok r → peer' r = peer r) : c.generate peer' q = c.generate peer q := by
  unfold generate
  cases request : c.request q with
  | error e => rfl
  | ok r => exact congrArg (fun reply => conclude (c.payload reply >>= textOf c.kind)) (h r request)

/-! ## Replies -/

theorem payload_eq_ok_iff {reply : HttpReply} {j : Json} :
    c.payload reply = .ok j ↔
      ∃ status body, reply = .response status body ∧ 200 ≤ status ∧ status < 300 ∧ status ≠ 204 ∧
        Json.read body = .ok j := by
  have success {status : Nat} {made : Except InferenceError Json} :
      c.ifSuccess status made = .ok j ↔ 200 ≤ status ∧ status < 300 ∧ made = .ok j := by
    unfold ifSuccess
    split
    · next other => exact ⟨nofun, fun h => absurd other (by omega)⟩
    · next other => exact ⟨fun h => ⟨by omega, by omega, h⟩, fun h => h.2.2⟩
  cases reply with
  | broken | late => exact ⟨nofun, nofun⟩
  | cut status reason =>
    rw [payload, success]
    exact ⟨nofun, nofun⟩
  | response status body =>
    have read : (∃ status' body', HttpReply.response status body = .response status' body' ∧
        200 ≤ status' ∧ status' < 300 ∧ status' ≠ 204 ∧ Json.read body' = .ok j) ↔
        200 ≤ status ∧ status < 300 ∧ status ≠ 204 ∧ Json.read body = .ok j :=
      ⟨fun ⟨_, _, same, h⟩ => by cases same; exact h, fun h => ⟨_, _, rfl, h⟩⟩
    rw [payload, success, read, mapError_eq_ok_iff]
    by_cases empty : status = 204
    · simp [empty, Json.read_nil]
    · simp [empty]

/-- The text is the one at the place of its kind, cleaned as its kind needs it. -/
theorem textOf_eq_ok_iff {kind : Backend} {j : Json} {text : String} :
    textOf kind j = .ok text ↔
      kind ≠ .none ∧ (kind = .local → j.get? "error" = none) ∧
        ∃ raw, j.textAt? (textPath kind) = some raw ∧ kept kind raw = text := by
  cases kind with
  | none => exact ⟨nofun, fun h => absurd rfl h.1⟩
  | «local» =>
    have place : (j.get? "content").bind Json.str? = j.textAt? (textPath .local) := by
      cases h : j.get? "content" <;> simp [Json.textAt?, textPath, Json.inward?, h]
    rw [textOf, place]
    cases j.get? "error" <;> cases j.textAt? (textPath .local) <;> simp [kept]
  | claude =>
    have place : (((j.get? "content").bind (·.item? 0)).bind (·.get? "text")).bind Json.str? =
        j.textAt? (textPath .claude) := by
      simp [Json.textAt?, textPath, Json.inward?, Option.bind_assoc]
    rw [textOf, place]
    cases j.textAt? (textPath .claude) <;> simp [kept]
  | openai =>
    have place : ((((j.get? "choices").bind (·.item? 0)).bind (·.get? "message")).bind
        (·.get? "content")).bind Json.str? = j.textAt? (textPath .openai) := by
      simp [Json.textAt?, textPath, Json.inward?, Option.bind_assoc]
    rw [textOf, place]
    cases j.textAt? (textPath .openai) <;> simp [kept]

/-! ## Answers -/

/-- Only a text that is not empty is a success. -/
theorem conclude_cases (made : Except InferenceError String) :
    (∃ e, conclude made = .failed e ∧ ∀ text, made = .ok text → text = "") ∨
      ∃ text, conclude made = .ok text ∧ made = .ok text ∧ text ≠ "" := by
  cases made with
  | error e => exact .inl ⟨_, rfl, nofun⟩
  | ok text =>
    by_cases empty : text = ""
    · exact .inl ⟨_, by rw [empty]; rfl, fun _ same => Except.ok.inj same ▸ empty⟩
    · refine .inr ⟨text, ?_, rfl, empty⟩
      rw [conclude, if_neg fun h => empty (String.isEmpty_iff.1 h)]

theorem conclude_eq_ok_iff {made : Except InferenceError String} {text : String} :
    conclude made = .ok text ↔ text ≠ "" ∧ made = .ok text := by
  rcases conclude_cases made with ⟨e, failed, empty⟩ | ⟨text', ok, rfl, nonempty⟩
  · rw [failed]
    exact ⟨nofun, fun h => absurd (empty _ h.2) h.1⟩
  · rw [ok]
    exact ⟨fun h => by cases h; exact ⟨nonempty, rfl⟩, fun h => by cases h.2; rfl⟩

theorem trim_kept (kind : Backend) (raw : String) :
    Text.Str.trim (kept kind raw) = kept kind raw := by
  have again (cs : List Char) :
      Text.Str.trim (.ofList (Text.trimmed cs)) = .ofList (Text.trimmed cs) := by
    rw [Text.Str.trim, String.toList_ofList, Text.trimmed_trimmed]
  cases kind with
  | «local» => exact again _
  | none | claude | openai => exact again _

theorem generate_eq_ok_iff {peer : HttpRequest → HttpReply} {text : String} :
    c.generate peer q = .ok text ↔ text ≠ "" ∧ ∃ r status body j raw,
      c.request q = .ok r ∧ peer r = .response status body ∧
      200 ≤ status ∧ status < 300 ∧ status ≠ 204 ∧ Json.read body = .ok j ∧
      (c.kind = .local → j.get? "error" = none) ∧ j.textAt? (textPath c.kind) = some raw ∧
      kept c.kind raw = text := by
  rw [generate, conclude_eq_ok_iff]
  simp only [bind_eq_ok_iff, payload_eq_ok_iff, textOf_eq_ok_iff]
  constructor
  · rintro ⟨nonempty, r, asked, j, ⟨status, body, reply, least, most, full, read⟩, -, fine, raw,
      place, made⟩
    exact ⟨nonempty, r, status, body, j, raw, asked, reply, least, most, full, read, fine, place,
      made⟩
  · rintro ⟨nonempty, r, status, body, j, raw, asked, reply, least, most, full, read, fine, place,
      made⟩
    exact ⟨nonempty, r, asked, j, ⟨status, body, reply, least, most, full, read⟩,
      (key_of_request asked).1, fine, raw, place, made⟩

theorem wellFormed_generate (c : Client) (peer : HttpRequest → HttpReply) (q : Question) :
    (c.generate peer q).WellFormed := by
  rcases conclude_cases (c.request q >>= fun r => c.payload (peer r) >>= textOf c.kind) with
    ⟨e, failed, -⟩ | ⟨text, made, -, nonempty⟩
  · rw [generate, failed]
    exact .inr ⟨rfl, rfl, rfl⟩
  · obtain ⟨-, _, _, _, _, raw, -, -, -, -, -, -, -, -, rfl⟩ := generate_eq_ok_iff.1 made
    rw [generate, made]
    exact .inl ⟨rfl, rfl, nonempty, trim_kept c.kind raw⟩

end Client

end HostWatch
