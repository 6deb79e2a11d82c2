import HostWatch.Proofs.Json.Balance
import HostWatch.Rpc.Message

/-!
# Responses are read back from their text

`Response.encode_faithful`: the text of a response names a result or an error and never both, it is
read back as the response, and no part of it from its front is read as any response.

1. The members that are written fill the record of a response one after another
   (`fills_closing`), an error with the record of its own inside.
2. A result `null` looks like a result that is missing, and both are read as `null`
   (`takes_optionalValue`). So a response is read whatever its result is
   (`Response.decode_encode_reread`).
3. A record is only read from a text that closes what it opens, and a cut text does not
   (`Json.Record.read_cut`).
-/

namespace HostWatch.Rpc

open Json (Takes Fills render reread)

/-! ## Members of a response -/

/-- The members that tell what became of a request. -/
def Outcome.members : Outcome → List Json.Member
  | .result value => [("success", .bool true), ("result", value)]
  | .error body => [("success", .bool false), ("error", body.toJson)]

/-- The members of a response on the wire. -/
def Response.members (r : Response) : List Json.Member :=
  r.outcome.members ++ [("timestamp", .int r.timestamp)] ++ idMember r.id

theorem Response.encode_eq (r : Response) : r.encode = render (.obj r.members) := by
  obtain ⟨outcome, timestamp, id⟩ := r
  cases outcome <;> rfl

/-- The code of an error is a number of 32 bits. -/
def ErrorBody.InBounds (b : ErrorBody) : Prop := -(Int.pow 2 31) ≤ b.code ∧ b.code ≤ Int.pow 2 31 - 1

/-- What an outcome holds can stand in a response. -/
def Outcome.InBounds : Outcome → Prop
  | .result value => Json.InRange value
  | .error body => body.InBounds

/-- Every number of the response can stand in its field. -/
structure Response.InBounds (r : Response) : Prop where
  outcome : r.outcome.InBounds
  timestamp : -(Int.pow 2 63) ≤ r.timestamp ∧ r.timestamp ≤ Int.pow 2 63 - 1

/-- How deep the result is nested; an error has no result. -/
def Outcome.depth : Outcome → Nat
  | .result value => Json.depth value
  | .error _ => 0

/-- The value can be the result of a response. -/
structure Response.CanCarry (value : Json) : Prop where
  inRange : Json.InRange value
  nested : Json.depth value ≤ 126

/-- What is read of an outcome. -/
def Outcome.reread : Outcome → Outcome
  | .result value => .result (Json.reread value)
  | .error body => .error body

/-! ## Fields -/

/-- A value that may be missing: `null` is read as none. -/
theorem takes_optionalValue {j : Json} {room : Nat} (h : Json.InRange j) (hd : Json.depth j ≤ room) :
    ∃ o : Option Json, o.getD .null = reread j ∧
      Takes ((Json.Shape.optional .json).ofText room) (Text.utf8 (render j)) o := by
  have takes := Json.takes_render h hd
  obtain ⟨b, tail, begins, gap, -, letter⟩ := Json.begins_render j
  by_cases null : b = 0x6E
  · obtain ⟨bytes, value⟩ := letter null
    exact ⟨none, value.symm, bytes ▸ Json.takes_optional_null _ room⟩
  · rw [begins] at takes ⊢
    exact ⟨some (reread j), rfl, Json.takes_optional gap null takes⟩

/-- An id is read as a string. -/
theorem takes_id (id : String) (room : Nat) :
    Takes ((Json.Shape.optional .json).ofText room) (Text.utf8 (render (.str id))) (some (.str id)) := by
  rw [render, Json.utf8_quote]
  exact Json.takes_optional (by decide) (by decide) (Json.takes_str room id)

theorem takes_errorBody {b : ErrorBody} (h : b.InBounds) (room : Nat) :
    Takes ((Json.Shape.optional ErrorBody.record.shape).ofText (room + 1))
      (Text.utf8 (render b.toJson)) (some b) := by
  have range : Json.minInt ≤ b.code ∧ b.code ≤ Json.maxInt := by
    have : Json.minInt ≤ -(Int.pow 2 31) ∧ Int.pow 2 31 - 1 ≤ Json.maxInt := by decide
    unfold ErrorBody.InBounds at h
    omega
  have fills : Fills ErrorBody.record room {} [("message", .str b.message), ("code", .int b.code)]
      ⟨some b.message, some b.code⟩ :=
    .field rfl rfl (Json.takes_field (Json.takes_text room b.message))
      (.field rfl rfl (Json.takes_field (Json.takes_integer range h "i32" room)) (.done _))
  have takes := Json.takes_record fills rfl
  rw [Json.utf8_render_obj] at takes
  rw [ErrorBody.toJson, Json.utf8_render_obj]
  exact Json.takes_optional (by decide) (by decide) takes

/-! ## Whole responses -/

/-- The time and the id come last. -/
theorem fills_closing {timestamp : Int}
    (h : -(Int.pow 2 63) ≤ timestamp ∧ timestamp ≤ Int.pow 2 63 - 1) (id : Option String)
    (success : Option Bool) (result : Option (Option Json)) (error : Option (Option ErrorBody))
    (room : Nat) :
    Fills Response.record room ⟨success, result, error, none, none⟩
      ([("timestamp", .int timestamp)] ++ idMember id)
      ⟨success, result, error, some timestamp, id.map fun s => some (.str s)⟩ := by
  have range : Json.minInt ≤ timestamp ∧ timestamp ≤ Json.maxInt := by
    have : Json.minInt ≤ -(Int.pow 2 63) ∧ Int.pow 2 63 - 1 ≤ Json.maxInt := by decide
    omega
  have time := Json.takes_integer range h "i64" room
  cases id with
  | none => exact .field rfl rfl (Json.takes_field time) (.done _)
  | some id =>
    exact .field rfl rfl (Json.takes_field time)
      (.field rfl rfl (Json.takes_field (takes_id id room)) (.done _))

/-- A response is read from its text as it was, but for what is read of its result. -/
theorem Response.decode_encode_reread {r : Response} (h : r.InBounds) (nested : r.outcome.depth ≤ 126) :
    Response.decode (Text.utf8 r.encode) = .ok { r with outcome := r.outcome.reread } := by
  obtain ⟨outcome, timestamp, id⟩ := r
  obtain ⟨inside, time⟩ := h
  have ids : responseId (id.map fun s => some (Json.str s)).join = id := by
    cases id <;> rfl
  rw [Response.encode_eq, Response.decode]
  cases outcome with
  | result value =>
    obtain ⟨o, read, takes⟩ := takes_optionalValue inside nested
    have fills : Fills Response.record 126 {} (Response.members ⟨.result value, timestamp, id⟩)
        ⟨some true, some o, none, some timestamp, id.map fun s => some (.str s)⟩ :=
      .field rfl rfl (Json.takes_field (Json.takes_boolShape 126 true))
        (.field rfl rfl (Json.takes_field takes) (fills_closing time id _ _ _ 126))
    rw [Json.read_record fills rfl]
    show Except.ok (Response.mk (.result (o.getD .null)) timestamp (responseId _)) = _
    rw [read, ids]
    rfl
  | error body =>
    have fills : Fills Response.record 126 {} (Response.members ⟨.error body, timestamp, id⟩)
        ⟨some false, none, some (some body), some timestamp, id.map fun s => some (.str s)⟩ :=
      .field rfl rfl (Json.takes_field (Json.takes_boolShape 126 false))
        (.field rfl rfl (Json.takes_field (takes_errorBody inside 125))
          (fills_closing time id _ _ _ 126))
    rw [Json.read_record fills rfl]
    show Except.ok (Response.mk (.error body) timestamp (responseId _)) = _
    rw [ids]
    rfl

/-! ## What is written -/

theorem Response.inRange {r : Response} (h : r.InBounds) : Json.InRange (.obj r.members) := by
  have limits : Json.minInt = -9223372036854775808 ∧ Json.maxInt = 18446744073709551615 := ⟨rfl, rfl⟩
  have powers : Int.pow 2 31 = 2147483648 ∧ Int.pow 2 63 = 9223372036854775808 := ⟨rfl, rfl⟩
  obtain ⟨outcome, timestamp, id⟩ := r
  obtain ⟨inside, low, high⟩ := h
  dsimp only at inside low high
  have closing : Json.InRangeMembers ([("timestamp", .int timestamp)] ++ idMember id) := by
    have range : Json.minInt ≤ timestamp ∧ timestamp ≤ Json.maxInt := by omega
    cases id with
    | none => exact ⟨range, trivial⟩
    | some id => exact ⟨range, trivial, trivial⟩
  cases outcome with
  | result value => exact ⟨trivial, inside, closing⟩
  | error body =>
    unfold Outcome.InBounds ErrorBody.InBounds at inside
    have range : Json.minInt ≤ body.code ∧ body.code ≤ Json.maxInt := by omega
    exact ⟨trivial, ⟨trivial, range, trivial⟩, closing⟩

theorem Response.depth_members {r : Response} (nested : r.outcome.depth ≤ 126) :
    Json.depth (.obj r.members) ≤ Json.maxDepth := by
  have room : Json.maxDepth = 127 := rfl
  obtain ⟨outcome, timestamp, id⟩ := r
  cases outcome <;> cases id <;>
    simp [Response.members, Outcome.members, Outcome.depth, ErrorBody.toJson, idMember, Json.depth,
      Json.depthMembers, room] at nested ⊢ <;> omega

/-- Exactly one of result and error is named. -/
def OneOutcome (members : List Json.Member) : Prop :=
  (members.lookup "result").isSome = !(members.lookup "error").isSome

theorem Response.oneOutcome_members (r : Response) :
    (r.members.map (·.1)).Nodup ∧ OneOutcome r.members := by
  obtain ⟨outcome, timestamp, id⟩ := r
  cases outcome <;> cases id <;> refine ⟨?_, rfl⟩ <;>
    simp [Response.members, Outcome.members, idMember]

theorem Response.oneOutcome_reread (r : Response) :
    OneOutcome (putEntries (Json.rereadMembers r.members)) := by
  unfold OneOutcome
  rw [lookup_putEntries, lookup_putEntries]
  obtain ⟨outcome, timestamp, id⟩ := r
  cases outcome <;> cases id <;> rfl

/-! ## Cut responses -/

theorem even_errorBody (room : Nat) : Json.Even (ErrorBody.record.shape.ofText room) := by
  refine Json.even_record (fun room field h d => ?_) room
  simp only [ErrorBody.record, List.mem_cons, List.not_mem_nil, or_false] at h
  rcases h with rfl | rfl
  · exact Json.even_field (Json.even_string room) d
  · exact Json.even_field (Json.even_number _ _ room) d

theorem even_response (room : Nat) : Json.Even (Response.record.shape.ofText room) := by
  refine Json.even_record (fun room field h d => ?_) room
  have value : Json.Even (Json.Shape.json.ofText room) := Json.even_readValue room
  simp only [Response.record, List.mem_cons, List.not_mem_nil, or_false] at h
  rcases h with rfl | rfl | rfl | rfl | rfl
  · exact Json.even_field (Json.even_bool room) d
  · exact Json.even_field (Json.even_optional value) d
  · exact Json.even_field (Json.even_optional (even_errorBody room)) d
  · exact Json.even_field (Json.even_number _ _ room) d
  · exact Json.even_field (Json.even_optional value) d

/-- A response that was cut off is not taken for one. -/
theorem Response.decode_cut {r : Response} {cut : List UInt8} (part : cut <+: Text.utf8 r.encode)
    (proper : cut ≠ Text.utf8 r.encode) : ∃ e, Response.decode cut = .error e := by
  rw [Response.encode_eq] at part proper
  obtain ⟨e, he⟩ := Json.Record.read_cut (even_response _) part proper
  exact ⟨.ofFailure e, by rw [Response.decode, he]⟩

/-- A plain result is read as itself, and so is an error. -/
theorem Outcome.reread_of_plain {o : Outcome}
    (plain : ∀ value, o = .result value → Json.Plain value) : o.reread = o := by
  cases o with
  | result value => rw [Outcome.reread, Json.reread_of_plain (plain value rfl)]
  | error body => rfl

/-- **Responses.** The text of a response is that of an object that names a result or an error and
never both, as a reader of the object finds it too. A response whose result is plain and leaves room
for the object around it is read back from its text; a text that was cut off is not read at all. -/
theorem Response.encode_faithful (r : Response) :
    (∃ members, r.encode = render (.obj members) ∧ (members.map (·.1)).Nodup ∧
      OneOutcome members) ∧
    (r.InBounds → r.outcome.depth ≤ 126 →
      ∃ members, Json.read (Text.utf8 r.encode) = .ok (.obj members) ∧ OneOutcome members) ∧
    (r.InBounds → r.outcome.depth ≤ 126 → (∀ value, r.outcome = .result value → Json.Plain value) →
      Response.decode (Text.utf8 r.encode) = .ok r) ∧
    (∀ cut, cut <+: Text.utf8 r.encode → cut ≠ Text.utf8 r.encode →
      ∃ e, Response.decode cut = .error e) := by
  refine ⟨⟨r.members, r.encode_eq, r.oneOutcome_members⟩, fun h nested => ?_,
    fun h nested plain => ?_, fun _ => Response.decode_cut⟩
  · refine ⟨_, ?_, r.oneOutcome_reread⟩
    rw [r.encode_eq, Json.read_render (Response.inRange h) (Response.depth_members nested)]
    rfl
  · rw [Response.decode_encode_reread h nested, Outcome.reread_of_plain plain]

/-- An answer `null` at the earliest moment, without id, and cut off in the middle. -/
theorem Response.encode_faithful_null :
    let r : Response := ⟨.result .null, -9223372036854775808, none⟩
    Response.decode (Text.utf8 r.encode) = .ok r ∧
      ∃ e, Response.decode ((Text.utf8 r.encode).take 20) = .error e :=
  have faithful := Response.encode_faithful ⟨.result .null, -9223372036854775808, none⟩
  ⟨faithful.2.2.1 ⟨trivial, by decide⟩ (by decide) (by rintro _ ⟨⟩; trivial),
    faithful.2.2.2 _ (List.take_prefix _ _) (by decide +kernel)⟩

end HostWatch.Rpc
