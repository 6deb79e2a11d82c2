import HostWatch.Console.Call
import HostWatch.Proofs.Json.PlainTexts
import HostWatch.Proofs.Rpc.Serving

/-!
# Calls and their replies

What reaches the other side of a call: a request whatever portions it arrives in, if it is short
enough (`Incoming.ofArrivals_encode`), and a response to its last byte, if the console reads so many
(`Console.send_reply`). A part of a request is never taken for a request
(`Incoming.ofArrivals_part`), and a part of a response never for a response
(`Console.eq_of_send_part`).
-/

namespace HostWatch

namespace Rpc

/-! ## Requests in portions -/

namespace Incoming

/-- Reads of one size, one after another. -/
theorem flatten_reads_of (bytes : List UInt8) (size n : Nat) :
    ((List.range n).map fun i => (bytes.drop (i * size)).take size).flatten =
      bytes.take (n * size) := by
  induction n with
  | zero => rw [Nat.zero_mul]; rfl
  | succ n ih =>
    rw [List.range_succ, List.map_append, List.flatten_append, ih, Nat.succ_mul, List.take_add]
    simp

/-- What arrives together is read to its end. -/
theorem flatten_reads (bytes : List UInt8) : (reads bytes).flatten = bytes := by
  rw [reads, flatten_reads_of]
  refine List.take_of_length_le ?_
  unfold readSize
  omega

theorem flatten_arrivals (portions : List (List UInt8)) :
    (portions.flatMap reads).flatten = portions.flatten := by
  induction portions with
  | nil => rfl
  | cons portion rest ih =>
    rw [List.flatMap_cons, List.flatten_append, ih, flatten_reads, List.flatten_cons]

theorem length_le_of_mem_reads {bytes piece : List UInt8} (h : piece ∈ reads bytes) :
    piece.length ≤ readSize := by
  obtain ⟨i, -, rfl⟩ := List.mem_map.1 h
  exact List.length_take_le _ _

/-- Of more than one read beyond what a request may have, something is never read. -/
theorem unread_of_long {portions : List (List UInt8)}
    (long : maxRequest + readSize < portions.flatten.length) : unread portions ≠ [] := by
  have narrow : ∀ piece ∈ portions.flatMap reads, piece.length ≤ readSize := fun piece h => by
    obtain ⟨portion, -, read⟩ := List.mem_flatMap.1 h
    exact length_le_of_mem_reads read
  have nothingYet : ([] : List UInt8).length ≤ maxRequest := Nat.zero_le _
  have bound := length_le_unreadOn nothingYet narrow
  rw [List.nil_append, flatten_arrivals] at bound
  intro nothing
  rw [unread] at nothing
  rw [nothing] at bound
  exact Nat.not_le_of_lt long bound

end Incoming

variable {r : Request}

/-- The text of a request ends with its only brace that closes it. -/
theorem Request.utf8_encode (r : Request) :
    ∃ body, Text.utf8 r.encode = body ++ [0x7D] :=
  ⟨0x7B :: Json.membersBytes (fun j => Text.utf8 (Json.render j)) r.members,
    Json.utf8_render_obj r.members⟩

theorem Request.exponentFree_encode (plain : Json.Plain r.params) :
    Json.ExponentFree (Text.utf8 r.encode) := by
  obtain ⟨method, params, id⟩ := r
  have members : ∀ m ∈ Request.members ⟨method, params, id⟩,
      Json.Smooth (Text.utf8 (Json.render m.2)) := by
    intro m hm
    rcases List.mem_append.1 hm with hm | hm
    · rcases List.mem_cons.1 hm with rfl | hm
      · exact Json.smooth_str method
      · obtain rfl := List.mem_singleton.1 hm
        exact Json.smooth_render params plain
    · cases id with
      | none => cases hm
      | some id =>
        obtain rfl := List.mem_singleton.1 hm
        exact Json.smooth_str id
  exact (Json.smooth_obj members).free

/-- **Requests.** In whatever portions it arrives, a request with plain parameters is complete if it
is short enough, and too large if it is not. -/
theorem Incoming.ofArrivals_encode (plain : Json.Plain r.params)
    (decoded : Request.decode (Text.utf8 r.encode) = .ok r) {portions : List (List UInt8)}
    (whole : portions.flatten = Text.utf8 r.encode) :
    ofArrivals portions =
      if maxRequest < (Text.utf8 r.encode).length then .tooLarge else .complete (.ok r) := by
  have free := Request.exponentFree_encode plain
  have pieces : [] ++ (portions.flatMap reads).flatten = Text.utf8 r.encode :=
    (flatten_arrivals portions).trans whole
  rw [← pieces] at free decoded ⊢
  split
  · next long =>
    obtain ⟨body, split⟩ := Request.utf8_encode r
    have late : maxRequest ≤ body.length := by
      rw [pieces, split, List.length_append, List.length_singleton] at long
      exact Nat.le_of_lt_succ long
    exact readOn_tooLarge (Nat.zero_le _) free decoded (pieces.trans split) late
  · next short =>
    exact readOn_complete Request.decode_nil free decoded (Nat.le_of_not_lt short)

/-- **Parts of requests.** If only a part of a request arrives, it is never complete. -/
theorem Incoming.ofArrivals_part (plain : Json.Plain r.params)
    (decoded : Request.decode (Text.utf8 r.encode) = .ok r) {portions : List (List UInt8)}
    (arrived : portions.flatten <+: Text.utf8 r.encode)
    (proper : portions.flatten ≠ Text.utf8 r.encode) (result : Except DecodeError Request) :
    ofArrivals portions ≠ .complete result := by
  obtain ⟨missing, split⟩ := arrived
  obtain ⟨body, closed⟩ := Request.utf8_encode r
  have brace : 0x7D ∈ missing := last_mem_right (split.trans closed) fun nothing =>
    proper (by rw [← split, nothing, List.append_nil])
  have free := Request.exponentFree_encode plain
  have pieces : [] ++ (portions.flatMap reads).flatten ++ missing = Text.utf8 r.encode := by
    rw [List.nil_append, flatten_arrivals, split]
  rw [← pieces] at free decoded
  exact readOn_part free decoded brace (by decide) result

/-- A request that is short enough is read to its end. -/
theorem Incoming.unread_encode (plain : Json.Plain r.params)
    (decoded : Request.decode (Text.utf8 r.encode) = .ok r) {portions : List (List UInt8)}
    (whole : portions.flatten = Text.utf8 r.encode)
    (short : (Text.utf8 r.encode).length ≤ maxRequest) : unread portions = [] := by
  obtain ⟨body, closed⟩ := Request.utf8_encode r
  have free := Request.exponentFree_encode plain
  have pieces : [] ++ (portions.flatMap reads).flatten = Text.utf8 r.encode :=
    (flatten_arrivals portions).trans whole
  rw [← pieces] at free decoded closed short
  exact unreadOn_request free decoded closed short

/-! ## Responses -/

/-- The response is read back as it is. -/
structure Response.IsPlain (r : Response) : Prop where
  bounds : r.InBounds
  nested : r.outcome.depth ≤ 126
  plain : ∀ value, r.outcome = .result value → Json.Plain value

theorem Response.isPlain_error {now : Int}
    (time : -(Int.pow 2 63) ≤ now ∧ now ≤ Int.pow 2 63 - 1) (code : Code) (message : String) :
    (Response.error now code message).IsPlain where
  bounds := ⟨Code.inBounds code message, time⟩
  nested := Nat.zero_le _
  plain := nofun

theorem Response.IsPlain.decode_eq {r : Response} (h : r.IsPlain) :
    Response.decode (Text.utf8 r.encode) = .ok r := by
  rw [decode_encode_reread h.bounds h.nested, Outcome.reread_of_plain h.plain]

/-- An error takes little more than its message. -/
theorem Response.length_error_le {now : Int}
    (time : -(Int.pow 2 63) ≤ now ∧ now ≤ Int.pow 2 63 - 1) (code : Code) (message : String) :
    (Text.utf8 (Response.error now code message).encode).length ≤
      (Text.utf8 (Json.render (.str message))).length + 150 := by
  have ints {n : Int} (h : -(Int.pow 2 63) ≤ n ∧ n ≤ Int.pow 2 63 - 1) :
      (Text.utf8 (Json.render (.int n))).length ≤ 21 := by
    have limits : Json.minInt ≤ -(Int.pow 2 63) ∧ Int.pow 2 63 - 1 ≤ Json.maxInt := by decide
    exact Json.length_int_le ⟨limits.1.trans h.1, h.2.trans limits.2⟩
  have timestamp := ints time
  have number : (Text.utf8 (Json.render (.int code.number))).length ≤ 21 :=
    ints (by cases code <;> decide)
  have word : (Text.utf8 (Json.render (.bool false))).length = 5 := by decide
  have names : (Json.quotedTail "success").length = 8 ∧ (Json.quotedTail "error").length = 6 ∧
      (Json.quotedTail "timestamp").length = 10 ∧ (Json.quotedTail "message").length = 8 ∧
      (Json.quotedTail "code").length = 5 := by decide
  have members : (Response.error now code message).members =
      [("success", .bool false),
        ("error", .obj [("message", .str message), ("code", .int code.number)]),
        ("timestamp", .int now)] := rfl
  rw [Response.encode_eq, members, Json.utf8_render_obj]
  simp only [Json.membersBytes, Json.furtherBytes, Json.memberBytes, List.flatMap_cons,
    List.flatMap_nil, List.length_cons, List.length_append, List.length_nil, Json.utf8_render_obj,
    names, word]
  omega

end Rpc

namespace Console

open Rpc (Code Request Response)

/-! ## Calls -/

variable {path : String} {user : Option String} {exchange : String → Exchange} {r : Request}
  {response : Response}

theorem send_of_answered (address : addressFault? path = none) {bytes : List UInt8}
    (answered : exchange r.encode = .answered bytes) :
    send path user exchange r = (Response.decode (bytes.take maxReply)).mapError .response := by
  unfold send
  rw [address]
  dsimp only
  rw [answered]

theorem send_of_broken (address : addressFault? path = none) {cause : OsError}
    (broken : exchange r.encode = .broken cause) :
    send path user exchange r = .error (.transfer cause) := by
  unfold send
  rw [address]
  dsimp only
  rw [broken]

/-- What is sent is read from the bytes that came back. -/
theorem answered_of_send {bytes : List UInt8} (answered : exchange r.encode = .answered bytes)
    {found : Response} (h : send path user exchange r = .ok found) :
    Response.decode (bytes.take maxReply) = .ok found := by
  cases address : addressFault? path with
  | some fault =>
    unfold send at h
    rw [address] at h
    cases h
  | none =>
    rw [send_of_answered address answered] at h
    cases decoded : Response.decode (bytes.take maxReply) with
    | error e =>
      rw [decoded] at h
      cases h
    | ok read =>
      rw [decoded] at h
      exact congrArg Except.ok (Except.ok.inj h)

/-- A response that is short enough is read to its end. -/
theorem send_reread (address : addressFault? path = none)
    (answered : exchange r.encode = .answered (Text.utf8 response.encode))
    (bounds : response.InBounds) (nested : response.outcome.depth ≤ 126)
    (short : (Text.utf8 response.encode).length ≤ maxReply) :
    send path user exchange r = .ok { response with outcome := response.outcome.reread } := by
  rw [send_of_answered address answered, List.take_of_length_le short,
    Response.decode_encode_reread bounds nested]
  rfl

theorem send_reply (address : addressFault? path = none)
    (answered : exchange r.encode = .answered (Text.utf8 response.encode))
    (plain : response.IsPlain)
    (short : (Text.utf8 response.encode).length ≤ maxReply) :
    send path user exchange r = .ok response := by
  rw [send_reread address answered plain.bounds plain.nested short,
    Rpc.Outcome.reread_of_plain plain.plain]

/-- A result is what is read of its text. -/
theorem result_reread (address : addressFault? path = none) {now : Int} {value : Json}
    (answered : exchange r.encode = .answered (Text.utf8 (Response.ok now value).encode))
    (carried : Response.CanCarry value) (time : -(Int.pow 2 63) ≤ now ∧ now ≤ Int.pow 2 63 - 1)
    (short : (Text.utf8 (Response.ok now value).encode).length ≤ maxReply) :
    (send path user exchange r).bind resultOf = .ok (Json.reread value) := by
  rw [send_reread address answered ⟨carried.inRange, time⟩ carried.nested short]
  rfl

/-- What is sent comes back over a connection that does not break. -/
theorem answered_of_ok {found : Response} (h : send path user exchange r = .ok found) :
    ∃ bytes, exchange r.encode = .answered bytes ∧
      Response.decode (bytes.take maxReply) = .ok found := by
  cases outcome : exchange r.encode with
  | answered bytes => exact ⟨bytes, rfl, answered_of_send outcome h⟩
  | unreachable cause | broken cause =>
    unfold send at h
    rw [outcome] at h
    cases address : addressFault? path <;> rw [address] at h <;> cases h

/-- What is read of a part of a response is the response, of which nothing is missing then. -/
theorem eq_of_send_part {bytes : List UInt8} (answered : exchange r.encode = .answered bytes)
    (part : bytes <+: Text.utf8 response.encode) (plain : response.IsPlain) {found : Response}
    (h : send path user exchange r = .ok found) :
    found = response ∧ (Text.utf8 response.encode).length ≤ maxReply := by
  have read := answered_of_send answered h
  have received : bytes.take maxReply <+: Text.utf8 response.encode :=
    (List.take_prefix _ _).trans part
  by_cases whole : bytes.take maxReply = Text.utf8 response.encode
  · rw [whole, plain.decode_eq] at read
    exact ⟨(Except.ok.inj read).symm, whole ▸ List.length_take_le _ _⟩
  · obtain ⟨e, cut⟩ := Response.decode_cut received whole
    rw [cut] at read
    cases read

/-- Nothing is read out of silence. -/
theorem send_ne_of_silence (silent : exchange r.encode = .answered []) (found : Response) :
    send path user exchange r ≠ .ok found := by
  intro h
  have something : ([] : List UInt8) ≠ Text.utf8 (Response.error 0 .parseError "").encode := by
    rw [Response.encode_eq, Json.utf8_render_obj]
    exact nofun
  obtain ⟨e, nothing⟩ := Response.decode_cut List.nil_prefix something
  have read := answered_of_send silent h
  rw [List.take_nil, nothing] at read
  cases read

theorem resultOf_error (now : Int) (code : Code) (message : String) :
    resultOf (.error now code message) = .error (.daemon (some code) message) := by
  show Except.error (CallError.daemon (Code.ofNumber? code.number) message) = _
  rw [Code.ofNumber?_number]

end Console

end HostWatch
