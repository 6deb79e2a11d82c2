import HostWatch.Proofs.Json.RoundTrip
import HostWatch.Rpc.Message

/-!
# Requests are read back from their text

`Request.decode_encode`: whatever its parameters hold, a request that names a method is read back
from the text that is written for it.

1. The text is that of an object with two or three members, so that it is read as that object with
   its names in order (`Json.read_render`).
2. What is found in it by name are the members that were written, and each of them passes its check.
-/

namespace HostWatch.Rpc

/-- The members of a request on the wire. -/
def Request.members (r : Request) : List Json.Member :=
  [("method", .str r.method), ("params", r.params)] ++ idMember r.id

theorem Request.lookup_members (r : Request) :
    (putEntries r.members).lookup "method" = some (.str r.method) ∧
      (putEntries r.members).lookup "params" = some r.params ∧
      (putEntries r.members).lookup "id" = r.id.map .str := by
  simp only [lookup_putEntries]
  obtain ⟨method, params, id⟩ := r
  cases id <;> exact ⟨rfl, rfl, rfl⟩

theorem Request.inRange {r : Request} (h : Json.InRange r.params) :
    Json.InRange (.obj r.members) := by
  obtain ⟨method, params, id⟩ := r
  cases id with
  | none => exact ⟨trivial, h, trivial⟩
  | some id => exact ⟨trivial, h, trivial, trivial⟩

theorem Request.depth_members (r : Request) :
    Json.depth (.obj r.members) = Json.depth r.params + 1 := by
  obtain ⟨method, params, id⟩ := r
  cases id <;> simp [Request.members, idMember, Json.depth, Json.depthMembers]

/-- The members of a request whose parameters are plain. -/
theorem Request.reread_members {r : Request} (h : Json.Plain r.params) :
    Json.reread (.obj r.members) = .obj (putEntries r.members) := by
  have params := Json.reread_of_plain h
  obtain ⟨method, _, id⟩ := r
  cases id <;>
    simp only [Request.members, idMember, Json.reread, Json.object, List.cons_append,
      List.nil_append, Json.rereadMembers, params]

/-- The checks on what is found by name let a request pass. -/
theorem Request.ofJson_members {r : Request} (named : r.method ≠ "") {members : List Json.Member}
    (params : r.params = .obj members) : Request.ofJson (.obj (putEntries r.members)) = .ok r := by
  obtain ⟨method, fields, id⟩ := r.lookup_members
  have methodOk : requestMethod (some (.str r.method)) = .ok r.method := by
    rw [requestMethod, if_neg]
    rwa [String.isEmpty_iff]
  have paramsOk : requestParams (some r.params) = .ok r.params := by
    rw [params]
    rfl
  have idOk : requestId (r.id.map .str) = .ok r.id := by
    cases r.id <;> rfl
  rw [Request.ofJson, method, fields, id, methodOk, paramsOk, idOk]
  rfl

/-- The object that is read from the text of a request. -/
theorem Request.read_encode {r : Request} (plain : Json.Plain r.params)
    (nested : Json.depth r.params ≤ 126) :
    Json.read (Text.utf8 r.encode) = .ok (.obj (putEntries r.members)) := by
  have room : Json.depth (.obj r.members) ≤ Json.maxDepth := by
    rw [r.depth_members]
    exact Nat.succ_le_succ nested
  rw [← Request.reread_members plain]
  exact Json.read_render (Request.inRange plain.inRange) room

/-- **Requests.** A request that names a method, with an object of parameters that are plain values
and leave room for the object of the request around them, is read back from its text. -/
theorem Request.decode_encode {r : Request} (named : r.method ≠ "")
    (isObject : ∃ members, r.params = .obj members) (plain : Json.Plain r.params)
    (nested : Json.depth r.params ≤ 126) : Request.decode (Text.utf8 r.encode) = .ok r := by
  obtain ⟨members, params⟩ := isObject
  rw [Request.decode, Request.read_encode plain nested]
  exact Request.ofJson_members named params

/-- Escapes, a name outside ASCII, an empty name, the extremes of whole numbers, an empty id. -/
theorem Request.decode_encode_nested :
    let r : Request := ⟨"a \"quoted\\\u0007 method",
      .obj [("", .arr [.int 18446744073709551615, .null, .bool false]),
        ("\n", .obj [("ключ", .int (-9223372036854775808)), ("😀", .str "\u0000\t😀")])], some ""⟩
    Request.decode (Text.utf8 r.encode) = .ok r :=
  Request.decode_encode (by decide) ⟨_, rfl⟩
    ⟨by decide, ⟨⟨by decide, by decide⟩, trivial, trivial, trivial⟩,
      ⟨by decide, ⟨by decide, by decide⟩, trivial, trivial⟩, trivial⟩ (by decide)

end HostWatch.Rpc
