import HostWatch.Proofs.Json.Written
import HostWatch.Proofs.Rpc.Pieces

/-!
# Whole numbers as ids

`Request.decode_wholeId`: what becomes of an id that is written as a whole number, of any length and
with or without a minus. A request with such an id is read exactly if the rest of it is a request
and the number is not too large for a double, and every answer to it carries the text that is
written for the number that was read. That is the text of the id only if values keep the number, and
minus zero is not kept.

1. A request is read from the members of its text one by one (`Request.decode_eq_ok_iff`), and of
   several members of one name the last counts.
2. No other field depends on the id, so the member that counts as the id can be set aside
   (`Request.ofJson_id_iff`, `Request.ofWritten?_wholeId`).
3. An answer carries the id of its request, whatever the handler does
   (`HandlerTable.answer_id`).
-/

namespace HostWatch.Rpc

open Json (Literal Member WrittenMember makeMember? membersAsWritten object toOption_eq_some_iff)

/-! ## The member that counts -/

section Members

variable {α β : Type}

/-- The entries without the last one of a name. -/
def withoutLast (name : String) (entries : List (String × α)) : List (String × α) :=
  (entries.reverse.eraseP (·.1 == name)).reverse

/-- No other entry of its name stands behind the one that counts. -/
theorem split_of_lookup_reverse {name : String} {a : α} {entries : List (String × α)}
    (h : entries.reverse.lookup name = some a) :
    ∃ front back, entries = front ++ (name, a) :: back ∧ ∀ e ∈ back, e.1 ≠ name := by
  obtain ⟨behind, before, split, last⟩ := List.lookup_eq_some_iff.1 h
  refine ⟨before.reverse, behind.reverse, ?_, fun e he same => ?_⟩
  · rw [← List.reverse_reverse entries, split]
    simp
  · have other := last e (List.mem_reverse.1 he)
    rw [same, bne_self_eq_false] at other
    cases other

theorem withoutLast_append {name : String} {a : α} {front back : List (String × α)}
    (last : ∀ e ∈ back, e.1 ≠ name) :
    withoutLast name (front ++ (name, a) :: back) = front ++ back := by
  have others : ∀ e ∈ back.reverse, ¬ (e.1 == name) = true := fun e he =>
    (beq_iff_eq.not).2 (last e (List.mem_reverse.1 he))
  have split : (front ++ (name, a) :: back).reverse = back.reverse ++ (name, a) :: front.reverse := by
    simp
  have own : ((name, a) :: front.reverse).eraseP (·.1 == name) = front.reverse :=
    List.eraseP_cons_of_pos (beq_self_eq_true name)
  rw [withoutLast, split, List.eraseP_append_right _ others, own]
  simp

theorem mapM_append_cons {f : α → Option β} {front back : List α} {a : α} {bs : List β} :
    (front ++ a :: back).mapM f = some bs ↔ ∃ fs b gs, front.mapM f = some fs ∧ f a = some b ∧
      back.mapM f = some gs ∧ fs ++ b :: gs = bs := by
  simp [List.mapM_append, List.mapM_cons, Option.bind_eq_some_iff]

/-- What is made of members keeps their names. -/
theorem names_of_mapM {make : α → Option β} {es : List (String × α)} {ms : List (String × β)}
    (h : es.mapM (makeMember? make) = some ms) : ms.map (·.1) = es.map (·.1) := by
  induction es generalizing ms with
  | nil =>
    obtain rfl := Option.some.inj h
    rfl
  | cons e es ih =>
    rw [List.mapM_cons] at h
    obtain ⟨m, made, h⟩ := Option.bind_eq_some_iff.1 h
    obtain ⟨others, later, h⟩ := Option.bind_eq_some_iff.1 h
    obtain rfl := Option.some.inj h
    obtain ⟨b, -, rfl⟩ := Option.map_eq_some_iff.1 made
    exact congrArg (e.1 :: ·) (ih later)

end Members

/-! ## Requests by their members -/

/-- The request that members stand for. -/
def Request.ofWritten? (es : List WrittenMember) : Option Request :=
  (es.mapM WrittenMember.member?).bind fun ms => (Request.ofJson (object ms)).toOption

theorem Request.ofWritten?_eq_some_iff {es : List WrittenMember} {r : Request} :
    Request.ofWritten? es = some r ↔
      ∃ ms, es.mapM WrittenMember.member? = some ms ∧ Request.ofJson (object ms) = .ok r := by
  simp only [Request.ofWritten?, Option.bind_eq_some_iff, toOption_eq_some_iff]

/-- A request is read from the members of its text. -/
theorem Request.decode_eq_ok_iff {bytes : List UInt8} {r : Request} :
    Request.decode bytes = .ok r ↔
      ∃ es, membersAsWritten bytes = .ok es ∧ Request.ofWritten? es = some r := by
  have document : Request.decode bytes = .ok r ↔
      ∃ members, Json.read bytes = .ok (.obj members) ∧ Request.ofJson (.obj members) = .ok r := by
    unfold Request.decode
    constructor
    · intro h
      split at h
      · cases h
      · next document read =>
        obtain ⟨members, rfl⟩ := Request.object_of_ofJson h
        exact ⟨members, read, h⟩
    · rintro ⟨members, read, h⟩
      rw [read]
      exact h
  simp only [document, Json.read_object_iff, Request.ofWritten?_eq_some_iff]
  constructor
  · rintro ⟨_, ⟨es, read, ms, made, rfl⟩, h⟩
    exact ⟨es, read, ms, made, h⟩
  · rintro ⟨es, read, ms, made, h⟩
    exact ⟨_, ⟨es, read, ms, made, rfl⟩, h⟩

/-- Each field of a request is checked by itself. -/
theorem Request.ofJson_object_iff {ms : List Member} {r : Request} :
    Request.ofJson (object ms) = .ok r ↔
      requestMethod (ms.reverse.lookup "method") = .ok r.method ∧
      requestParams (ms.reverse.lookup "params") = .ok r.params ∧
      requestId (ms.reverse.lookup "id") = .ok r.id := by
  rw [object, Request.ofJson, lookup_putEntries, lookup_putEntries, lookup_putEntries]
  constructor
  · intro h
    obtain ⟨method, methodOk, h⟩ := Json.bind_eq_ok h
    obtain ⟨params, paramsOk, h⟩ := Json.bind_eq_ok h
    obtain ⟨id, idOk, h⟩ := Json.bind_eq_ok h
    obtain rfl := Except.ok.inj h
    exact ⟨methodOk, paramsOk, idOk⟩
  · rintro ⟨method, params, id⟩
    rw [method, params, id]
    rfl

/-- The other fields do not depend on the id that counts: it can be taken for `null`. -/
theorem Request.ofJson_id_iff {front back : List Member} (last : ∀ m ∈ back, m.1 ≠ "id") (j : Json)
    {r : Request} : Request.ofJson (object (front ++ ("id", j) :: back)) = .ok r ↔
      Request.ofJson (object (front ++ back ++ [("id", .null)])) = .ok { r with id := none } ∧
        requestId (some j) = .ok r.id := by
  have split : (front ++ ("id", j) :: back).reverse = back.reverse ++ ("id", j) :: front.reverse := by
    simp
  have moved : (front ++ back ++ [("id", Json.null)]).reverse =
      ("id", .null) :: (back.reverse ++ front.reverse) := by
    simp
  have found : back.reverse.lookup "id" = none := by
    refine List.lookup_eq_none_iff.2 fun m hm => bne_iff_ne.2 ?_
    exact (last m (List.mem_reverse.1 hm)).symm
  have other : ∀ name ≠ "id", (front ++ ("id", j) :: back).reverse.lookup name =
      (front ++ back ++ [("id", Json.null)]).reverse.lookup name := by
    intro name ne
    rw [split, moved, List.lookup_append, lookup_cons_eq, if_neg ne, lookup_cons_eq, if_neg ne,
      List.lookup_append]
  have id : (front ++ ("id", j) :: back).reverse.lookup "id" = some j := by
    rw [split, List.lookup_append, found, lookup_cons_eq, if_pos rfl]
    rfl
  have none : (front ++ back ++ [("id", Json.null)]).reverse.lookup "id" = some .null := by
    rw [moved, lookup_cons_eq, if_pos rfl]
  rw [Request.ofJson_object_iff, Request.ofJson_object_iff, other "method" (by decide),
    other "params" (by decide), id, none]
  constructor
  · rintro ⟨method, params, own⟩
    exact ⟨⟨method, params, rfl⟩, own⟩
  · rintro ⟨⟨method, params, -⟩, own⟩
    exact ⟨method, params, own⟩

/-! ## Ids that are whole numbers -/

/-- The whole number that is the id in a text; of several ids the last counts. -/
def wholeId? (bytes : List UInt8) : Option Literal :=
  match (membersAsWritten bytes).toOption.bind (·.reverse.lookup "id") with
  | some (.whole l) => some l
  | _ => none

/-- The request that is left of a text without the id that counts. -/
def Request.withoutId? (bytes : List UInt8) : Option Request :=
  (membersAsWritten bytes).toOption.bind fun es =>
    Request.ofWritten? (withoutLast "id" es ++ [("id", .other .null)])

theorem wholeId?_eq_some {bytes : List UInt8} {l : Literal} (h : wholeId? bytes = some l) :
    ∃ front back, membersAsWritten bytes = .ok (front ++ ("id", .whole l) :: back) ∧
      ∀ e ∈ back, e.1 ≠ "id" := by
  unfold wholeId? at h
  split at h
  · next l' id =>
    obtain rfl := Option.some.inj h
    obtain ⟨es, read, found⟩ := Option.bind_eq_some_iff.1 id
    obtain ⟨front, back, rfl, last⟩ := split_of_lookup_reverse found
    exact ⟨front, back, toOption_eq_some_iff.1 read, last⟩
  · cases h

theorem requestId_number (n : Json.Number) :
    requestId (some n.toJson) = .ok (some (Json.render n.toJson)) := by
  cases n <;> rfl

/-- A whole number as the id of members: the rest is a request, and the id is what is written for
the number that was read. -/
theorem Request.ofWritten?_wholeId {front back : List WrittenMember}
    (last : ∀ e ∈ back, e.1 ≠ "id") (l : Literal) {r : Request} :
    Request.ofWritten? (front ++ ("id", .whole l) :: back) = some r ↔
      Request.ofWritten? (front ++ back ++ [("id", .other .null)]) = some { r with id := none } ∧
        ∃ id, l.reprinted? = some id ∧ r.id = some id := by
  have names : ∀ {ms}, back.mapM WrittenMember.member? = some ms → ∀ m ∈ ms, m.1 ≠ "id" := by
    intro ms made m hm same
    have kept : m.1 ∈ back.map (·.1) := by
      rw [← names_of_mapM made]
      exact List.mem_map_of_mem hm
    obtain ⟨e, he, name⟩ := List.mem_map.1 kept
    exact last e he (name.trans same)
  simp only [Request.ofWritten?_eq_some_iff]
  constructor
  · rintro ⟨_, made, h⟩
    obtain ⟨fs, m, bs, first, own, later, rfl⟩ := mapM_append_cons.1 made
    obtain ⟨_, value, rfl⟩ := Option.map_eq_some_iff.1 own
    obtain ⟨n, read, rfl⟩ := Option.map_eq_some_iff.1 value
    obtain ⟨rest, id⟩ := (Request.ofJson_id_iff (names later) _).1 h
    rw [requestId_number] at id
    refine ⟨⟨_, ?_, rest⟩, _, congrArg (Option.map _) read, (Except.ok.inj id).symm⟩
    rw [List.mapM_append, List.mapM_append, first, later]
    rfl
  · rintro ⟨⟨_, made, h⟩, id, reprinted, own⟩
    obtain ⟨both, _, _, joined, null, nothing, rfl⟩ := mapM_append_cons.1 made
    obtain rfl := Option.some.inj null
    obtain rfl := Option.some.inj nothing
    rw [List.mapM_append] at joined
    obtain ⟨fs, first, joined⟩ := Option.bind_eq_some_iff.1 joined
    obtain ⟨bs, later, joined⟩ := Option.bind_eq_some_iff.1 joined
    obtain rfl := Option.some.inj joined
    obtain ⟨n, read, rfl⟩ := Option.map_eq_some_iff.1 reprinted
    refine ⟨_, mapM_append_cons.2 ⟨fs, ("id", n.toJson), bs, first, ?_, later, rfl⟩, ?_⟩
    · exact congrArg (Option.map ("id", ·)) (congrArg (Option.map Json.Number.toJson) read)
    · refine (Request.ofJson_id_iff (names later) _).2 ⟨h, ?_⟩
      rw [requestId_number, own]

/-- An answer carries the id of its request. -/
theorem HandlerTable.answer_id (t : HandlerTable σ) (now : Int) (r : Request) (desk : Desk σ) :
    (t.answer now r desk).1.id = r.id := by
  unfold HandlerTable.answer
  split <;> rfl

/-- A request whose id is a whole number is read if the rest of it is a request and the number is
not too large, and has what is written for the number as its id. -/
theorem Request.decode_of_wholeId? {bytes : List UInt8} {l : Literal} (h : wholeId? bytes = some l)
    {r : Request} : Request.decode bytes = .ok r ↔
      Request.withoutId? bytes = some { r with id := none } ∧
        ∃ id, l.reprinted? = some id ∧ r.id = some id := by
  obtain ⟨front, back, read, last⟩ := wholeId?_eq_some h
  have given : (∃ es, membersAsWritten bytes = .ok es ∧ Request.ofWritten? es = some r) ↔
      Request.ofWritten? (front ++ ("id", .whole l) :: back) = some r := by
    rw [read]
    exact ⟨fun ⟨_, same, made⟩ => Except.ok.inj same ▸ made, fun made => ⟨_, rfl, made⟩⟩
  have rest : Request.withoutId? bytes =
      Request.ofWritten? (front ++ back ++ [("id", .other .null)]) := by
    rw [Request.withoutId?, read]
    exact congrArg (fun es => Request.ofWritten? (es ++ _)) (withoutLast_append last)
  rw [Request.decode_eq_ok_iff, given, rest, Request.ofWritten?_wholeId last]

/-- **Ids.** Let the id of a text be a whole number, which then stands in the text. The text is read
exactly if the rest of it is a request and something is read of the number; its id is what is
written for that, and every answer carries it. It is the text of the number exactly if that is kept
as it is, and two requests with different numbers get the same id only if neither of them is. -/
theorem Request.decode_wholeId {bytes : List UInt8} {l : Literal} (h : wholeId? bytes = some l) :
    Text.utf8 l.text <:+: bytes ∧
    (∀ r, Request.decode bytes = .ok r ↔ Request.withoutId? bytes = some { r with id := none } ∧
      ∃ id, l.reprinted? = some id ∧ r.id = some id) ∧
    (∀ r, Request.decode bytes = .ok r → ∀ (σ : Type) (t : HandlerTable σ) now desk,
      (t.answer now r desk).1.id = l.reprinted?) ∧
    (l.reprinted? = some l.text ↔ l.IsExact) ∧
    ∀ bytes' l', wholeId? bytes' = some l' → ∀ r r', Request.decode bytes = .ok r →
      Request.decode bytes' = .ok r' → r.id = r'.id → l = l' ∨ ¬ l.IsExact ∧ ¬ l'.IsExact := by
  refine ⟨?_, fun r => Request.decode_of_wholeId? h, fun r read σ t now desk => ?_,
    l.reprinted?_eq_text_iff, fun bytes' l' h' r r' read read' same => ?_⟩
  · obtain ⟨front, back, members, -⟩ := wholeId?_eq_some h
    exact Json.membersAsWritten_stands members (List.mem_append_right _ List.mem_cons_self)
  · obtain ⟨-, id, reprinted, own⟩ := (Request.decode_of_wholeId? h).1 read
    rw [t.answer_id, own, reprinted]
  · obtain ⟨-, id, reprinted, own⟩ := (Request.decode_of_wholeId? h).1 read
    obtain ⟨-, id', reprinted', own'⟩ := (Request.decode_of_wholeId? h').1 read'
    rw [own, own'] at same
    obtain rfl := Option.some.inj same
    exact Literal.eq_of_reprinted? reprinted reprinted'

/-- The greatest number that is kept, behind blanks and an escape in the name of the id, and behind
another id that does not count. -/
theorem Request.decode_wholeId_greatest :
    let bytes := Text.utf8 ("\x7b\"id\": -1, \"method\": \"ping\",\n" ++
      "\"i\\u0064\" : 18446744073709551615, \"params\": \x7b\"id\": 2\x7d \x7d")
    (∃ l, wholeId? bytes = some l) ∧ (∃ r, Request.decode bytes = .ok r) ∧
      ∀ r, Request.decode bytes = .ok r → r.id = some "18446744073709551615" := by
  intro bytes
  have id : wholeId? bytes =
      some ⟨false, [1, 8, 4, 4, 6, 7, 4, 4, 0, 7, 3, 7, 0, 9, 5, 5, 1, 6, 1, 5], by decide⟩ := by
    decide +kernel
  obtain ⟨-, decoded, -, same, -⟩ := Request.decode_wholeId id
  refine ⟨⟨_, id⟩, ?_, fun r read => ?_⟩
  · have some : (Request.decode bytes).toOption.isSome = true := by decide +kernel
    obtain ⟨r, read⟩ := Option.isSome_iff_exists.1 some
    exact ⟨r, toOption_eq_some_iff.1 read⟩
  · obtain ⟨-, id, reprinted, own⟩ := (decoded r).1 read
    rw [same.2 (by decide)] at reprinted
    rw [own, ← reprinted]
    decide +kernel

/-- Two whole numbers beside each other that are no longer told apart, and minus zero. -/
theorem Request.one_id_of_two :
    let idOf (bytes : List UInt8) := (Request.decode bytes).toOption.bind (·.id)
    let even := Text.utf8 "\x7b\"method\":\"ping\",\"id\":18446744073709551616\x7d"
    let odd := Text.utf8 "\x7b\"method\":\"ping\",\"id\":18446744073709551617\x7d"
    let zero := Text.utf8 "\x7b\"method\":\"ping\",\"id\":-0\x7d"
    idOf even = some "1.8446744073709552e+19" ∧ idOf odd = some "1.8446744073709552e+19" ∧
      (wholeId? even).map (·.text) = some "18446744073709551616" ∧
      (wholeId? odd).map (·.text) = some "18446744073709551617" ∧
      idOf zero = some "-0.0" ∧ (wholeId? zero).map (·.text) = some "-0" := by
  decide +kernel

end HostWatch.Rpc
