import HostWatch.Proofs.Json.CutValues
import HostWatch.Proofs.Rpc.Requests
import HostWatch.Rpc.Connection

/-!
# Requests in pieces

`Incoming.ofReads_pieces`: what is read of a request does not depend on the pieces it arrives in. A
request that is short enough is complete with its last byte or within the blanks behind it, and one
whose last brace comes too late is too large in whatever pieces it comes.

1. A part of a request from its front is incomplete, unless only blanks are missing
   (`Request.decode_part`).
2. So the loop over the pieces goes on as long as anything is missing and not too much has been read
   (`Incoming.judge?_part`); the induction is on the pieces, and what has been read before them
   awaits more.
3. A request that is short enough is read to its last byte (`Incoming.unreadOn_request`), and of no
   request much more is read than it may have (`Incoming.length_le_unreadOn`).
-/

namespace HostWatch.Rpc

open Json (ExponentFree)

theorem DecodeError.ofFailure_of_isEnd {e : Json.Failure} (h : e.fault.IsEnd) :
    DecodeError.ofFailure e = .incomplete := if_pos h

theorem Request.decode_nil : Request.decode [] = .error .incomplete := by
  rw [Request.decode, Json.read_nil]
  exact congrArg Except.error (DecodeError.ofFailure_of_isEnd trivial)

/-- Only an object is a request. -/
theorem Request.object_of_ofJson {document : Json} {r : Request}
    (h : Request.ofJson document = .ok r) : ∃ members, document = .obj members := by
  cases document with
  | obj members => exact ⟨members, rfl⟩
  | null | bool | int | float | str | arr => cases h

theorem Request.decode_part {part s : List UInt8} {r : Request} (free : ExponentFree (part ++ s))
    (h : Request.decode (part ++ s) = .ok r) :
    (Request.decode part = .ok r ∧ ∀ b ∈ s, Json.isGapByte b = true) ∨
      Request.decode part = .error .incomplete := by
  unfold Request.decode at h ⊢
  split at h
  · cases h
  · next document whole =>
    obtain ⟨members, rfl⟩ := Request.object_of_ofJson h
    rcases Json.read_cut free whole with ⟨same, gaps⟩ | ⟨e, cut, ended⟩
    · rw [same]
      exact .inl ⟨h, gaps⟩
    · rw [cut]
      exact .inr (congrArg Except.error (DecodeError.ofFailure_of_isEnd ended))

/-- What ends a whole list stands in the last part of it. -/
theorem last_mem_right {α : Type} {front behind body : List α} {b : α}
    (split : front ++ behind = body ++ [b]) (something : behind ≠ []) : b ∈ behind := by
  have ends := congrArg List.getLast? split
  rw [List.getLast?_append_of_ne_nil _ something, List.getLast?_append_cons] at ends
  exact List.mem_of_getLast? ends

namespace Incoming

theorem judge?_of_incomplete {buffer : List UInt8} (small : buffer.length ≤ maxRequest)
    (h : Request.decode buffer = .error .incomplete) : judge? buffer = none := by
  rw [judge?, if_neg (Nat.not_lt.2 small), h]

theorem judge?_of_ok {buffer : List UInt8} {r : Request} (small : buffer.length ≤ maxRequest)
    (h : Request.decode buffer = .ok r) : judge? buffer = some (.complete (.ok r)) := by
  rw [judge?, if_neg (Nat.not_lt.2 small), h]

theorem judge?_of_long {buffer : List UInt8} (long : maxRequest < buffer.length) :
    judge? buffer = some .tooLarge := by
  rw [judge?, if_pos long]

/-- While more than blanks is missing of a request, reading goes on until too much has been read. -/
theorem judge?_part {buffer missing : List UInt8} {r : Request}
    (free : ExponentFree (buffer ++ missing)) (h : Request.decode (buffer ++ missing) = .ok r)
    {b : UInt8} (more : b ∈ missing) (solid : ¬ Json.isGapByte b = true) :
    judge? buffer = if maxRequest < buffer.length then some .tooLarge else none := by
  split_ifs with long
  · exact judge?_of_long long
  · rcases Request.decode_part free h with ⟨-, gaps⟩ | waits
    · exact absurd (gaps b more) solid
    · exact judge?_of_incomplete (Nat.le_of_not_lt long) waits

/-- Behind a part that awaits more, a request that is short enough is read to its end. -/
theorem readOn_complete {buffer : List UInt8} {pieces : List (List UInt8)} {r : Request}
    (waiting : Request.decode buffer = .error .incomplete)
    (free : ExponentFree (buffer ++ pieces.flatten))
    (h : Request.decode (buffer ++ pieces.flatten) = .ok r)
    (small : (buffer ++ pieces.flatten).length ≤ maxRequest) :
    readOn buffer pieces = .complete (.ok r) := by
  induction pieces generalizing buffer with
  | nil =>
    rw [List.flatten_nil, List.append_nil, waiting] at h
    cases h
  | cons piece rest ih =>
    rw [List.flatten_cons, ← List.append_assoc] at free h small
    have short : (buffer ++ piece).length ≤ maxRequest := by
      rw [List.length_append] at small
      omega
    rw [readOn]
    rcases Request.decode_part free h with ⟨whole, -⟩ | more
    · rw [judge?_of_ok short whole]
    · rw [judge?_of_incomplete short more]
      exact ih more free h small

/-- A request that needs more bytes than a request may have is not read to its end. -/
theorem readOn_tooLarge {buffer : List UInt8} {pieces : List (List UInt8)} {r : Request}
    (short : buffer.length ≤ maxRequest) (free : ExponentFree (buffer ++ pieces.flatten))
    (h : Request.decode (buffer ++ pieces.flatten) = .ok r) {body rest : List UInt8}
    (split : buffer ++ pieces.flatten = body ++ 0x7D :: rest) (late : maxRequest ≤ body.length) :
    readOn buffer pieces = .tooLarge := by
  induction pieces generalizing buffer with
  | nil =>
    have := congrArg List.length split
    rw [List.flatten_nil, List.append_nil, List.length_append, List.length_cons] at this
    omega
  | cons piece pieces ih =>
    rw [List.flatten_cons, ← List.append_assoc] at free h split
    rw [readOn]
    by_cases long : maxRequest < (buffer ++ piece).length
    · rw [judge?_of_long long]
    · have short := Nat.le_of_not_lt long
      -- the brace has not been read yet, and it is no blank
      have brace : 0x7D ∈ pieces.flatten := by
        have behind := congrArg (List.drop (buffer ++ piece).length) split
        rw [List.drop_left, List.drop_append_of_le_length (short.trans late)] at behind
        rw [behind]
        exact List.mem_append_right _ List.mem_cons_self
      rw [judge?_part free h brace (by decide), if_neg long]
      exact ih short free h split

/-- A part of a request, of which more than blanks is missing, is never complete. -/
theorem readOn_part {buffer missing : List UInt8} {pieces : List (List UInt8)} {r : Request}
    (free : ExponentFree (buffer ++ pieces.flatten ++ missing))
    (h : Request.decode (buffer ++ pieces.flatten ++ missing) = .ok r) {b : UInt8}
    (more : b ∈ missing) (solid : ¬ Json.isGapByte b = true)
    (result : Except DecodeError Request) : readOn buffer pieces ≠ .complete result := by
  induction pieces generalizing buffer with
  | nil =>
    rw [readOn]
    split_ifs <;> exact nofun
  | cons piece rest ih =>
    rw [List.flatten_cons, ← List.append_assoc] at free h
    have goesOn := judge?_part (by rwa [← List.append_assoc]) (by rwa [← List.append_assoc])
      (List.mem_append_right rest.flatten more) solid
    rw [readOn, goesOn]
    split_ifs with long
    · exact nofun
    · exact ih free h

/-- A request that is short enough is read to its last byte, which is a brace. -/
theorem unreadOn_request {buffer body : List UInt8} {pieces : List (List UInt8)} {r : Request}
    (free : ExponentFree (buffer ++ pieces.flatten))
    (h : Request.decode (buffer ++ pieces.flatten) = .ok r)
    (split : buffer ++ pieces.flatten = body ++ [0x7D])
    (small : (buffer ++ pieces.flatten).length ≤ maxRequest) :
    (unreadOn buffer pieces).flatten = [] := by
  induction pieces generalizing buffer with
  | nil => rfl
  | cons piece rest ih =>
    rw [List.flatten_cons, ← List.append_assoc] at free h split small
    have later := ih free h split small
    rw [unreadOn]
    by_cases last : rest.flatten = []
    · split
      · exact last
      · exact later
    · have brace : 0x7D ∈ rest.flatten := last_mem_right split last
      have short : ¬ maxRequest < (buffer ++ piece).length := by
        rw [List.length_append] at small
        omega
      rw [judge?_part free h brace (by decide), if_neg short]
      exact later

/-- Reading comes to its end with the piece that makes too much of a request. -/
theorem length_le_unreadOn {buffer : List UInt8} {pieces : List (List UInt8)} {size : Nat}
    (small : buffer.length ≤ maxRequest) (narrow : ∀ piece ∈ pieces, piece.length ≤ size) :
    (buffer ++ pieces.flatten).length ≤
      maxRequest + size + (unreadOn buffer pieces).flatten.length := by
  induction pieces generalizing buffer with
  | nil =>
    rw [List.flatten_nil, List.append_nil]
    omega
  | cons piece rest ih =>
    obtain ⟨here, later⟩ := List.forall_mem_cons.1 narrow
    rw [List.flatten_cons, ← List.append_assoc, unreadOn]
    by_cases long : maxRequest < (buffer ++ piece).length
    · rw [judge?_of_long long]
      simp only [List.length_append]
      omega
    · cases judged : judge? (buffer ++ piece) with
      | none => exact ih (Nat.le_of_not_lt long) later
      | some incoming =>
        simp only [List.length_append] at long ⊢
        omega

/-- **Pieces.** A request without exponents is read whatever pieces it comes in: it is complete if it
is short enough, and too large if it has a closing brace behind the bytes that a request may have. -/
theorem ofReads_pieces {bytes : List UInt8} {r : Request} (free : ExponentFree bytes)
    (h : Request.decode bytes = .ok r) {pieces : List (List UInt8)} (split : pieces.flatten = bytes) :
    (bytes.length ≤ maxRequest → ofReads pieces = .complete (.ok r)) ∧
    ∀ body rest, bytes = body ++ 0x7D :: rest → maxRequest ≤ body.length →
      ofReads pieces = .tooLarge := by
  subst split
  refine ⟨fun small => ?_, fun body rest behind late => ?_⟩
  · exact readOn_complete Request.decode_nil free h small
  · exact readOn_tooLarge (Nat.zero_le _) free h behind late

/-- Two pieces that share the bytes of one character. -/
theorem ofReads_pieces_character :
    let r : Request := ⟨"é", .obj [("n", .int (-12))], none⟩
    let bytes := Text.utf8 r.encode
    ofReads [bytes.take 12, bytes.drop 12] = .complete (.ok r) := by
  intro r bytes
  have plain : Json.Plain r.params := ⟨by decide, ⟨by decide, by decide⟩, trivial⟩
  have whole : Request.decode bytes = .ok r := by
    rw [Request.decode, Request.read_encode plain (by decide)]
    exact Request.ofJson_members (by decide) rfl
  exact (ofReads_pieces (by decide +kernel) whole (by simp)).1 (by decide +kernel)

end Incoming

end HostWatch.Rpc
