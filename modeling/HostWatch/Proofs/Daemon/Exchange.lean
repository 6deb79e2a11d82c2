import HostWatch.Console.Connection
import HostWatch.Proofs.Console.Calls
import HostWatch.Proofs.Console.Params

/-!
# Exchanges with a daemon

What a daemon writes to the console that sends it a request. To a whole request, in whatever portions
it arrives, it replies with its answer, or that the request is too large, if its limiter grants it
(`exchange_granted`). To a part of one it replies with nothing but a refusal (`replyTo_part`). A
request that is short enough is read to its end (`unread_request`), and so its connection is not
closed on anything that is still to be read.
-/

namespace HostWatch.DaemonStation

open Rpc (Request Response)

/-- What the daemon answers to a request that has been granted. -/
def answer (s : DaemonStation σ) (r : Request) : Response :=
  ((Daemon.methods s.now s.file).answer s.now r (s.server.desk.asked s.clock)).1

/-- What a daemon may reply to as much of a request as arrives. -/
inductive Replies (s : DaemonStation σ) (r : Request) : Response → Prop where
  | rateLimited (denied : ¬ s.server.desk.Grants s.clock) :
    Replies s r (.error s.now .rateLimited "Rate limit exceeded")
  | tooLarge (granted : s.server.desk.Grants s.clock) :
    Replies s r (.error s.now .invalidRequest "Request too large")
  | incomplete (granted : s.server.desk.Grants s.clock) :
    Replies s r (.error s.now .parseError "Incomplete request")
  | answered (granted : s.server.desk.Grants s.clock)
    (short : (Text.utf8 r.encode).length ≤ Rpc.maxRequest) : Replies s r (s.answer r)

variable {s : DaemonStation σ} {c : Console.Command} {portions : List (List UInt8)}

/-! ## Whole requests -/

/-- The request of a command is understood, unless it is too large. -/
theorem arrivals_request (fits : c.Fits)
    (whole : portions.flatten = Text.utf8 c.request.encode) :
    Rpc.Incoming.ofArrivals portions =
      if Rpc.maxRequest < (Text.utf8 c.request.encode).length then .tooLarge
      else .complete (.ok c.request) :=
  Rpc.Incoming.ofArrivals_encode (Console.Command.params_request fits).2.1
    (Console.Command.decode_request fits) whole

theorem exchange_of_reply (timeout : s.server.timeoutMs ≠ 0) {incoming : Rpc.Incoming}
    (arrives : Rpc.Incoming.ofArrivals portions = incoming) {response : Response}
    {desk : DaemonDesk}
    (reply : (Daemon.methods s.now s.file).reply s.clock incoming s.server.desk =
      (some response, desk)) : (s.exchange portions).1 = some response.encode := by
  subst arrives
  exact congrArg Prod.fst (Rpc.Server.serve_of_reply timeout reply)

theorem exchange_granted (fits : c.Fits) (timeout : s.server.timeoutMs ≠ 0)
    (whole : portions.flatten = Text.utf8 c.request.encode)
    (granted : s.server.desk.Grants s.clock) :
    (s.exchange portions).1 =
      some (if Rpc.maxRequest < (Text.utf8 c.request.encode).length then
        (Response.error s.now .invalidRequest "Request too large").encode
      else (s.answer c.request).encode) := by
  have arrives := arrivals_request fits whole
  split_ifs with long
  · rw [if_pos long] at arrives
    exact exchange_of_reply timeout arrives (Rpc.reply_of_granted nofun granted)
  · rw [if_neg long] at arrives
    exact exchange_of_reply timeout arrives (Rpc.reply_of_granted nofun granted)

/-! ## Parts of requests -/

theorem replyTo_of_exchange {reply : String} (h : (s.exchange portions).1 = some reply) :
    s.replyTo portions = Text.utf8 reply := by
  rw [replyTo, h]
  rfl

theorem replyTo_of_silence (h : (s.exchange portions).1 = none) : s.replyTo portions = [] := by
  rw [replyTo, h]
  rfl

theorem exchange_of_noTime (timeout : s.server.timeoutMs = 0) : (s.exchange portions).1 = none :=
  have closed : s.server.serve s.clock s.file (.ofArrivals portions) = (none, s.server) :=
    if_pos timeout
  congrArg Prod.fst closed

theorem exchange_of_empty (timeout : s.server.timeoutMs ≠ 0)
    (nothing : Rpc.Incoming.ofArrivals portions = .empty) : (s.exchange portions).1 = none := by
  have closed : s.server.serve s.clock s.file .empty = (none, s.server) := if_neg timeout
  rw [← nothing] at closed
  exact congrArg Prod.fst closed

/-- **Replies.** To any part of a request the daemon writes nothing or one reply, and answers it only
if it has all of it. -/
theorem replyTo_part (fits : c.Fits)
    (arrived : portions.flatten <+: Text.utf8 c.request.encode) :
    s.replyTo portions = [] ∨
      ∃ response, s.Replies c.request response ∧ s.replyTo portions = Text.utf8 response.encode := by
  by_cases timeout : s.server.timeoutMs = 0
  · exact .inl (replyTo_of_silence (exchange_of_noTime timeout))
  by_cases nothing : Rpc.Incoming.ofArrivals portions = .empty
  · exact .inl (replyTo_of_silence (exchange_of_empty timeout nothing))
  right
  by_cases granted : s.server.desk.Grants s.clock
  · have reply := exchange_of_reply timeout rfl (Rpc.reply_of_granted nothing granted)
    cases arrives : Rpc.Incoming.ofArrivals portions with
    | empty => exact absurd arrives nothing
    | tooLarge =>
      rw [arrives] at reply
      exact ⟨_, .tooLarge granted, replyTo_of_exchange reply⟩
    | truncated =>
      rw [arrives] at reply
      exact ⟨_, .incomplete granted, replyTo_of_exchange reply⟩
    | complete result =>
      have whole : portions.flatten = Text.utf8 c.request.encode := by
        by_contra proper
        exact Rpc.Incoming.ofArrivals_part (Console.Command.params_request fits).2.1
          (Console.Command.decode_request fits) arrived proper result arrives
      have known := arrivals_request fits whole
      split_ifs at known with long
      · rw [known] at arrives
        cases arrives
      · rw [known] at reply
        exact ⟨_, .answered granted (Nat.le_of_not_lt long), replyTo_of_exchange reply⟩
  · exact ⟨_, .rateLimited granted,
      replyTo_of_exchange (exchange_of_reply timeout rfl (Rpc.reply_of_denied nothing granted))⟩

/-! ## What is left unread -/

theorem unread_request (fits : c.Fits) (timeout : s.server.timeoutMs ≠ 0)
    (whole : portions.flatten = Text.utf8 c.request.encode)
    (short : (Text.utf8 c.request.encode).length ≤ Rpc.maxRequest) : s.unread portions = [] := by
  rw [unread, if_neg timeout]
  exact Rpc.Incoming.unread_encode (Console.Command.params_request fits).2.1
    (Console.Command.decode_request fits) whole short

/-- Of one read more than a request may have, something is always left. -/
theorem unread_of_long (long : Rpc.maxRequest + Rpc.readSize < portions.flatten.length) :
    s.unread portions ≠ [] := by
  rw [unread]
  split_ifs
  · exact List.ne_nil_of_length_pos (Nat.zero_lt_of_lt long)
  · exact Rpc.Incoming.unread_of_long long

/-! ## Connections -/

variable {outcome : Console.Exchange}

theorem Gives.replied_or_broken (h : s.Gives portions outcome) :
    outcome = .answered (s.replyTo portions) ∨
      s.unread portions ≠ [] ∧ ∃ cause, outcome = .broken cause := by
  cases h with
  | replied => exact .inl rfl
  | closed left cause => exact .inr ⟨left, cause, rfl⟩

/-- What a connection gives when nothing else goes wrong, it may give. -/
theorem Gives.mayGive (h : s.Gives portions outcome) {text : String}
    (whole : portions.flatten = Text.utf8 text) : s.MayGive text outcome := by
  cases h with
  | replied => exact .answered (whole ▸ List.prefix_rfl) List.prefix_rfl
  | closed left cause => exact .broken cause

theorem gives_exchangeWith (s : DaemonStation σ) (portions : String → List (List UInt8))
    (text : String) : s.Gives (portions text) (Console.exchangeWith s portions text) := by
  unfold Console.exchangeWith
  split_ifs with read
  · exact .replied
  · exact .closed (fun nothing => read (List.isEmpty_iff.2 nothing)) _

end HostWatch.DaemonStation
