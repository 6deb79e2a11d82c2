import HostWatch.Proofs.Rpc.Pieces
import HostWatch.Proofs.Rpc.Responses
import HostWatch.Rpc.Server

/-!
# Serving a connection

`Server.serve_stream`: whatever bytes a client sends, in whatever pieces, it gets one response that
can be read, the limiter is asked once, and one more request is counted; a client that sends nothing
gets nothing and changes nothing.

1. The pieces are read one after another until what has been read is settled: it is a request, it
   cannot become one, or it is too large (`Incoming.ofReads_cases`).
2. `Answered` tells for each case what is answered, what the limiter and the handlers leave behind,
   and which handlers are run. To say the last, every handler writes down its runs beside its state
   (`HandlerTable.recorded`), which changes nothing else.
3. Every answer fits into a response, so that it is read back (`Response.decode_encode_reread`).
-/

namespace HostWatch.Rpc

/-! ## How far the pieces are read -/

namespace Incoming

/-- Bytes that may be the beginning of a request and are no more than one may have. -/
def Awaits (buffer : List UInt8) : Prop :=
  buffer.length ≤ maxRequest ∧ Request.decode buffer = .error .incomplete

/-- What has been read with the first `k` pieces. -/
def arrived (pieces : List (List UInt8)) (k : Nat) : List UInt8 := (pieces.take k).flatten

/-- As many pieces are read: there are as many, and all that was read before the last one awaits
more. -/
def Reads (pieces : List (List UInt8)) (k : Nat) : Prop :=
  k ≤ pieces.length ∧ ∀ j < k, Awaits (arrived pieces j)

/-- More than a request may have arrives before anything else is settled. -/
def Overlong (pieces : List (List UInt8)) : Prop :=
  ∃ k, Reads pieces k ∧ maxRequest < (arrived pieces k).length

/-- What arrives is a request or cannot become one, before it is too large. -/
def Settles (pieces : List (List UInt8)) (result : Except DecodeError Request) : Prop :=
  ∃ k, Reads pieces k ∧ (arrived pieces k).length ≤ maxRequest ∧
    Request.decode (arrived pieces k) = result ∧ result ≠ .error .incomplete

/-- Everything that arrives awaits more. -/
def Pending (pieces : List (List UInt8)) : Prop := ∀ k, Awaits (arrived pieces k)

theorem awaits_nil : Awaits [] := ⟨Nat.zero_le _, Request.decode_nil⟩

theorem judge?_cases (buffer : List UInt8) :
    (Awaits buffer ∧ judge? buffer = none) ∨
      (maxRequest < buffer.length ∧ judge? buffer = some .tooLarge) ∨
      (buffer.length ≤ maxRequest ∧ Request.decode buffer ≠ .error .incomplete ∧
        judge? buffer = some (.complete (Request.decode buffer))) := by
  by_cases long : maxRequest < buffer.length
  · exact .inr (.inl ⟨long, judge?_of_long long⟩)
  · have short := Nat.le_of_not_lt long
    by_cases waits : Request.decode buffer = .error .incomplete
    · exact .inl ⟨⟨short, waits⟩, judge?_of_incomplete short waits⟩
    · refine .inr (.inr ⟨short, waits, ?_⟩)
      rw [judge?, if_neg long]
      split
      · next e => exact absurd e waits
      · rfl

/-- Reading behind bytes that await more goes on up to a piece that settles something, or to the
last one. -/
theorem readOn_cases (pieces : List (List UInt8)) {buffer : List UInt8} (waits : Awaits buffer) :
    (∃ k ≤ pieces.length, (∀ j < k, Awaits (buffer ++ arrived pieces j)) ∧
      judge? (buffer ++ arrived pieces k) = some (readOn buffer pieces)) ∨
    ((∀ k, Awaits (buffer ++ arrived pieces k)) ∧
      readOn buffer pieces = if (buffer ++ pieces.flatten).isEmpty then .empty else .truncated) := by
  induction pieces generalizing buffer with
  | nil =>
    right
    simp only [arrived, List.take_nil, List.flatten_nil, List.append_nil]
    exact ⟨fun _ => waits, rfl⟩
  | cons piece pieces ih =>
    have first : buffer ++ arrived (piece :: pieces) 0 = buffer := List.append_nil buffer
    have later : ∀ k, buffer ++ arrived (piece :: pieces) (k + 1) =
        (buffer ++ piece) ++ arrived pieces k := fun k => by
      simp only [arrived, List.take_succ_cons, List.flatten_cons, List.append_assoc]
    rw [readOn]
    cases judged : judge? (buffer ++ piece) with
    | some incoming =>
      refine .inl ⟨1, by simp, fun j hj => ?_, ?_⟩
      · rw [Nat.lt_one_iff.1 hj, first]
        exact waits
      · rw [later, arrived, List.take_zero, List.flatten_nil, List.append_nil]
        exact judged
    | none =>
      have more : Awaits (buffer ++ piece) := by
        rcases judge?_cases (buffer ++ piece) with ⟨more, -⟩ | ⟨-, settled⟩ | ⟨-, -, settled⟩
        · exact more
        · rw [settled] at judged; cases judged
        · rw [settled] at judged; cases judged
      dsimp only
      rcases ih more with ⟨k, hk, before, settled⟩ | ⟨all, ended⟩
      · refine .inl ⟨k + 1, Nat.succ_le_succ hk, fun j hj => ?_, by rw [later]; exact settled⟩
        cases j with
        | zero => rw [first]; exact waits
        | succ j => rw [later]; exact before j (Nat.lt_of_succ_lt_succ hj)
      · refine .inr ⟨fun k => ?_, ?_⟩
        · cases k with
          | zero => rw [first]; exact waits
          | succ k => rw [later]; exact all k
        · rw [ended, List.flatten_cons, List.append_assoc]

/-- **Reading.** Pieces end in one of four ways. -/
theorem ofReads_cases (pieces : List (List UInt8)) :
    (pieces.flatten = [] ∧ ofReads pieces = .empty) ∨
    (pieces.flatten ≠ [] ∧ Pending pieces ∧ ofReads pieces = .truncated) ∨
    (pieces.flatten ≠ [] ∧ Overlong pieces ∧ ofReads pieces = .tooLarge) ∨
    ∃ result, pieces.flatten ≠ [] ∧ Settles pieces result ∧ ofReads pieces = .complete result := by
  have part : ∀ k, pieces.flatten = [] → arrived pieces k = [] := fun k none => by
    rw [← List.take_append_drop k pieces, List.flatten_append] at none
    exact (List.append_eq_nil_iff.1 none).1
  rcases readOn_cases pieces awaits_nil with ⟨k, hk, before, settled⟩ | ⟨all, ended⟩
  · simp only [List.nil_append] at before settled
    rcases judge?_cases (arrived pieces k) with ⟨-, no⟩ | ⟨long, yes⟩ | ⟨short, known, yes⟩
    · rw [no] at settled
      cases settled
    · rw [yes] at settled
      refine .inr (.inr (.inl ⟨fun none => ?_, ⟨k, ⟨hk, before⟩, long⟩, ?_⟩))
      · rw [part k none] at long
        exact absurd long (by decide)
      · exact (Option.some.inj settled).symm
    · rw [yes] at settled
      refine .inr (.inr (.inr ⟨_, fun none => ?_, ⟨k, ⟨hk, before⟩, short, rfl, known⟩, ?_⟩))
      · rw [part k none] at known
        exact known Request.decode_nil
      · exact (Option.some.inj settled).symm
  · simp only [List.nil_append] at all ended
    by_cases none : pieces.flatten = []
    · refine .inl ⟨none, ended.trans ?_⟩
      rw [none]
      rfl
    · refine .inr (.inl ⟨none, all, ended.trans ?_⟩)
      rw [if_neg (by simpa using none)]

theorem ofReads_ne_empty {pieces : List (List UInt8)} (something : pieces.flatten ≠ []) :
    ofReads pieces ≠ .empty := by
  rcases ofReads_cases pieces with ⟨none, -⟩ | ⟨-, -, e⟩ | ⟨-, -, e⟩ | ⟨_, -, -, e⟩
  · exact absurd none something
  all_goals
    rw [e]
    exact fun no => by cases no

end Incoming

/-! ## Runs of handlers -/

/-- The handler, with the requests that it is run for written down beside its state. -/
def Handler.recorded (h : Handler σ) : Handler (σ × List Request) := fun r d =>
  let (handled, after) := h r ⟨d.limiter, d.state.1⟩
  (handled, ⟨after.limiter, after.state, r :: d.state.2⟩)

/-- The table of recorded handlers. -/
def HandlerTable.recorded (t : HandlerTable σ) : HandlerTable (σ × List Request) :=
  NameMap.map Handler.recorded t

/-- A desk with runs that have been written down. -/
def Desk.recording (d : Desk σ) (runs : List Request) : Desk (σ × List Request) :=
  ⟨d.limiter, d.state, runs⟩

/-- A server with runs that have been written down. -/
def Server.recording (s : Server σ) (runs : List Request) : Server (σ × List Request) :=
  ⟨s.desk.recording runs, s.timeoutMs, s.running, s.served, s.entry⟩

/-! ## Answers -/

/-- The desk once its limiter has been asked. -/
def Desk.asked (d : Desk σ) (clock : Int) : Desk σ :=
  { d with limiter := (d.limiter.tryAcquire clock).2 }

/-- The limiter grants a request. -/
def Desk.Grants (d : Desk σ) (clock : Int) : Prop := (d.limiter.tryAcquire clock).1 = true

section Answers

variable (t : HandlerTable σ) (clock : Int) (d : Desk σ) (pieces : List (List UInt8))

open Incoming (Overlong Settles Pending)

/-- How pieces are answered, what desk is left, and which requests handlers are run for. -/
inductive Answered : Response → Desk σ → List Request → Prop where
  | rateLimited (denied : ¬ d.Grants clock) :
    Answered (.error (clock / 1000) .rateLimited "Rate limit exceeded") (d.asked clock) []
  | tooLarge (granted : d.Grants clock) (long : Overlong pieces) :
    Answered (.error (clock / 1000) .invalidRequest "Request too large") (d.asked clock) []
  | truncated (granted : d.Grants clock) (pending : Pending pieces) :
    Answered (.error (clock / 1000) .parseError "Incomplete request") (d.asked clock) []
  | paramsKind (granted : d.Grants clock) (settles : Settles pieces (.error .paramsKind)) :
    Answered (.error (clock / 1000) .invalidRequest "params must be an object") (d.asked clock) []
  | undecodable {e : DecodeError} (granted : d.Grants clock) (settles : Settles pieces (.error e))
    (other : e ≠ .paramsKind) :
    Answered (.error (clock / 1000) .parseError e.message) (d.asked clock) []
  | unknownMethod {r : Request} (granted : d.Grants clock) (settles : Settles pieces (.ok r))
    (missing : t.get? r.method = none) :
    Answered ⟨.error ⟨"Method not found: " ++ r.method, Code.methodNotFound.number⟩, clock / 1000,
      r.id⟩ (d.asked clock) []
  | crashed {r : Request} {handler : Handler σ} {after : Desk σ} (granted : d.Grants clock)
    (settles : Settles pieces (.ok r)) (found : t.get? r.method = some handler)
    (run : handler r (d.asked clock) = (.crashed, after)) :
    Answered ⟨.error ⟨"Internal error", Code.internalError.number⟩, clock / 1000, r.id⟩ after [r]
  | refused {r : Request} {handler : Handler σ} {after : Desk σ} {why : Refusal}
    (granted : d.Grants clock) (settles : Settles pieces (.ok r))
    (found : t.get? r.method = some handler)
    (run : handler r (d.asked clock) = (.refused why, after)) :
    Answered ⟨.error ⟨why.message, why.code.number⟩, clock / 1000, r.id⟩ after [r]
  | done {r : Request} {handler : Handler σ} {after : Desk σ} {result : Json}
    (granted : d.Grants clock) (settles : Settles pieces (.ok r))
    (found : t.get? r.method = some handler)
    (run : handler r (d.asked clock) = (.done result, after)) :
    Answered ⟨.result result, clock / 1000, r.id⟩ after [r]

variable {t clock d pieces} {response : Response} {after : Desk σ} {runs : List Request}

/-- No connection runs more than one handler, or one handler twice. -/
theorem Answered.runs_le (h : Answered t clock d pieces response after runs) : runs.length ≤ 1 := by
  cases h <;> simp

/-- What handlers give as results can stand in a response. -/
def HandlerTable.Presentable (t : HandlerTable σ) : Prop :=
  ∀ name handler, t.get? name = some handler → ∀ r d result after,
    handler r d = (.done result, after) → Json.InRange result ∧ Json.depth result ≤ 126

theorem Code.inBounds (c : Code) (message : String) : ErrorBody.InBounds ⟨message, c.number⟩ := by
  show -(Int.pow 2 31) ≤ c.number ∧ c.number ≤ Int.pow 2 31 - 1
  cases c <;> decide

theorem Answered.presentable (h : Answered t clock d pieces response after runs)
    (results : t.Presentable)
    (time : -(Int.pow 2 63) ≤ clock / 1000 ∧ clock / 1000 ≤ Int.pow 2 63 - 1) :
    response.InBounds ∧ response.outcome.depth ≤ 126 := by
  cases h with
  | done granted settles found run =>
    obtain ⟨inside, nested⟩ := results _ _ found _ _ _ _ run
    exact ⟨⟨inside, time⟩, nested⟩
  | rateLimited | tooLarge | truncated | paramsKind | undecodable | unknownMethod | crashed
  | refused => exact ⟨⟨Code.inBounds _ _, time⟩, Nat.zero_le _⟩

/-! ## Replies -/

theorem reply_of_denied {incoming : Incoming} (something : incoming ≠ .empty)
    (denied : ¬ d.Grants clock) : t.reply clock incoming d =
      (some (.error (clock / 1000) .rateLimited "Rate limit exceeded"), d.asked clock) := by
  unfold Desk.Grants at denied
  unfold HandlerTable.reply
  dsimp only
  split
  · exact absurd rfl something
  · rw [if_neg denied]
    rfl

/-- The answer to what a client sent, once the limiter has granted it. -/
def HandlerTable.grantedReply (t : HandlerTable σ) (now : Int) (d : Desk σ) :
    Incoming → Response × Desk σ
  | .complete (.ok r) => t.answer now r d
  | .complete (.error e) => (.error now e.code e.message, d)
  | .tooLarge => (.error now .invalidRequest "Request too large", d)
  | .truncated | .empty => (.error now .parseError "Incomplete request", d)

theorem reply_of_granted {incoming : Incoming} (something : incoming ≠ .empty)
    (granted : d.Grants clock) : t.reply clock incoming d =
      (some (t.grantedReply (clock / 1000) (d.asked clock) incoming).1,
        (t.grantedReply (clock / 1000) (d.asked clock) incoming).2) := by
  unfold Desk.Grants at granted
  unfold HandlerTable.reply
  dsimp only
  split
  · exact absurd rfl something
  · rw [if_pos granted]
    cases incoming with
    | empty => exact absurd rfl something
    | tooLarge | truncated => rfl
    | complete result => cases result <;> rfl

theorem answer_of_missing {r : Request} (missing : t.get? r.method = none) (now : Int) :
    t.answer now r d = (⟨.error ⟨"Method not found: " ++ r.method, Code.methodNotFound.number⟩, now,
      r.id⟩, d) := by
  unfold HandlerTable.answer
  rw [missing]
  rfl

theorem answer_of_found {r : Request} {handler : Handler σ} (found : t.get? r.method = some handler)
    (now : Int) : t.answer now r d =
      (((handler r d).1.response now).withId r.id, (handler r d).2) := by
  unfold HandlerTable.answer
  rw [found]

theorem recorded_get? (name : String) :
    t.recorded.get? name = (t.get? name).map Handler.recorded := NameMap.get?_map _ t name

theorem recorded_run {r : Request} {handler : Handler σ} {handled : Handled}
    (run : handler r d = (handled, after)) (runs : List Request) :
    handler.recorded r (d.recording runs) = (handled, after.recording (r :: runs)) := by
  show ((handler r d).1, Desk.recording (handler r d).2 (r :: runs)) = _
  rw [run]

/-- A request that has arrived is answered, by a table and by its recorded handlers. -/
theorem answer_answered {r : Request} (granted : d.Grants clock) (settles : Settles pieces (.ok r)) :
    ∃ response after runs, Answered t clock d pieces response after runs ∧
      t.answer (clock / 1000) r (d.asked clock) = (response, after) ∧
      t.recorded.answer (clock / 1000) r ((d.asked clock).recording []) =
        (response, after.recording runs) := by
  cases found : t.get? r.method with
  | none =>
    have missing : t.recorded.get? r.method = none := by rw [recorded_get?, found]; rfl
    rw [answer_of_missing found, answer_of_missing missing]
    exact ⟨_, _, [], .unknownMethod granted settles found, rfl, rfl⟩
  | some handler =>
    have recorded : t.recorded.get? r.method = some handler.recorded := by
      rw [recorded_get?, found]
      rfl
    rw [answer_of_found found, answer_of_found recorded]
    cases run : handler r (d.asked clock) with
    | mk handled after =>
      rw [recorded_run run]
      cases handled with
      | crashed => exact ⟨_, _, [r], .crashed granted settles found run, rfl, rfl⟩
      | refused why => exact ⟨_, _, [r], .refused granted settles found run, rfl, rfl⟩
      | done result => exact ⟨_, _, [r], .done granted settles found run, rfl, rfl⟩

/-- A reply, by a table and by its recorded handlers. -/
theorem reply_answered (something : pieces.flatten ≠ []) :
    ∃ response after runs, Answered t clock d pieces response after runs ∧
      t.reply clock (.ofReads pieces) d = (some response, after) ∧
      t.recorded.reply clock (.ofReads pieces) (d.recording []) =
        (some response, after.recording runs) := by
  have sent := Incoming.ofReads_ne_empty something
  by_cases granted : d.Grants clock
  · rw [reply_of_granted sent granted, reply_of_granted sent (d := d.recording []) granted]
    rcases Incoming.ofReads_cases pieces with
      ⟨none, -⟩ | ⟨-, pending, e⟩ | ⟨-, long, e⟩ | ⟨result, -, settles, e⟩
    · exact absurd none something
    · rw [e]
      exact ⟨_, _, [], .truncated granted pending, rfl, rfl⟩
    · rw [e]
      exact ⟨_, _, [], .tooLarge granted long, rfl, rfl⟩
    rw [e]
    cases result with
    | error fault =>
      cases fault with
      | paramsKind => exact ⟨_, _, [], .paramsKind granted settles, rfl, rfl⟩
      | incomplete | malformed | missingMethod =>
        exact ⟨_, _, [], .undecodable granted settles (by simp), rfl, rfl⟩
    | ok r =>
      obtain ⟨response, after, runs, answered, plain, recorded⟩ := answer_answered granted settles
      refine ⟨response, after, runs, answered, ?_, ?_⟩
      · show (some (t.answer _ r _).1, (t.answer _ r _).2) = _
        rw [plain]
      · show (some (t.recorded.answer _ r ((d.asked clock).recording [])).1,
          (t.recorded.answer _ r ((d.asked clock).recording [])).2) = _
        rw [recorded]
  · exact ⟨_, _, [], .rateLimited granted, reply_of_denied sent granted,
      reply_of_denied sent (d := d.recording []) granted⟩

end Answers

/-! ## Connections -/

theorem Server.serve_of_reply {t : HandlerTable σ} {clock : Int} {incoming : Incoming} {s : Server σ}
    (timeout : s.timeoutMs ≠ 0) {response : Response} {desk : Desk σ}
    (h : t.reply clock incoming s.desk = (some response, desk)) :
    s.serve t clock incoming = (some response.encode, { s with desk, served := s.served + 1 }) := by
  unfold Server.serve
  rw [if_neg timeout, h]

/-- **Connections.** A client that sends nothing gets nothing back, and nothing changes. Any other
client gets one response that it can read, for which the limiter has been asked once, and one more
request is counted as served; `Answered` tells which response it is and that at most one handler has
been run for it. -/
theorem Server.serve_stream {t : HandlerTable σ} (results : t.Presentable) {clock : Int}
    (time : -(Int.pow 2 63) ≤ clock / 1000 ∧ clock / 1000 ≤ Int.pow 2 63 - 1) {s : Server σ}
    (timeout : s.timeoutMs ≠ 0) (pieces : List (List UInt8)) :
    (pieces.flatten = [] →
      s.serve t clock (.ofReads pieces) = (none, s) ∧
      (s.recording []).serve t.recorded clock (.ofReads pieces) = (none, s.recording [])) ∧
    (pieces.flatten ≠ [] → ∃ response desk runs,
      s.serve t clock (.ofReads pieces) =
        (some response.encode, { s with desk, served := s.served + 1 }) ∧
      (s.recording []).serve t.recorded clock (.ofReads pieces) =
        (some response.encode, Server.recording { s with desk, served := s.served + 1 } runs) ∧
      Response.decode (Text.utf8 response.encode) =
        .ok { response with outcome := response.outcome.reread } ∧
      Answered t clock s.desk pieces response desk runs ∧ runs.length ≤ 1) := by
  have timeout' : (s.recording []).timeoutMs ≠ 0 := timeout
  refine ⟨fun nothing => ?_, fun something => ?_⟩
  · have empty : Incoming.ofReads pieces = .empty := by
      rcases Incoming.ofReads_cases pieces with ⟨-, e⟩ | ⟨no, -⟩ | ⟨no, -⟩ | ⟨_, no, -⟩
      · exact e
      all_goals exact absurd nothing no
    rw [empty]
    unfold Server.serve
    rw [if_neg timeout, if_neg timeout']
    exact ⟨rfl, rfl⟩
  · obtain ⟨response, desk, runs, answered, reply, twin⟩ := @reply_answered _ t clock s.desk _ something
    obtain ⟨bounds, nested⟩ := answered.presentable results time
    exact ⟨response, desk, runs, Server.serve_of_reply timeout reply,
      Server.serve_of_reply timeout' twin, Response.decode_encode_reread bounds nested, answered,
      answered.runs_le⟩

/-- Three clients of a server that answers one method: one sends nothing, one the beginning of a
request, and one a whole request in two pieces. -/
theorem Server.serve_stream_ping :
    let ping : Handler Unit := fun _ d => (.done (.str "pong"), d)
    let t : HandlerTable Unit := ⟨[("ping", ping)], List.pairwise_singleton _ _⟩
    let s : Server Unit := ⟨⟨RateLimiter.new 0 5, ()⟩, 5000, true, 7, .socket openMode⟩
    let r : Request := ⟨"ping", .obj [], some "7"⟩
    let bytes := Text.utf8 r.encode
    let pieces := [bytes.take 9, bytes.drop 9]
    s.serve t 1700000000123 (.ofReads []) = (none, s) ∧
      (∃ (response : Response) (desk : Desk Unit),
        s.serve t 1700000000123 (.ofReads [[0x7B], [0x22]]) =
          (some response.encode, { s with desk, served := 8 }) ∧
        Response.decode (Text.utf8 response.encode) =
          .ok { response with outcome := response.outcome.reread }) ∧
      ∃ (response : Response) (desk : Desk Unit),
        s.serve t 1700000000123 (.ofReads pieces) =
          (some response.encode, { s with desk, served := 8 }) ∧
        (s.recording []).serve t.recorded 1700000000123 (.ofReads pieces) =
          (some response.encode, Server.recording { s with desk, served := 8 } [r]) ∧
        Response.decode (Text.utf8 response.encode) =
          .ok ⟨.result (.str "pong"), 1700000000, some "7"⟩ ∧
        Answered t 1700000000123 s.desk pieces response desk [r] := by
  intro ping t s r bytes pieces
  have results : t.Presentable := by
    intro name handler found r d result after run
    have same : (if name = "ping" then some ping else none) = some handler := by
      rw [← found]
      exact (lookup_cons_eq name "ping" ping []).symm
    split at same
    · obtain rfl := Option.some.inj same
      obtain ⟨pong, -⟩ := Prod.mk.inj run
      obtain rfl := Handled.done.inj pong
      exact ⟨trivial, by decide⟩
    · cases same
  have served := @Server.serve_stream _ t results 1700000000123 (by decide) s (by decide)
  refine ⟨((served []).1 rfl).1, ?_, ?_⟩
  · obtain ⟨response, desk, _, reply, -, read, -⟩ := (served [[0x7B], [0x22]]).2 (by decide)
    exact ⟨response, desk, reply, read⟩
  · have whole : pieces.flatten = bytes := by simp [pieces]
    obtain ⟨response, desk, runs, reply, twin, read, answered, -⟩ :=
      (served pieces).2 (by rw [whole]; decide +kernel)
    have plain : Json.Plain r.params := ⟨.nil, trivial⟩
    have decoded : Request.decode bytes = .ok r := by
      rw [Request.decode, Request.read_encode plain (by decide)]
      exact Request.ofJson_members (by decide) rfl
    have arrives : Incoming.ofReads pieces = .complete (.ok r) := by
      rw [← whole] at decoded
      exact Incoming.readOn_complete Request.decode_nil (by decide +kernel) decoded
        (by decide +kernel)
    let pong : Response := ⟨.result (.str "pong"), 1700000000, some "7"⟩
    have answer : (s.serve t 1700000000123 (.complete (.ok r))).1 = some pong.encode := rfl
    have recorded :
        ((s.recording []).serve t.recorded 1700000000123 (.complete (.ok r))).2.desk.state.2 =
          [r] := rfl
    rw [← arrives, reply] at answer
    rw [← arrives, twin] at recorded
    obtain rfl : runs = [r] := recorded
    have text : response.encode = pong.encode := Option.some.inj answer
    refine ⟨response, desk, reply, twin, ?_, answered⟩
    have bounds : pong.InBounds := ⟨trivial, by decide⟩
    rw [text, Response.decode_encode_reread bounds (by decide)]
    rfl

end HostWatch.Rpc
