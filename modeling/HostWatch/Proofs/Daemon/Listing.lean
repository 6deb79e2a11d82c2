import HostWatch.Proofs.Console.Alerts

/-!
# Limits that the daemon takes and the table does not

`alerts_listed_iff`: a request for alerts whose parameters are accepted is answered with the alerts
that the store lists just if its limit is one that the table understands.
`alerts_refused_as_broken`: a limit of `2 ^ 63` is accepted and answered as if the store could not
be reached.

The parameters say no more on the limit than that it is a whole number and not negative
(`limit_of_filter`). A reachable store has its table, and every row of it is an alert, so that the
limit is all that a listing can fail on (`Store.Reachable.list_cases`).
-/

namespace HostWatch

open Rpc (HandlerTable Request Response)

/-- The response carries a result. -/
def Rpc.Response.Succeeds (r : Response) : Prop := ∃ value, r.outcome = .result value

/-! ## Limits -/

/-- The limit of a filter is the parameter of that name, if it is there. -/
theorem Rpc.Request.limit_of_filter {r : Request} {f : Filter} (h : r.filter = .ok f) :
    f.limit = (r.param? "limit").bind Json.nat? := by
  unfold filter at h
  obtain ⟨severity, -, h⟩ := Json.bind_eq_ok h
  obtain ⟨category, -, h⟩ := Json.bind_eq_ok h
  obtain ⟨status, -, h⟩ := Json.bind_eq_ok h
  obtain ⟨source, -, h⟩ := Json.bind_eq_ok h
  obtain ⟨dismissed, -, h⟩ := Json.bind_eq_ok h
  obtain ⟨limit, read, h⟩ := Json.bind_eq_ok h
  obtain rfl := Except.ok.inj h
  unfold natural? at read
  split at read
  · next absent =>
    rw [absent]
    exact (Except.ok.inj read).symm
  · next j present =>
    rw [present, Option.bind_some]
    split at read
    · next n number => exact (Except.ok.inj read).symm.trans number.symm
    · cases read

/-- Every limit is accepted, if nothing else is asked for. -/
theorem Rpc.Request.filter_of_limit (n : Nat) :
    (Console.Command.alerts { limit := some n }).request.filter = .ok { limit := some n } :=
  filter_of_filterParams rfl

/-- **Listing.** All that a reachable store can find wrong with a filter is its limit. -/
theorem Store.Reachable.list_cases {s : Store} (h : s.Reachable) (f : Filter) :
    (∀ n ∈ f.limit, n ≤ maxLimit) ∧ (∃ listed, s.list f = .ok listed) ∨
      (∃ n ∈ f.limit, maxLimit < n) ∧ s.list f = .error .limitTooLarge := by
  by_cases understood : ∀ n ∈ f.limit, n ≤ maxLimit
  · obtain ⟨listed, lists, -⟩ := h.list_timely understood
    exact .inl ⟨understood, listed, lists⟩
  · have beyond : ∃ n ∈ f.limit, maxLimit < n := by
      simpa only [not_forall, Nat.not_le, exists_prop] using understood
    obtain ⟨alerts, holds, -⟩ := h.holds
    refine .inr ⟨beyond, ?_⟩
    simp only [list, holds.table, if_pos beyond]

/-! ## Answers -/

namespace Daemon

/-- The answer to a request for more alerts than the table can count. -/
def tooManyAsked (now : Int) : Response :=
  .error now .resourceUnavailable "Alert store unavailable: database error: datatype mismatch"

variable {d : DaemonDesk} {r : Request} {f : Filter}

theorem listAlerts_of_error {e : StoreError} (accepted : r.filter = .ok f)
    (failed : d.state.store.list f = .error e) :
    listAlerts r d =
      (.refused (.unavailable ("Alert store unavailable: " ++ e.message)), d) := by
  show (Rpc.Handled.ofExcept (r.filter.bind fun filter => _), d) = _
  rw [accepted]
  dsimp only [Except.bind]
  rw [failed]
  rfl

/-- **Answers.** Every request for alerts whose parameters are accepted leaves the daemon as it is,
and whether it succeeds hangs on its limit alone: up to the largest that the table understands the
answer has the alerts that the store lists, and beyond it the store is said to be unavailable. -/
theorem alerts_listed_iff (stored : d.state.store.Reachable) (method : r.method = "alerts")
    (accepted : r.filter = .ok f) (now : Int) (file : FileContent) :
    let answer := (methods now file).answer now r d
    f.limit = (r.param? "limit").bind Json.nat? ∧ answer.2 = d ∧
      ((∀ n ∈ f.limit, n ≤ Store.maxLimit) → ∃ listed, d.state.store.list f = .ok listed ∧
        answer.1 = (alertsReply now listed).withId r.id) ∧
      ((∃ n ∈ f.limit, Store.maxLimit < n) → answer.1 = (tooManyAsked now).withId r.id) ∧
      (answer.1.Succeeds ↔ ∀ n ∈ f.limit, n ≤ Store.maxLimit) := by
  intro answer
  have found : (methods now file).get? r.method = some listAlerts :=
    method ▸ get?_methods_alerts now file
  have answered : answer = (((listAlerts r d).1.response now).withId r.id, (listAlerts r d).2) :=
    Rpc.answer_of_found found now
  refine ⟨Request.limit_of_filter accepted, ?_⟩
  rcases stored.list_cases f with ⟨understood, listed, lists⟩ | ⟨⟨n, hn, beyond⟩, failed⟩
  · rw [listAlerts_eq accepted lists] at answered
    have reply : answer.1 = (alertsReply now listed).withId r.id := congrArg Prod.fst answered
    refine ⟨congrArg Prod.snd answered, fun _ => ⟨listed, lists, reply⟩, ?_, fun _ => understood,
      fun _ => ⟨alertsJson listed, by rw [reply]; rfl⟩⟩
    rintro ⟨n, hn, beyond⟩
    exact absurd (understood n hn) (Nat.not_le_of_lt beyond)
  · rw [listAlerts_of_error accepted failed] at answered
    have reply : answer.1 = (tooManyAsked now).withId r.id := congrArg Prod.fst answered
    have not_understood : ¬ ∀ n ∈ f.limit, n ≤ Store.maxLimit :=
      fun understood => Nat.not_le_of_lt beyond (understood n hn)
    refine ⟨congrArg Prod.snd answered, fun understood => absurd understood not_understood,
      fun _ => reply, ?_, fun understood => absurd understood not_understood⟩
    rintro ⟨value, succeeded⟩
    rw [reply] at succeeded
    cases succeeded

/-- The desk of a standard daemon whose store is given one alert. -/
def loneDesk : DaemonDesk :=
  (Console.loneStation (.new 1700000000 .critical .disk "system_monitor" "disk full")).server.desk

theorem reachable_loneDesk : loneDesk.state.store.Reachable := Console.reachable_lone (by decide)

/-- The largest limit that is answered. -/
theorem alerts_listed_iff_largest :
    let r := (Console.Command.alerts { limit := some Store.maxLimit }).request
    let answer := (methods 1700000000 (.error .notFound)).answer 1700000000 r loneDesk
    loneDesk.state.store.Reachable ∧ r.method = "alerts" ∧
      r.filter = .ok { limit := some Store.maxLimit } ∧ answer.1.Succeeds := by
  intro r answer
  have accepted : r.filter = .ok { limit := some Store.maxLimit } :=
    Request.filter_of_limit Store.maxLimit
  obtain ⟨-, -, -, -, succeeds⟩ := alerts_listed_iff reachable_loneDesk (r := r) rfl accepted
    1700000000 (.error .notFound)
  refine ⟨reachable_loneDesk, rfl, accepted, succeeds.2 ?_⟩
  rintro n ⟨⟩
  exact Nat.le_refl _

/-- The next limit after it fits 64 bits and is accepted, and a store with one alert is said to be
unavailable. -/
theorem alerts_refused_as_broken :
    let r := (Console.Command.alerts { limit := some (Nat.pow 2 63) }).request
    loneDesk.state.store.Reachable ∧ Nat.pow 2 63 ≤ Nat.pow 2 64 - 1 ∧
      r.filter = .ok { limit := some (Nat.pow 2 63) } ∧
      ((methods 1700000000 (.error .notFound)).answer 1700000000 r loneDesk).1 =
        .error 1700000000 .resourceUnavailable
          "Alert store unavailable: database error: datatype mismatch" := by
  intro r
  have accepted : r.filter = .ok { limit := some (Nat.pow 2 63) } :=
    Request.filter_of_limit (Nat.pow 2 63)
  refine ⟨reachable_loneDesk, by decide, accepted, ?_⟩
  have found : (methods 1700000000 (.error .notFound)).get? r.method = some listAlerts :=
    get?_methods_alerts 1700000000 (.error .notFound)
  rcases reachable_loneDesk.list_cases { limit := some (Nat.pow 2 63) } with
    ⟨understood, -⟩ | ⟨-, failed⟩
  · exact absurd (understood (Nat.pow 2 63) rfl) (by decide)
  · rw [Rpc.answer_of_found found, listAlerts_of_error accepted failed]
    rfl

end Daemon

end HostWatch
