import HostWatch.Console.CommandLine
import HostWatch.Proofs.Json.Objects
import HostWatch.Proofs.Rpc.Requests
import HostWatch.Proofs.Store.Rows

/-!
# Parameters that both sides understand

`params_understood`: the daemon reads the filter that the console was given, and the alerts that a
change is about, out of the request that the console writes.

1. Only what a filter sets is written, so a parameter is found just where it is set
   (`lookup_fieldMember`), and it is never `null`.
2. Each check of the daemon gives back what was written (`Request.filter_of_filterParams`,
   `Request.target_of_targetParams`).
3. Parameters are plain and shallow, so that every request of the console is read back from its text
   (`Command.decode_request`).
-/

namespace HostWatch

open Rpc (Request Refusal)

/-! ## Optional members -/

namespace Filter

theorem lookup_fieldMember (name : String) (toJson : α → Json) (a : Option α) (n : String) :
    (fieldMember name toJson a).reverse.lookup n = if n = name then a.map toJson else none := by
  cases a with
  | none =>
    show none = _
    split <;> rfl
  | some a => exact lookup_cons_eq n name (toJson a) []

theorem mem_fieldMember {name : String} {toJson : α → Json} {a : Option α} {m : Json.Member}
    (h : m ∈ fieldMember name toJson a) : ∃ x ∈ a, m = (name, toJson x) := by
  cases a with
  | none => cases h
  | some a => exact ⟨a, rfl, List.mem_singleton.1 h⟩

end Filter

namespace Console

/-! ## Filters -/

/-- The members of the parameters for a filter. -/
def filterMembers (f : Filter) : List Json.Member :=
  Filter.fieldMember "severity" (fun s => .str s.name) f.severity
    ++ Filter.fieldMember "category" (fun c => .str c.name) f.category
    ++ Filter.fieldMember "status" (fun s => .str s.name) f.status
    ++ Filter.fieldMember "source" .str f.source
    ++ Filter.fieldMember "include_dismissed" .bool (if f.includeDismissed then some true else none)
    ++ Filter.fieldMember "limit" (fun n : Nat => .int n) f.limit

theorem filterParams_eq (f : Filter) : filterParams f = .object (filterMembers f) := by
  unfold filterParams filterMembers
  cases f.includeDismissed <;> cases f.limit <;> rfl

theorem get?_filterParams (f : Filter) :
    (filterParams f).get? "severity" = f.severity.map (fun s => .str s.name) ∧
    (filterParams f).get? "category" = f.category.map (fun c => .str c.name) ∧
    (filterParams f).get? "status" = f.status.map (fun s => .str s.name) ∧
    (filterParams f).get? "source" = f.source.map .str ∧
    (filterParams f).get? "include_dismissed" =
      (if f.includeDismissed then some true else none).map .bool ∧
    (filterParams f).get? "limit" = f.limit.map fun n => .int n := by
  simp only [filterParams_eq, Json.get?_object, filterMembers, List.reverse_append,
    List.lookup_append, Filter.lookup_fieldMember]
  simp

theorem plain_filterParams {f : Filter} (fits : ∀ n ∈ f.limit, n < Nat.pow 2 64) :
    Json.Plain (filterParams f) ∧ Json.depth (filterParams f) ≤ 1 := by
  have scalar : ∀ m ∈ filterMembers f, Json.Plain m.2 ∧ Json.depth m.2 ≤ 0 := by
    intro m hm
    simp only [filterMembers, List.mem_append] at hm
    rcases hm with ((((hm | hm) | hm) | hm) | hm) | hm
    all_goals obtain ⟨x, hx, rfl⟩ := Filter.mem_fieldMember hm
    · exact ⟨trivial, Nat.le_refl 0⟩
    · exact ⟨trivial, Nat.le_refl 0⟩
    · exact ⟨trivial, Nat.le_refl 0⟩
    · exact ⟨trivial, Nat.le_refl 0⟩
    · exact ⟨trivial, Nat.le_refl 0⟩
    · have range : Json.minInt ≤ (x : Int) ∧ (x : Int) ≤ Json.maxInt := by
        have limits : Json.minInt = -9223372036854775808 ∧ Json.maxInt = 18446744073709551615 :=
          ⟨rfl, rfl⟩
        have power : Nat.pow 2 64 = 18446744073709551616 := rfl
        have := fits x hx
        omega
      exact ⟨range, Nat.le_refl 0⟩
  rw [filterParams_eq]
  exact ⟨Json.plain_object fun m hm => (scalar m hm).1,
    Json.depth_object_le fun m hm => (scalar m hm).2⟩

end Console

/-! ## Checks of the daemon -/

namespace Rpc.Request

variable {r : Request} {name : String}

/-- A parameter that was written, if it is no null, is the one that is found. -/
theorem param?_of_get? {a : Option α} {toJson : α → Json}
    (h : r.params.get? name = a.map toJson) (notNull : ∀ x, (toJson x).isNull = false) :
    r.param? name = a.map toJson := by
  rw [param?, h]
  cases a with
  | none => rfl
  | some x => exact Option.filter_some_pos (by rw [notNull]; rfl)

theorem text?_of_param? {a : Option String} (h : r.param? name = a.map .str) :
    r.text? name = .ok a := by
  unfold text?
  rw [h]
  cases a <;> rfl

theorem named?_of_param? {a : Option α} {text : α → String} {parse : String → Except UnknownName α}
    (h : r.param? name = a.map fun x => .str (text x)) (parsed : ∀ x, parse (text x) = .ok x) :
    r.named? name parse = .ok a := by
  have texts : r.text? name = .ok (a.map text) := by
    apply text?_of_param?
    rw [h, Option.map_map]
    rfl
  unfold named?
  rw [texts]
  cases a with
  | none => rfl
  | some x =>
    dsimp only [Option.map_some]
    rw [parsed]

theorem flag_of_param? {b : Bool} (h : r.param? name = (if b then some true else none).map .bool) :
    r.flag name = .ok b := by
  unfold flag
  rw [h]
  cases b <;> rfl

theorem natural?_of_param? {a : Option Nat} (h : r.param? name = a.map fun n => .int n) :
    r.natural? name = .ok a := by
  unfold natural?
  rw [h]
  cases a with
  | none => rfl
  | some n => rfl

/-- The parameters for a filter are read as the filter. -/
theorem filter_of_filterParams {f : Filter} (h : r.params = Console.filterParams f) :
    r.filter = .ok f := by
  obtain ⟨severity, category, status, source, dismissed, limit⟩ := Console.get?_filterParams f
  rw [← h] at severity category status source dismissed limit
  unfold filter
  rw [named?_of_param? (param?_of_get? severity fun _ => rfl) Severity.parse_name,
    named?_of_param? (param?_of_get? category fun _ => rfl) Category.parse_name,
    named?_of_param? (param?_of_get? status fun _ => rfl) Status.parse_name,
    text?_of_param? (param?_of_get? source fun _ => rfl),
    flag_of_param? (param?_of_get? dismissed fun _ => rfl),
    natural?_of_param? (param?_of_get? limit fun _ => rfl)]
  rfl

/-- The parameters for the alerts that a change is about are read as these alerts, unless the id
names none. -/
theorem target_of_targetParams {t : Target} (h : r.params = Console.targetParams t) :
    r.target = if t = .one "" then .error (.invalidParams "'id' must be a non-empty string")
      else .ok t := by
  cases t with
  | all =>
    have all : r.param? "all" = some (.bool true) := by
      rw [param?, h]
      rfl
    unfold target flag
    rw [all]
    rfl
  | one id =>
    have none : r.param? "all" = none := by
      rw [param?, h]
      rfl
    have named : r.param? "id" = some (.str id) := by
      rw [param?, h]
      rfl
    unfold target flag
    rw [none]
    dsimp only
    rw [named]
    dsimp only
    by_cases empty : id = ""
    · rw [if_pos (String.isEmpty_iff.2 empty), if_pos (congrArg Target.one empty)]
    · rw [if_neg (fun h => empty (String.isEmpty_iff.1 h)),
        if_neg (fun h => empty (Target.one.inj h))]

end Rpc.Request

namespace Console

/-! ## Requests of the console -/

/-- The limit that a command sets, if it lists alerts with one, has at most 64 bits. -/
def Command.Fits : Command → Prop
  | .alerts f => ∀ n ∈ f.limit, n < Nat.pow 2 64
  | _ => True

theorem Command.params_request {c : Command} (fits : c.Fits) :
    (∃ members, c.request.params = .obj members) ∧ Json.Plain c.request.params ∧
      Json.depth c.request.params ≤ 1 := by
  cases c with
  | alerts f => exact ⟨⟨_, rfl⟩, plain_filterParams fits⟩
  | acknowledge t | dismiss t =>
    cases t with
    | all => exact ⟨⟨_, rfl⟩, ⟨List.pairwise_singleton _ _, trivial, trivial⟩, Nat.le_refl 1⟩
    | one id => exact ⟨⟨_, rfl⟩, ⟨List.pairwise_singleton _ _, trivial, trivial⟩, Nat.le_refl 1⟩
  | _ => exact ⟨⟨_, rfl⟩, ⟨List.Pairwise.nil, trivial⟩, Nat.le_refl 1⟩

/-- **Requests.** The request of a command is read back from its text. -/
theorem Command.decode_request {c : Command} (fits : c.Fits) :
    Request.decode (Text.utf8 c.request.encode) = .ok c.request := by
  obtain ⟨⟨members, isObject⟩, plain, shallow⟩ := Command.params_request fits
  have named : c.request.method ≠ "" := by
    cases c <;> exact of_decide_eq_true rfl
  rw [Request.decode, Request.read_encode plain (Nat.le_trans shallow (by decide))]
  exact Request.ofJson_members named isObject

/-! ## Words of the command line -/

/-- A change is about one alert or about all of them, and not about both. -/
theorem Given.target_eq_ok (g : Given) {t : Target} : g.target = .ok t ↔
    (t = .all ∧ g.operand = none ∧ Flag.all ∈ g.flags) ∨
      ∃ id, t = .one id ∧ g.operand = some id ∧ Flag.all ∉ g.flags := by
  unfold target
  cases operand : g.operand with
  | none =>
    by_cases all : Flag.all ∈ g.flags
    · rw [decide_eq_true all]
      simp [all, eq_comm]
    · rw [decide_eq_false all]
      simp [all]
  | some id =>
    by_cases all : Flag.all ∈ g.flags
    · rw [decide_eq_true all]
      simp [all]
    · rw [decide_eq_false all]
      simp [all, eq_comm]

/-- A change is accepted where the alerts that it is about are. -/
theorem Verb.command_eq_ok {v : Verb} (change : v = .ack ∨ v = .dismiss) {g : Given} {c : Command} :
    v.command g = .ok c ↔
      ∃ t, g.target = .ok t ∧ c = if v = .ack then .acknowledge t else .dismiss t := by
  rcases change with rfl | rfl
  · show g.target.map Command.acknowledge = .ok c ↔ _
    cases g.target with
    | error e => simp [Except.map]
    | ok t => simp [Except.map, eq_comm]
  · show g.target.map Command.dismiss = .ok c ↔ _
    cases g.target with
    | error e => simp [Except.map]
    | ok t => simp [Except.map, eq_comm]

/-- Out of the request for a change the daemon reads which alerts it is about. -/
theorem Verb.target_decoded (v : Verb) {t : Target} {c : Command}
    (h : c = if v = .ack then .acknowledge t else .dismiss t) :
    ∃ r, Request.decode (Text.utf8 c.request.encode) = .ok r ∧
      r.target = if t = .one "" then .error (.invalidParams "'id' must be a non-empty string")
        else .ok t := by
  have fits : c.Fits := by
    rw [h]
    split <;> exact trivial
  have params : c.request.params = targetParams t := by
    rw [h]
    cases t <;> split <;> rfl
  exact ⟨c.request, Command.decode_request fits, Request.target_of_targetParams params⟩

/-- **Parameters.** Out of the request for alerts the daemon reads the filter that the console was
given. A command to acknowledge or dismiss alerts is accepted just where it is given an id or is to
change all of them, and not both; out of its request the daemon reads that all of them or which one
is meant, and it refuses an empty id. -/
theorem params_understood :
    (∀ f : Filter, (∀ n ∈ f.limit, n < Nat.pow 2 64) →
      ∃ r, Request.decode (Text.utf8 (Command.alerts f).request.encode) = .ok r ∧
        r.filter = .ok f) ∧
    ∀ (v : Verb) (g : Given), v = .ack ∨ v = .dismiss →
      ((∃ c, v.command g = .ok c) ↔ (g.operand.isSome ↔ Flag.all ∉ g.flags)) ∧
      ∀ c, v.command g = .ok c →
        ∃ r, Request.decode (Text.utf8 c.request.encode) = .ok r ∧
          (Flag.all ∈ g.flags → r.target = .ok .all) ∧
          (∀ id, g.operand = some id → id ≠ "" → r.target = .ok (.one id)) ∧
          (g.operand = some "" → ∃ why, r.target = .error why ∧ why.code = .invalidParams) := by
  refine ⟨fun f fits => ?_, fun v g change => ⟨?_, fun c accepted => ?_⟩⟩
  · exact ⟨(Command.alerts f).request, Command.decode_request (c := .alerts f) fits,
      Request.filter_of_filterParams rfl⟩
  · simp only [Verb.command_eq_ok change, Given.target_eq_ok]
    cases g.operand with
    | none => simp
    | some id => simp
  · obtain ⟨t, target, rfl⟩ := (Verb.command_eq_ok change).1 accepted
    obtain ⟨r, decoded, read⟩ := v.target_decoded rfl
    refine ⟨r, decoded, ?_⟩
    rcases (g.target_eq_ok).1 target with ⟨rfl, operand, all⟩ | ⟨id, rfl, operand, all⟩
    · rw [if_neg (by simp)] at read
      rw [operand]
      exact ⟨fun _ => read, nofun, nofun⟩
    · rw [operand]
      refine ⟨fun yes => absurd yes all, fun id' same named => ?_, fun same => ?_⟩
      · obtain rfl := Option.some.inj same
        rwa [if_neg fun h => named (Target.one.inj h)] at read
      · obtain rfl := Option.some.inj same
        rw [if_pos rfl] at read
        exact ⟨_, read, rfl⟩

/-- A filter that sets everything, with the greatest limit and a source that needs escapes, and one
alert named by words of the command line. -/
theorem params_understood_all :
    let f : Filter :=
      { severity := some .critical, category := some .aiAnalysis, status := some .dismissed
        source := some "a \"b\"\u0007 ключ", includeDismissed := true
        limit := some 18446744073709551615 }
    (∃ r, Request.decode (Text.utf8 (Command.alerts f).request.encode) = .ok r ∧
      r.filter = .ok f) ∧
    ∃ r, Request.decode (Text.utf8 (Command.dismiss (.one "0b9c")).request.encode) = .ok r ∧
      r.target = .ok (.one "0b9c") := by
  intro f
  obtain ⟨filters, targets⟩ := params_understood
  have fits : ∀ n ∈ f.limit, n < Nat.pow 2 64 := by
    intro n hn
    obtain rfl := Option.some.inj hn
    decide
  obtain ⟨_, read⟩ := targets .dismiss { operand := some "0b9c" } (.inr rfl)
  obtain ⟨r, decoded, _, one, _⟩ := read (.dismiss (.one "0b9c")) rfl
  exact ⟨filters f fits, r, decoded, one "0b9c" rfl (by decide)⟩

end Console

end HostWatch
