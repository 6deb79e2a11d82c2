import HostWatch.Proofs.Alert.Documents
import HostWatch.Proofs.Json.Records
import HostWatch.Proofs.Json.Yields

/-!
# Alerts are read back from their text

`Alert.alerts_read_back`: an alert whose moments are times is read back from its text; and whatever
text an alert was read from, writing it and reading it again gives the same alert.

1. The members that are written fill the record of an alert one after another
   (`Alert.fills_members`), a stamp only if it is there (`Alert.fills_timeMember`).
2. Only times are read as moments, from whatever text (`Alert.isTimely_of_decode`).
-/

namespace HostWatch

/-! ## Shapes of the fields -/

namespace Json

theorem takes_time {t : Int} (h : IsTime t) (room : Nat) :
    Takes (Shape.time.ofText room) (Text.utf8 (render (.int t))) t :=
  takes_number (inRange_of_isTime h) (if_pos h) timeName room

/-- A time is not mistaken for a time that is missing. -/
theorem takes_optional_time {t : Int} (h : IsTime t) (room : Nat) :
    Takes (Shape.time.optional.ofText room) (Text.utf8 (render (.int t))) (some t) := by
  have takes := takes_time h room
  obtain ⟨b, tail, begins, gap, -, letter⟩ := begins_render (.int t)
  have notNull : b ≠ 0x6E := fun null => nomatch (letter null).2
  rw [begins] at takes ⊢
  exact takes_optional gap notNull takes

theorem yields_time : Shape.time.Yields IsTime := by
  refine yields_number fun n a made => ?_
  cases n with
  | int n =>
    dsimp only at made
    split_ifs at made with time
    cases made
    exact time
  | float x => cases made

end Json

namespace Alert

open Json (Takes Fills Field Shape)

/-! ## What is written fills the record -/

theorem fills_timeMember (name : String) {get : Draft → Option (Option Int)}
    {set : Option Int → Draft → Draft}
    (named : record.fields.find? (·.name = name) =
      some (.of name true Shape.time.optional get set))
    {time : Option Int} (times : ∀ t ∈ time, IsTime t) {d : Draft} (missing : get d = none)
    (room : Nat) :
    Fills record room d (timeMember name time) (if time.isSome then set time d else d) := by
  cases time with
  | none => exact .done d
  | some t =>
    have taken := Json.takes_optional_time (times t rfl) room
    exact .field named (by simp [Field.of, missing]) (Json.takes_field taken) (.done _)

theorem fills_members {a : Alert} (h : a.IsTimely) (room : Nat) :
    ∃ d, Fills record (room + 1) {} a.members d ∧ record.finish d = .ok a := by
  have text (s : String) := Json.takes_text (room + 1) s
  have severity : Takes ((Shape.choice Severity.names).ofText (room + 1))
      (Text.utf8 (Json.render (.str a.severity.name))) a.severity :=
    Json.takes_choice (by cases a.severity <;> rfl) _
  have category : Takes ((Shape.choice Category.names).ofText (room + 1))
      (Text.utf8 (Json.render (.str a.category.name))) a.category :=
    Json.takes_choice (by cases a.category <;> rfl) _
  have status : Takes ((Shape.choice Status.names).ofText (room + 1))
      (Text.utf8 (Json.render (.str a.status.name))) a.status :=
    Json.takes_choice (by cases a.status <;> rfl) _
  have createdAt := Json.takes_time h.createdAt (room + 1)
  have metadata := Json.takes_textMap room a.metadata
  let always : Draft :=
    { id := some a.id, severity := some a.severity, category := some a.category
      source := some a.source, message := some a.message, description := some a.description
      createdAt := some a.createdAt, metadata := some a.metadata, status := some a.status }
  have first : Fills record (room + 1) {} [("id", .str a.id), ("severity", .str a.severity.name),
      ("category", .str a.category.name), ("source", .str a.source), ("message", .str a.message),
      ("description", .str a.description), ("created_at", .int a.createdAt),
      ("metadata", .obj (textMembers a.metadata)), ("status", .str a.status.name)] always :=
    .field rfl rfl (Json.takes_field (text _)) (.field rfl rfl (Json.takes_field severity)
      (.field rfl rfl (Json.takes_field category) (.field rfl rfl (Json.takes_field (text _))
        (.field rfl rfl (Json.takes_field (text _)) (.field rfl rfl (Json.takes_field (text _))
          (.field rfl rfl (Json.takes_field createdAt) (.field rfl rfl (Json.takes_field metadata)
            (.field rfl rfl (Json.takes_field status) (.done _)))))))))
  have acknowledged := first.append
    (fills_timeMember "acknowledged_at" rfl h.acknowledgedAt rfl (room + 1))
  have dismissed := acknowledged.append
    (fills_timeMember "dismissed_at" rfl h.dismissedAt (by split <;> rfl) (room + 1))
  refine ⟨_, dismissed, ?_⟩
  obtain ⟨_, _, _, _, _, _, _, _, _, acknowledgedAt, dismissedAt⟩ := a
  cases acknowledgedAt <;> cases dismissedAt <;> rfl

theorem decode_encode_timely {a : Alert} (h : a.IsTimely) : decode (Text.utf8 a.encode) = .ok a := by
  obtain ⟨d, fills, full⟩ := fills_members h 125
  exact Json.read_record fills full

/-! ## What is read has times for moments -/

/-- The moments that have been read are times. -/
structure Draft.IsTimely (d : Draft) : Prop where
  createdAt : ∀ t ∈ d.createdAt, IsTime t
  acknowledgedAt : ∀ o ∈ d.acknowledgedAt, ∀ t ∈ o, IsTime t
  dismissedAt : ∀ o ∈ d.dismissedAt, ∀ t ∈ o, IsTime t

/-- Any shape will do for a field that is no moment. -/
theorem keeps_other {shape : Shape β} {name : String} {mayEnd : Bool} {get : Draft → Option β}
    {set : β → Draft → Draft} (createdAt : ∀ b d, (set b d).createdAt = d.createdAt)
    (acknowledgedAt : ∀ b d, (set b d).acknowledgedAt = d.acknowledgedAt)
    (dismissedAt : ∀ b d, (set b d).dismissedAt = d.dismissedAt) :
    (Field.of name mayEnd shape get set).Keeps Draft.IsTimely :=
  Json.keeps_field (P := fun _ => True) (fun _ _ _ _ _ => trivial) fun b d _ h =>
    ⟨createdAt b d ▸ h.createdAt, acknowledgedAt b d ▸ h.acknowledgedAt,
      dismissedAt b d ▸ h.dismissedAt⟩

theorem keeps_isTimely : ∀ field ∈ record.fields, field.Keeps Draft.IsTimely := by
  intro field h
  simp only [record, List.mem_cons, List.not_mem_nil, or_false] at h
  rcases h with rfl | rfl | rfl | rfl | rfl | rfl | rfl | rfl | rfl | rfl | rfl
  case inr.inr.inr.inr.inr.inr.inl =>
    exact Json.keeps_field Json.yields_time fun t d time h =>
      { h with createdAt := fun _ ht => Option.some.inj ht ▸ time }
  case inr.inr.inr.inr.inr.inr.inr.inr.inr.inl =>
    exact Json.keeps_field (Json.yields_optional Json.yields_time) fun o d times h =>
      { h with acknowledgedAt := fun _ ho => Option.some.inj ho ▸ times }
  case inr.inr.inr.inr.inr.inr.inr.inr.inr.inr =>
    exact Json.keeps_field (Json.yields_optional Json.yields_time) fun o d times h =>
      { h with dismissedAt := fun _ ho => Option.some.inj ho ▸ times }
  all_goals exact keeps_other (fun _ _ => rfl) (fun _ _ => rfl) (fun _ _ => rfl)

theorem required_eq_ok {name : String} {o : Option β} {b : β}
    (h : Json.required name o = .ok b) : o = some b := by
  cases o with
  | none => cases h
  | some x => exact congrArg some (Except.ok.inj h)

theorem isTimely_of_finish {d : Draft} {a : Alert} (h : d.IsTimely)
    (full : record.finish d = .ok a) : a.IsTimely := by
  obtain ⟨_, -, full⟩ := Json.bind_eq_ok full
  obtain ⟨_, -, full⟩ := Json.bind_eq_ok full
  obtain ⟨_, -, full⟩ := Json.bind_eq_ok full
  obtain ⟨_, -, full⟩ := Json.bind_eq_ok full
  obtain ⟨createdAt, given, full⟩ := Json.bind_eq_ok full
  obtain ⟨_, -, full⟩ := Json.bind_eq_ok full
  obtain rfl := Except.ok.inj full
  have joined {o : Option (Option Int)} (times : ∀ x ∈ o, ∀ t ∈ x, IsTime t) :
      ∀ t ∈ o.join, IsTime t := fun t ht => times _ (Option.join_eq_some_iff.1 ht) t rfl
  exact ⟨h.createdAt _ (required_eq_ok given), joined h.acknowledgedAt, joined h.dismissedAt⟩

/-- The moments of an alert that was read are times. -/
theorem isTimely_of_decode {bytes : List UInt8} {a : Alert} (h : decode bytes = .ok a) :
    a.IsTimely :=
  (Json.yields_record ⟨nofun, nofun, nofun⟩ keeps_isTimely
    fun _ _ => isTimely_of_finish).of_read h

/-- **Alerts.** An alert is read back from its text as it was, whatever it says and wherever it
stands in its life, if its moments are times; and the alert that was read from any text comes back
when it is written and read again. -/
theorem alerts_read_back :
    (∀ a : Alert, a.IsTimely → decode (Text.utf8 a.encode) = .ok a) ∧
      ∀ bytes a, decode bytes = .ok a → decode (Text.utf8 a.encode) = .ok a :=
  ⟨fun _ => decode_encode_timely, fun _ _ h => decode_encode_timely (isTimely_of_decode h)⟩

theorem eq_ok_of_toOption {e : Except ε β} {b : β} (h : e.toOption = some b) : e = .ok b := by
  cases e with
  | ok x => exact congrArg Except.ok (Option.some.inj h)
  | error x => cases h

/-- An alert at the earliest moment that was dismissed and never acknowledged, with a metadata name
and a text that need escapes; and a text with its fields in another order, an unknown one among
them, some missing, and a metadata name given twice. -/
theorem alerts_read_back_unusual :
    let a : Alert :=
      { Alert.new earliestTime .warning .aiAnalysis "tests" "it said \"no\"\n" with
        metadata := .ofList [("tab\t", "\u0001"), ("", "😀")]
        status := .dismissed, dismissedAt := some latestTime }
    let text := "\x7b\"status\": \"active\", \"extra\": [null, 1e9], \"created_at\": -1, " ++
      "\"metadata\": \x7b\"k\": \"1\", \"k\": \"\\u00e9\"\x7d, \"severity\": \x7b\"info\": null\x7d, " ++
      "\"acknowledged_at\": null, \"category\": \"disk\", \"source\": \"\", \"message\": \"m\"\x7d"
    let b : Alert :=
      { Alert.new (-1) .info .disk "" "m" with metadata := .ofList [("k", "é")] }
    a.IsTimely ∧ decode (Text.utf8 a.encode) = .ok a ∧
      decode (Text.utf8 text) = .ok b ∧ decode (Text.utf8 b.encode) = .ok b := by
  intro a text b
  have times : a.IsTimely := ⟨by decide, nofun, by rintro _ ⟨⟩; decide⟩
  have read : decode (Text.utf8 text) = .ok b := eq_ok_of_toOption (by decide +kernel)
  exact ⟨times, alerts_read_back.1 a times, read, alerts_read_back.2 _ b read⟩

end Alert

end HostWatch
