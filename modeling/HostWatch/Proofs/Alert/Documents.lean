import HostWatch.Proofs.Json.Objects
import HostWatch.Proofs.Json.PlainTexts
import HostWatch.Proofs.Store.Rows

/-!
# Alerts in documents

`Alert.ofJson_toJsons`: alerts are read from the JSON values that stand for them; and these values
are plain and shallow (`plain_toJsons`), so that they come through a text unchanged.

The members of such a value are in the order of their names (`toJson_eq`). `Gathers` says what
members do to a draft of a record, one after another, so that a record is read from them if they
fill the draft (`ofJson_record`).
-/

namespace HostWatch

/-! ## Records from members -/

namespace Json

section Members

variable {δ α : Type} (r : Record δ α) (source : Source)

/-- The members make the second draft of the first one, each by the field that it names. -/
inductive Gathers : δ → List Member → δ → Prop where
  | done (d : δ) : Gathers d [] d
  | field {d d₁ d₂ : δ} {name : String} {j : Json} {ms : List Member} {field : Field δ}
    (named : r.fields.find? (·.name = name) = some field) (read : field.ofJson source j d = .ok d₁)
    (others : Gathers d₁ ms d₂) : Gathers d ((name, j) :: ms) d₂

variable {r source} {d d₁ d₂ : δ} {ms more : List Member}

theorem Gathers.append (h : Gathers r source d ms d₁) (h' : Gathers r source d₁ more d₂) :
    Gathers r source d (ms ++ more) d₂ := by
  induction h with
  | done d => exact h'
  | field named read _ ih => exact .field named read (ih h')

theorem Gathers.fieldsOfMembers (h : Gathers r source d ms d₁) :
    r.fieldsOfMembers source ms d = .ok d₁ := by
  induction h with
  | done d => rfl
  | field named read _ ih =>
    rw [Record.fieldsOfMembers, named]
    dsimp only
    rw [read]
    exact ih

/-- A record is read from members that make a full draft. -/
theorem ofJson_record {a : α} (h : Gathers r source r.start ms d) (full : r.finish d = .ok a) :
    r.shape.ofJson source (.obj ms) = .ok a := by
  show (r.fieldsOfMembers source ms r.start).bind r.finish = _
  rw [h.fieldsOfMembers]
  exact full

theorem ofJson_field {β : Type} {shape : Shape β} {j : Json} {b : β}
    (h : shape.ofJson source j = .ok b) {name : String} {mayEnd : Bool} {get : δ → Option β}
    {set : β → δ → δ} : (Field.of name mayEnd shape get set).ofJson source j d = .ok (set b d) := by
  show (shape.ofJson source j).map _ = _
  rw [h]
  rfl

end Members

end Json

/-! ## Shapes of the fields -/

namespace Json

theorem ofJson_time {t : Int} (h : IsTime t) (source : Source) :
    Shape.time.ofJson source (.int t) = .ok t := if_pos h

theorem inRange_of_isTime {t : Int} (h : IsTime t) : minInt ≤ t ∧ t ≤ maxInt :=
  have limits : minInt ≤ earliestTime ∧ latestTime ≤ maxInt := by decide
  ⟨limits.1.trans h.1, h.2.trans limits.2⟩

theorem ofJson_list {shape : Shape α} {toJson : α → Json} {as : List α} {source : Source}
    (h : ∀ a ∈ as, shape.ofJson source (toJson a) = .ok a) :
    shape.list.ofJson source (.arr (as.map toJson)) = .ok as := mapM_map_ok h

theorem ofJson_textMap (m : NameMap String) (source : Source) :
    Shape.textMap.ofJson source (.obj (Alert.textMembers m)) = .ok m := by
  have read : ((m.entries.map fun e => (e.1, Json.str e.2)).mapM fun e =>
      (Shape.string.ofJson source e.2).map (e.1, ·)) = .ok m.entries := mapM_map_ok fun _ _ => rfl
  show Except.map NameMap.ofList (List.mapM _ (m.entries.map fun e => (e.1, Json.str e.2))) = _
  rw [read]
  exact congrArg Except.ok (NameMap.ofList_entries m)

theorem ofJson_optional_time {t : Int} (h : IsTime t) (source : Source) :
    (Shape.optional Shape.time).ofJson source (.int t) = .ok (some t) := by
  show (Shape.time.ofJson source (.int t)).map some = _
  rw [ofJson_time h]
  rfl

end Json

namespace Alert

/-- The members of an alert in the order of their names. -/
def sortedMembers (a : Alert) : List Json.Member :=
  timeMember "acknowledged_at" a.acknowledgedAt
    ++ [("category", Json.str a.category.name), ("created_at", Json.int a.createdAt),
      ("description", Json.str a.description)]
    ++ timeMember "dismissed_at" a.dismissedAt
    ++ [("id", Json.str a.id), ("message", Json.str a.message),
      ("metadata", Json.obj (textMembers a.metadata)), ("severity", Json.str a.severity.name),
      ("source", Json.str a.source), ("status", Json.str a.status.name)]

theorem toJson_eq (a : Alert) : a.toJson = .obj a.sortedMembers := by
  unfold toJson Json.object members sortedMembers
  cases a.acknowledgedAt <;> cases a.dismissedAt <;>
    simp only [timeMember, putEntries, putEntry, List.cons_append, List.nil_append,
      List.append_nil, List.foldl_cons, List.foldl_nil, String.reduceEq, String.reduceLT, reduceIte]

section Read

variable {a : Alert} (h : a.IsTimely) (src : Json.Source)

include h

theorem gathers_acknowledgedAt {d : Draft} (missing : d.acknowledgedAt = none) :
    Json.Gathers record src d (timeMember "acknowledged_at" a.acknowledgedAt)
      { d with acknowledgedAt := a.acknowledgedAt.map some } := by
  cases acknowledged : a.acknowledgedAt with
  | none =>
    cases d
    cases missing
    exact .done _
  | some t =>
    have read := Json.ofJson_optional_time (h.acknowledgedAt t acknowledged) src
    exact .field rfl (Json.ofJson_field read) (.done _)

theorem gathers_dismissedAt {d : Draft} (missing : d.dismissedAt = none) :
    Json.Gathers record src d (timeMember "dismissed_at" a.dismissedAt)
      { d with dismissedAt := a.dismissedAt.map some } := by
  cases dismissed : a.dismissedAt with
  | none =>
    cases d
    cases missing
    exact .done _
  | some t =>
    have read := Json.ofJson_optional_time (h.dismissedAt t dismissed) src
    exact .field rfl (Json.ofJson_field read) (.done _)

/-- **Alerts.** An alert is read from the value that stands for it. -/
theorem ofJson_toJson : record.shape.ofJson src a.toJson = .ok a := by
  have text (s : String) : Json.Shape.string.ofJson src (.str s) = .ok s := rfl
  have severity : (Json.Shape.choice Severity.names).ofJson src (.str a.severity.name) =
      .ok a.severity := by
    cases a.severity <;> rfl
  have category : (Json.Shape.choice Category.names).ofJson src (.str a.category.name) =
      .ok a.category := by
    cases a.category <;> rfl
  have status : (Json.Shape.choice Status.names).ofJson src (.str a.status.name) =
      .ok a.status := by
    cases a.status <;> rfl
  have createdAt := Json.ofJson_time h.createdAt src
  have metadata := Json.ofJson_textMap a.metadata src
  have early : Json.Gathers record src { acknowledgedAt := a.acknowledgedAt.map some }
      [("category", .str a.category.name), ("created_at", .int a.createdAt),
        ("description", .str a.description)]
      { acknowledgedAt := a.acknowledgedAt.map some, category := some a.category
        createdAt := some a.createdAt, description := some a.description } :=
    .field rfl (Json.ofJson_field category) (.field rfl (Json.ofJson_field createdAt)
      (.field rfl (Json.ofJson_field (text _)) (.done _)))
  have late (d : Draft) : Json.Gathers record src d
      [("id", .str a.id), ("message", .str a.message), ("metadata", .obj (textMembers a.metadata)),
        ("severity", .str a.severity.name), ("source", .str a.source),
        ("status", .str a.status.name)]
      { d with
        id := some a.id, message := some a.message, metadata := some a.metadata
        severity := some a.severity, source := some a.source, status := some a.status } :=
    .field rfl (Json.ofJson_field (text _)) (.field rfl (Json.ofJson_field (text _))
      (.field rfl (Json.ofJson_field metadata) (.field rfl (Json.ofJson_field severity)
        (.field rfl (Json.ofJson_field (text _))
          (.field rfl (Json.ofJson_field status) (.done _))))))
  have first := (gathers_acknowledgedAt h src (d := {}) rfl).append early
  have gathers := (first.append (gathers_dismissedAt h src rfl)).append (late _)
  rw [toJson_eq]
  refine Json.ofJson_record gathers ?_
  obtain ⟨_, _, _, _, _, _, _, _, _, acknowledgedAt, dismissedAt⟩ := a
  cases acknowledgedAt <;> cases dismissedAt <;> rfl

end Read

/-! ## Plain values -/

theorem plain_textMembers (m : NameMap String) :
    Json.Plain (.obj (textMembers m)) ∧ Json.depth (.obj (textMembers m)) ≤ 1 := by
  have texts : ∀ member ∈ textMembers m, Json.Plain member.2 ∧ Json.depth member.2 ≤ 0 := by
    intro member hm
    obtain ⟨e, -, rfl⟩ := List.mem_map.1 hm
    exact ⟨trivial, Nat.le_refl 0⟩
  refine ⟨⟨List.pairwise_map.2 m.sorted, Json.plainMembers_iff.2 fun e he => (texts e he).1⟩, ?_⟩
  exact Nat.succ_le_succ (Json.depthMembers_le_iff.2 fun e he => (texts e he).2)

theorem plain_timeMember {name : String} {time : Option Int} (h : ∀ t ∈ time, IsTime t) :
    ∀ m ∈ timeMember name time, Json.Plain m.2 ∧ Json.depth m.2 ≤ 1 := by
  intro m hm
  cases time with
  | none => cases hm
  | some t =>
    obtain rfl := List.mem_singleton.1 hm
    exact ⟨Json.inRange_of_isTime (h t rfl), Nat.zero_le _⟩

theorem plain_toJson {a : Alert} (h : a.IsTimely) :
    Json.Plain a.toJson ∧ Json.depth a.toJson ≤ 2 := by
  have shallow : ∀ m ∈ a.members, Json.Plain m.2 ∧ Json.depth m.2 ≤ 1 := by
    have metadata := plain_textMembers a.metadata
    have createdAt := Json.inRange_of_isTime h.createdAt
    intro m hm
    rw [members, List.append_assoc, List.mem_append, List.mem_append] at hm
    rcases hm with hm | hm | hm
    · simp only [List.mem_cons, List.not_mem_nil, or_false] at hm
      rcases hm with rfl | rfl | rfl | rfl | rfl | rfl | rfl | rfl | rfl
      case inr.inr.inr.inr.inr.inr.inl => exact ⟨createdAt, Nat.zero_le _⟩
      case inr.inr.inr.inr.inr.inr.inr.inl => exact metadata
      all_goals exact ⟨trivial, Nat.zero_le _⟩
    · exact plain_timeMember h.acknowledgedAt m hm
    · exact plain_timeMember h.dismissedAt m hm
  exact ⟨Json.plain_object fun m hm => (shallow m hm).1,
    Json.depth_object_le fun m hm => (shallow m hm).2⟩

theorem length_description_le (a : Alert) :
    a.description.length + 2 ≤ (Text.utf8 (Json.render a.toJson)).length := by
  rw [toJson_eq]
  have member : ("description", Json.str a.description) ∈ a.sortedMembers := by
    simp [sortedMembers]
  have alone := Json.length_str_le a.description
  have inside := Json.length_member_le member
  exact alone.trans inside

/-! ## Lists of alerts -/

theorem plain_toJsons {alerts : List Alert} (times : ∀ a ∈ alerts, a.IsTimely) :
    Json.Plain (.arr (alerts.map toJson)) ∧ Json.depth (.arr (alerts.map toJson)) ≤ 3 := by
  have each : ∀ j ∈ alerts.map toJson, Json.Plain j ∧ Json.depth j ≤ 2 := by
    intro j hj
    obtain ⟨a, ha, rfl⟩ := List.mem_map.1 hj
    exact plain_toJson (times a ha)
  exact ⟨Json.plainItems_iff.2 fun j hj => (each j hj).1,
    Nat.succ_le_succ (Json.depthItems_le_iff.2 fun j hj => (each j hj).2)⟩

theorem ofJson_toJsons {alerts : List Alert} (times : ∀ a ∈ alerts, a.IsTimely)
    (src : Json.Source) :
    record.shape.list.ofJson src (.arr (alerts.map toJson)) = .ok alerts :=
  Json.ofJson_list fun a ha => ofJson_toJson (times a ha) src

end Alert

end HostWatch
