import HostWatch.Proofs.Json.CutNumbers
import HostWatch.Proofs.Json.Literals

/-!
# Whole numbers inside a text

`readWritten` reads a value but keeps a whole number as it is written; `membersAsWritten` reads the
object of a text so. What `read` makes of the text is what it makes of these members one by one
(`read_object_iff`).

1. Digits behind which neither a point nor an exponent stands are a literal (`Cursor.literal?`). A
   value that begins so is read as that literal is (`readValue_of_literal?`).
2. Two readers agree if the one reads what the other makes of what it reads (`Agrees`). The readers
   of a value agree, hence those of a member and those of all members, by induction along the text.
3. A literal that was kept stands in the text (`membersAsWritten_stands`).
-/

namespace HostWatch.Json

/-! ## Literals at a cursor -/

/-- Neither a point nor the letter of an exponent stands at the cursor. -/
def Cursor.EndsWhole (c : Cursor) : Prop := c.peek? ≠ some 0x2E ∧ NoExponent c

instance : DecidablePred Cursor.EndsWhole := fun _ =>
  inferInstanceAs (Decidable (_ ≠ _ ∧ _ ≠ _ ∧ _ ≠ _))

/-- The cursor behind a minus, if there is one. -/
def Cursor.behindMinus (c : Cursor) : Bool × Cursor :=
  if c.peek? = some 0x2D then (true, c.advance) else (false, c)

/-- The whole number that stands at the cursor, and the cursor after it. -/
def Cursor.literal? (c : Cursor) : Option (Literal × Cursor) :=
  let (negative, front) := c.behindMinus
  let (ds, after) := front.digits
  if leading : LeadingDigits ds then
    if after.EndsWhole then some (⟨negative, ds, leading⟩, after) else none
  else none

theorem literal?_eq_some {c after : Cursor} {l : Literal} (h : c.literal? = some (l, after)) :
    ∃ front, c.behindMinus = (l.negative, front) ∧ front.digits = (l.digits, after) ∧
      after.EndsWhole := by
  unfold Cursor.literal? at h
  dsimp only at h
  split_ifs at h with leading whole
  obtain ⟨rfl, rfl⟩ := Prod.mk.inj (Option.some.inj h)
  exact ⟨_, rfl, rfl, whole⟩

/-- A whole number is read as its digits are. -/
theorem readNumber_of_endsWhole {c after : Cursor} {ds : List Nat} (digits : c.digits = (ds, after))
    (leading : LeadingDigits ds) (whole : after.EndsWhole) (positive : Bool) :
    readNumber positive c =
      match numberOf? positive ds with
      | some n => .ok (n, after)
      | none => after.fail .numberOutOfRange := by
  rw [readNumber_of_digits digits leading.ne_nil leading.zero_alone whole.2, if_neg whole.1, numberOf?]
  dsimp only
  split_ifs with all
  · rfl
  · unfold finishFloat
    cases floatOfParts positive _ _ <;> rfl

theorem digitsFrom_stands {rest : List UInt8} {place : Place} {ds : List Nat} {c : Cursor}
    (h : digitsFrom rest place = (ds, c)) : rest = numeralBytes ds ++ c.rest := by
  induction rest generalizing place ds with
  | nil =>
    obtain ⟨rfl, rfl⟩ := Prod.mk.inj h
    rfl
  | cons b rest ih =>
    rw [digitsFrom] at h
    split at h
    · obtain ⟨rfl, rfl⟩ := Prod.mk.inj h
      rfl
    · next d digit =>
      obtain ⟨rfl, rfl⟩ := Prod.mk.inj h
      have same : digitByte d = b := by
        unfold digitValue? at digit
        split_ifs at digit with range
        obtain rfl := Option.some.inj digit
        have low : 0x30 ≤ b.toNat := UInt8.le_iff_toNat_le.1 range.1
        rw [digitByte, show 48 + (b.toNat - 0x30) = b.toNat by omega, UInt8.ofNat_toNat]
      rw [numeralBytes, List.map_cons, same, List.cons_append]
      exact congrArg (b :: ·) (ih rfl)

/-- The text of a literal stands where it was read. -/
theorem literal?_stands {c after : Cursor} {l : Literal} (h : c.literal? = some (l, after)) :
    c.rest = Text.utf8 l.text ++ after.rest := by
  obtain ⟨front, sign, digits, -⟩ := literal?_eq_some h
  have behind : front.rest = numeralBytes l.digits ++ after.rest := digitsFrom_stands digits
  unfold Cursor.behindMinus at sign
  rw [Literal.utf8_text, List.append_assoc, ← behind]
  split_ifs at sign with minus
  · obtain ⟨negative, rfl⟩ := Prod.mk.inj sign
    rw [← negative, rest_of_peek? minus]
    rfl
  · obtain ⟨negative, rfl⟩ := Prod.mk.inj sign
    rw [← negative]
    rfl

/-- A whole number is read as its literal is. -/
theorem readValue_of_literal? {room : Nat} {c after : Cursor} {l : Literal}
    (h : c.skipGap.literal? = some (l, after)) :
    readValue room c =
      match l.number? with
      | some n => .ok (n.toJson, after)
      | none => after.fail .numberOutOfRange := by
  have stands := literal?_stands h
  obtain ⟨front, sign, digits, whole⟩ := literal?_eq_some h
  have number := readNumber_of_endsWhole digits l.leading whole (!l.negative)
  have value : readValue room c =
      (readNumber (!l.negative) front).map fun read => (read.1.toJson, read.2) := by
    unfold Cursor.behindMinus at sign
    split_ifs at sign with minus
    · obtain ⟨negative, rfl⟩ := Prod.mk.inj sign
      rw [← negative]
      exact readValue_of_minus minus
    · obtain ⟨negative, rfl⟩ := Prod.mk.inj sign
      rw [Literal.utf8_text, ← negative, if_neg Bool.false_ne_true, List.nil_append] at stands
      obtain ⟨d, hd, first⟩ := l.leading.head?_numeralBytes after.rest
      rw [← stands] at first
      rw [← negative]
      exact readValue_of_digit hd first
  rw [value, number, ← Literal.number?]
  cases l.number? <;> rfl

/-! ## Values and members as they are written -/

/-- A whole number as it is written, or any other value as it is read. -/
inductive Written where
  | whole (literal : Literal)
  | other (value : Json)

/-- What is read of it; a whole number may be too large. -/
def Written.value? : Written → Option Json
  | .whole l => l.number?.map Number.toJson
  | .other j => some j

/-- Reads a value, and keeps a whole number as it is written. -/
def readWritten (room : Nat) (c : Cursor) : Step Written :=
  match c.skipGap.literal? with
  | some (l, after) => .ok (.whole l, after)
  | none => (readValue room c).map fun (j, c) => (.other j, c)

/-- The name of a member with what `make` makes of its value. -/
def makeMember? (make : α → Option β) (e : String × α) : Option (String × β) :=
  (make e.2).map (e.1, ·)

/-- A name with a value as it is written. -/
abbrev WrittenMember := String × Written

/-- What is read of a member. -/
def WrittenMember.member? : WrittenMember → Option Member := makeMember? Written.value?

/-- The members of the object that a text is, as they are written. -/
def membersAsWritten (bytes : List UInt8) : Except Failure (List WrittenMember) :=
  let c := (Cursor.start bytes).skipGap
  finish <|
    if c.peek? = some 0x7B then readMembers (readWritten (maxDepth - 1)) c.rest true c.advance
    else c.failAhead .expectedValue

/-! ## Readers that agree -/

/-- The reader `g` gives what `make` makes of what the reader `f` gives. -/
def Agrees (g : Cursor → Step β) (f : Cursor → Step α) (make : α → Option β) : Prop :=
  ∀ c b c', g c = .ok (b, c') ↔ ∃ a, f c = .ok (a, c') ∧ make a = some b

theorem agrees_readValue (room : Nat) :
    Agrees (readValue room) (readWritten room) Written.value? := by
  intro c j c'
  unfold readWritten
  split
  · next l after literal =>
    rw [readValue_of_literal? literal]
    constructor
    · intro h
      split at h
      · next n read =>
        obtain ⟨rfl, rfl⟩ := Prod.mk.inj (Except.ok.inj h)
        exact ⟨.whole l, rfl, congrArg (Option.map Number.toJson) read⟩
      · cases h
    · rintro ⟨w, kept, made⟩
      obtain ⟨rfl, rfl⟩ := Prod.mk.inj (Except.ok.inj kept)
      obtain ⟨n, read, rfl⟩ := Option.map_eq_some_iff.1 made
      rw [read]
  · constructor
    · intro h
      exact ⟨.other j, by rw [h]; rfl, rfl⟩
    · rintro ⟨w, kept, made⟩
      obtain ⟨⟨j', c₁⟩, read, same⟩ := map_eq_ok kept
      obtain ⟨rfl, rfl⟩ := Prod.mk.inj same
      obtain rfl := Option.some.inj made
      exact read

section Agrees

variable {g : Cursor → Step β} {f : Cursor → Step α} {make : α → Option β}

theorem Agrees.readMember (h : Agrees g f make) :
    Agrees (readMember g) (readMember f) (makeMember? make) := by
  intro c m c'
  rw [readMember_eq, readMember_eq]
  constructor
  · intro read
    obtain ⟨⟨name, c₁⟩, string, read⟩ := bind_eq_ok read
    obtain ⟨c₂, colon, read⟩ := bind_eq_ok read
    obtain ⟨⟨b, c₃⟩, value, same⟩ := map_eq_ok read
    obtain ⟨rfl, rfl⟩ := Prod.mk.inj same
    obtain ⟨a, kept, made⟩ := (h _ _ _).1 value
    refine ⟨(name, a), ?_, congrArg (Option.map (name, ·)) made⟩
    simp only [string, Except.bind, colon, kept, Except.map]
  · rintro ⟨e, read, made⟩
    obtain ⟨⟨name, c₁⟩, string, read⟩ := bind_eq_ok read
    obtain ⟨c₂, colon, read⟩ := bind_eq_ok read
    obtain ⟨⟨a, c₃⟩, kept, same⟩ := map_eq_ok read
    obtain ⟨rfl, rfl⟩ := Prod.mk.inj same
    obtain ⟨b, given, rfl⟩ : ∃ b, make a = some b ∧ (name, b) = m := Option.map_eq_some_iff.1 made
    have value := (h _ _ _).2 ⟨a, kept, given⟩
    simp only [string, Except.bind, colon, value, Except.map]

theorem Agrees.readMembers (h : Agrees g f make) (bound : List UInt8) (first : Bool) :
    Agrees (readMembers g bound first) (readMembers f bound first)
      (List.mapM (makeMember? make)) := by
  induction bound generalizing first with
  | nil => exact fun c ms c' => ⟨nofun, fun ⟨_, read, _⟩ => nomatch read⟩
  | cons x bound ih =>
    intro c ms c'
    rw [readMembers_cons, readMembers_cons]
    constructor
    · intro read
      obtain ⟨⟨goes, c₁⟩, next, read⟩ := bind_eq_ok read
      cases goes with
      | false =>
        obtain ⟨rfl, rfl⟩ := Prod.mk.inj (Except.ok.inj read)
        exact ⟨[], by rw [next]; rfl, rfl⟩
      | true =>
        obtain ⟨⟨m, c₂⟩, member, read⟩ := bind_eq_ok read
        obtain ⟨⟨others, c₃⟩, later, same⟩ := map_eq_ok read
        obtain ⟨rfl, rfl⟩ := Prod.mk.inj same
        obtain ⟨e, kept, made⟩ := (h.readMember _ _ _).1 member
        obtain ⟨es, behind, rest⟩ := (ih _ _ _ _).1 later
        refine ⟨e :: es, ?_, ?_⟩
        · simp only [next, Except.bind, if_true, kept, behind, Except.map]
        · rw [List.mapM_cons, made, rest]
          rfl
    · rintro ⟨es, read, made⟩
      obtain ⟨⟨goes, c₁⟩, next, read⟩ := bind_eq_ok read
      cases goes with
      | false =>
        obtain ⟨rfl, rfl⟩ := Prod.mk.inj (Except.ok.inj read)
        obtain rfl := Option.some.inj made
        rw [next]
        rfl
      | true =>
        obtain ⟨⟨e, c₂⟩, kept, read⟩ := bind_eq_ok read
        obtain ⟨⟨others, c₃⟩, behind, same⟩ := map_eq_ok read
        obtain ⟨rfl, rfl⟩ := Prod.mk.inj same
        rw [List.mapM_cons] at made
        obtain ⟨m, first', made⟩ := Option.bind_eq_some_iff.1 made
        obtain ⟨rest, others', made⟩ := Option.bind_eq_some_iff.1 made
        obtain rfl := Option.some.inj made
        have member := (h.readMember _ _ _).2 ⟨e, kept, first'⟩
        have later := (ih _ _ _ _).2 ⟨others, behind, others'⟩
        simp only [next, Except.bind, if_true, member, later, Except.map]

end Agrees

/-! ## The object of a text -/

/-- An object begins with a brace, and is made of the members behind it. -/
theorem readValue_object_iff {room : Nat} {c c' : Cursor} {members : List Member} :
    readValue (room + 1) c = .ok (.obj members, c') ↔
      c.skipGap.peek? = some 0x7B ∧ ∃ ms, readMembers (readValue room) c.skipGap.rest true
        c.skipGap.advance = .ok (ms, c') ∧ putEntries ms = members := by
  rw [readValue.eq_def]
  dsimp only
  constructor
  · intro h
    split at h
    · cases h
    · obtain ⟨_, -, same⟩ := map_eq_ok h
      cases same
    · obtain ⟨_, -, same⟩ := map_eq_ok h
      cases same
    · obtain ⟨_, -, same⟩ := map_eq_ok h
      cases same
    · obtain ⟨⟨n, c₁⟩, -, same⟩ := map_eq_ok h
      cases n <;> cases same
    · obtain ⟨_, -, same⟩ := map_eq_ok h
      cases same
    · obtain ⟨_, -, same⟩ := map_eq_ok h
      cases same
    · next brace =>
      obtain ⟨⟨ms, c₁⟩, inside, same⟩ := map_eq_ok h
      cases same
      exact ⟨brace, ms, inside, rfl⟩
    · split at h
      · obtain ⟨⟨n, c₁⟩, -, same⟩ := map_eq_ok h
        cases n <;> cases same
      · cases h
  · rintro ⟨brace, ms, inside, rfl⟩
    rw [brace]
    exact congrArg (Except.map _) inside

theorem membersAsWritten_eq_ok_iff {bytes : List UInt8} {es : List WrittenMember} :
    membersAsWritten bytes = .ok es ↔ (Cursor.start bytes).skipGap.peek? = some 0x7B ∧
      ∃ c, readMembers (readWritten (maxDepth - 1)) (Cursor.start bytes).skipGap.rest true
        (Cursor.start bytes).skipGap.advance = .ok (es, c) ∧ c.skipGap.rest = [] := by
  unfold membersAsWritten
  rw [finish_eq_ok_iff]
  constructor
  · rintro ⟨c, read, ended⟩
    split_ifs at read with brace
    · exact ⟨brace, c, read, ended⟩
    · cases read
  · rintro ⟨brace, c, read, ended⟩
    exact ⟨c, by rw [if_pos brace, read], ended⟩

/-- What is read of a text that is an object is read of its members one by one. -/
theorem read_object_iff {bytes : List UInt8} {members : List Member} :
    read bytes = .ok (.obj members) ↔ ∃ es, membersAsWritten bytes = .ok es ∧
      ∃ ms, es.mapM WrittenMember.member? = some ms ∧ putEntries ms = members := by
  have agrees := (agrees_readValue (maxDepth - 1)).readMembers
    (Cursor.start bytes).skipGap.rest true (Cursor.start bytes).skipGap.advance
  have room : maxDepth = maxDepth - 1 + 1 := rfl
  rw [read, finish_eq_ok_iff, room]
  simp only [readValue_object_iff, membersAsWritten_eq_ok_iff]
  constructor
  · rintro ⟨c, ⟨brace, ms, inside, same⟩, ended⟩
    obtain ⟨es, kept, made⟩ := (agrees _ _).1 inside
    exact ⟨es, ⟨brace, c, kept, ended⟩, ms, made, same⟩
  · rintro ⟨es, ⟨brace, c, kept, ended⟩, ms, made, same⟩
    exact ⟨c, ⟨brace, ms, (agrees _ _).2 ⟨es, kept, made⟩, same⟩, ended⟩

/-! ## Where a literal stands -/

theorem even_readWritten (room : Nat) : Even (readWritten room) := by
  intro c w c' h
  unfold readWritten at h
  split at h
  · next l after literal =>
    obtain ⟨-, rfl⟩ := Prod.mk.inj (Except.ok.inj h)
    obtain ⟨front, sign, digits, -⟩ := literal?_eq_some literal
    have minus : Spans 0 c.skipGap front := by
      unfold Cursor.behindMinus at sign
      split_ifs at sign with minus
      · obtain ⟨-, rfl⟩ := Prod.mk.inj sign
        exact Neutral.spans minus (by decide)
      · obtain ⟨-, rfl⟩ := Prod.mk.inj sign
        exact Spans.refl _
    exact (spans_skipGap c).next (minus.next (spans_digits digits))
  · obtain ⟨⟨j, c₁⟩, read, same⟩ := map_eq_ok h
    obtain ⟨-, rfl⟩ := Prod.mk.inj same
    exact even_readValue room _ _ _ read

/-- The value of every member was read somewhere ahead. -/
theorem mem_readMembers {value : Cursor → Step α} (even : Even value) {bound : List UInt8}
    {first : Bool} {c c' : Cursor} {ms : List (String × α)}
    (h : readMembers value bound first c = .ok (ms, c')) {m : String × α} (hm : m ∈ ms) :
    ∃ there after, there.rest <:+ c.rest ∧ value there = .ok (m.2, after) := by
  induction bound generalizing first c ms with
  | nil => cases h
  | cons _ bound ih =>
    rw [readMembers_cons] at h
    obtain ⟨⟨goes, c₁⟩, next, h⟩ := bind_eq_ok h
    obtain ⟨step, peek⟩ := spans_nextMember next
    cases goes with
    | false =>
      obtain ⟨rfl, rfl⟩ := Prod.mk.inj (Except.ok.inj h)
      cases hm
    | true =>
      obtain ⟨⟨e, c₂⟩, member, h⟩ := bind_eq_ok h
      obtain ⟨⟨others, c₃⟩, later, same⟩ := map_eq_ok h
      obtain ⟨rfl, rfl⟩ := Prod.mk.inj same
      rcases List.mem_cons.1 hm with rfl | hm
      · rw [readMember_eq] at member
        obtain ⟨⟨name, c₄⟩, string, member⟩ := bind_eq_ok member
        obtain ⟨c₅, colon, member⟩ := bind_eq_ok member
        obtain ⟨⟨a, c₆⟩, taken, same⟩ := map_eq_ok member
        obtain ⟨rfl, -⟩ := Prod.mk.inj same
        have named := ((within_string string).spans peek).next (spans_readColon colon)
        exact ⟨c₅, c₆, (step.next named).suffix, taken⟩
      · obtain ⟨there, after, ahead, read⟩ := ih later hm
        have behind := step.next (spans_readMember even peek member)
        exact ⟨there, after, ahead.trans behind.suffix, read⟩

/-- The text of a whole number that was kept stands in the text it was read from. -/
theorem membersAsWritten_stands {bytes : List UInt8} {es : List WrittenMember}
    (h : membersAsWritten bytes = .ok es) {name : String} {l : Literal} (hl : (name, .whole l) ∈ es) :
    Text.utf8 l.text <:+: bytes := by
  obtain ⟨brace, c, read, -⟩ := membersAsWritten_eq_ok_iff.1 h
  obtain ⟨there, after, ahead, kept⟩ := mem_readMembers (even_readWritten _) read hl
  have front : Text.utf8 l.text <+: there.skipGap.rest := by
    unfold readWritten at kept
    split at kept
    · next l' after' literal =>
      obtain ⟨same, -⟩ := Prod.mk.inj (Except.ok.inj kept)
      obtain rfl := Written.whole.inj same
      exact ⟨_, (literal?_stands literal).symm⟩
    · obtain ⟨_, -, same⟩ := map_eq_ok kept
      cases same
  have start := (spans_skipGap (Cursor.start bytes)).suffix
  have inside : (Cursor.start bytes).skipGap.advance.rest <:+ (Cursor.start bytes).skipGap.rest :=
    ⟨[0x7B], (rest_of_peek? brace).symm⟩
  exact front.isInfix.trans
    (((spans_skipGap there).suffix.trans (ahead.trans (inside.trans start))).isInfix)

end HostWatch.Json
