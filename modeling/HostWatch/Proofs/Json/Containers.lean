import HostWatch.Json.Reader
import HostWatch.Proofs.Json.QuotedText

/-!
# Lists and objects are read back

`readItems_written`, `readMembers_written`: a list and an object are read back from the bytes of
their parts, for any way to write the parts that their reader takes.

1. `Takes f bytes a`: the reader `f` makes `a` of these bytes and goes on behind them. What follows
   a value inside a container is a comma or a bracket, and no more is assumed of it.
2. Behind the first part a container is a run of parts with a comma before each of them; the loops
   over such a run take one part after another.
-/

namespace HostWatch.Json

/-! ## Values inside a container -/

/-- Nothing that could belong to a value: the end of the bytes, a comma or a closing bracket. -/
def EndsValue (rest : List UInt8) : Prop := ∀ b ∈ rest.head?, b = 0x2C ∨ b = 0x5D ∨ b = 0x7D

/-- The reader makes `a` of these bytes wherever a value ends behind them. -/
def Takes (f : Cursor → Step α) (bytes : List UInt8) (a : α) : Prop :=
  ∀ rest place, EndsValue rest → ∃ place', f ⟨bytes ++ rest, place⟩ = .ok (a, ⟨rest, place'⟩)

theorem skipGap_cons {b : UInt8} (h : isGapByte b = false) (rest : List UInt8) (place : Place) :
    Cursor.skipGap ⟨b :: rest, place⟩ = ⟨b :: rest, place⟩ := by
  rw [Cursor.skipGap, skipGapFrom, h]
  rfl

/-- The bytes of a quoted text. -/
def quotedBytes (s : String) : List UInt8 := 0x22 :: quotedTail s

/-! ## Members of an object -/

section Members

variable {β : Type} (write : β → List UInt8)

/-- A name, a colon and a value. -/
def memberBytes (m : String × β) : List UInt8 := 0x22 :: quotedTail m.1 ++ 0x3A :: write m.2

/-- Members with a comma before each of them. -/
def furtherBytes (ms : List (String × β)) : List UInt8 :=
  ms.flatMap fun m => 0x2C :: memberBytes write m

variable {write} {value : Cursor → Step α} {make : β → α}

theorem takes_member {m : String × β} (h : Takes value (write m.2) (make m.2)) :
    Takes (readMember value) (memberBytes write m) (m.1, make m.2) := by
  intro rest place hrest
  obtain ⟨place₁, e₁⟩ := readString_quote m.1 (0x3A :: (write m.2 ++ rest)) (place.after 0x22)
  obtain ⟨place₂, e₂⟩ := h rest (place₁.after 0x3A) hrest
  refine ⟨place₂, ?_⟩
  have colon : readColon ⟨0x3A :: (write m.2 ++ rest), place₁⟩ =
      .ok ⟨write m.2 ++ rest, place₁.after 0x3A⟩ := by
    rw [readColon, skipGap_cons (by decide)]
    rfl
  rw [readMember]
  simp only [memberBytes, List.cons_append, List.append_assoc, Cursor.advance, e₁, colon, e₂]

theorem endsValue_further (ms : List (String × β)) (rest : List UInt8) :
    EndsValue (furtherBytes write ms ++ 0x7D :: rest) := by
  intro b hb
  cases ms with
  | nil =>
    obtain rfl : 0x7D = b := by simpa [furtherBytes] using hb
    exact .inr (.inr rfl)
  | cons m ms =>
    obtain rfl : 0x2C = b := by simpa [furtherBytes] using hb
    exact .inl rfl

/-- The members behind the first one, and the closing brace. -/
theorem readMembers_further (ms : List (String × β))
    (h : ∀ m ∈ ms, Takes value (write m.2) (make m.2)) :
    ∀ bound rest place, (furtherBytes write ms ++ 0x7D :: rest).length ≤ bound.length →
      ∃ place', readMembers value bound false ⟨furtherBytes write ms ++ 0x7D :: rest, place⟩ =
        .ok (ms.map fun m => (m.1, make m.2), ⟨rest, place'⟩) := by
  induction ms with
  | nil =>
    intro bound rest place hb
    obtain _ | ⟨_, bound⟩ := bound
    · simp at hb
    refine ⟨place.after 0x7D, ?_⟩
    rw [readMembers, nextMember]
    simp only [furtherBytes, List.flatMap_nil, List.nil_append,
      skipGap_cons (show isGapByte 0x7D = false by decide), Cursor.peek?, List.head?_cons,
      Cursor.advance, List.map_nil]
  | cons m ms ih =>
    intro bound rest place hb
    obtain _ | ⟨_, bound⟩ := bound
    · simp at hb
    have split : furtherBytes write (m :: ms) ++ 0x7D :: rest =
        0x2C :: (memberBytes write m ++ (furtherBytes write ms ++ 0x7D :: rest)) := by
      simp [furtherBytes]
    have next : nextMember false ⟨furtherBytes write (m :: ms) ++ 0x7D :: rest, place⟩ =
        .ok (true, ⟨memberBytes write m ++ (furtherBytes write ms ++ 0x7D :: rest),
          place.after 0x2C⟩) := by
      rw [split, nextMember, skipGap_cons (by decide)]
      simp only [Cursor.peek?, List.head?_cons, if_neg Bool.false_ne_true, Cursor.advance,
        memberBytes, List.cons_append, skipGap_cons (show isGapByte 0x22 = false by decide)]
      rfl
    obtain ⟨place₁, e₁⟩ := takes_member (h m List.mem_cons_self)
      (furtherBytes write ms ++ 0x7D :: rest)
      (place.after 0x2C) (endsValue_further ms rest)
    have short : (furtherBytes write ms ++ 0x7D :: rest).length ≤ bound.length := by
      rw [split] at hb
      simp only [List.length_cons, List.length_append] at hb ⊢
      omega
    obtain ⟨place₂, e₂⟩ := ih (fun m hm => h m (List.mem_cons_of_mem _ hm)) bound rest place₁ short
    refine ⟨place₂, ?_⟩
    rw [readMembers]
    simp only [next, e₁, e₂, List.map_cons]

/-- Members with commas between them. -/
def membersBytes (write : β → List UInt8) : List (String × β) → List UInt8
  | [] => []
  | m :: ms => memberBytes write m ++ furtherBytes write ms

/-- The inside of an object and its closing brace. -/
theorem readMembers_written (ms : List (String × β))
    (h : ∀ m ∈ ms, Takes value (write m.2) (make m.2))
    (bound rest : List UInt8) (place : Place)
    (hb : (membersBytes write ms ++ 0x7D :: rest).length < bound.length) :
    ∃ place', readMembers value bound true ⟨membersBytes write ms ++ 0x7D :: rest, place⟩ =
      .ok (ms.map fun m => (m.1, make m.2), ⟨rest, place'⟩) := by
  obtain _ | ⟨_, bound⟩ := bound
  · simp at hb
  obtain _ | ⟨m, ms⟩ := ms
  · refine ⟨place.after 0x7D, ?_⟩
    rw [readMembers, nextMember]
    simp only [membersBytes, List.nil_append, skipGap_cons (show isGapByte 0x7D = false by decide),
      Cursor.peek?, List.head?_cons, Cursor.advance, List.map_nil]
  · have next : nextMember true
        ⟨membersBytes write (m :: ms) ++ 0x7D :: rest, place⟩ =
        .ok (true, ⟨memberBytes write m ++ (furtherBytes write ms ++ 0x7D :: rest), place⟩) := by
      rw [nextMember]
      simp only [membersBytes, memberBytes, List.cons_append, List.append_assoc,
        skipGap_cons (show isGapByte 0x22 = false by decide), Cursor.peek?, List.head?_cons]
      rfl
    obtain ⟨place₁, e₁⟩ := takes_member (h m List.mem_cons_self)
      (furtherBytes write ms ++ 0x7D :: rest) place
      (endsValue_further ms rest)
    have short : (furtherBytes write ms ++ 0x7D :: rest).length ≤ bound.length := by
      simp only [membersBytes, List.length_cons, List.length_append] at hb ⊢
      omega
    obtain ⟨place₂, e₂⟩ := readMembers_further ms
      (fun m hm => h m (List.mem_cons_of_mem _ hm)) bound rest place₁ short
    refine ⟨place₂, ?_⟩
    rw [readMembers]
    simp only [next, e₁, e₂, List.map_cons]

end Members

/-! ## Items of a list -/

/-- The first byte is no blank and no closing bracket, so that an item may begin with it. -/
def BeginsItem (bytes : List UInt8) : Prop :=
  ∃ b tail, bytes = b :: tail ∧ isGapByte b = false ∧ b ≠ 0x5D

section Items

variable {β : Type} (write : β → List UInt8)

/-- Items with a comma before each of them. -/
def laterBytes (as : List β) : List UInt8 := as.flatMap fun a => 0x2C :: write a

/-- Items with commas between them. -/
def itemsBytes : List β → List UInt8
  | [] => []
  | a :: as => write a ++ laterBytes write as

variable {write} {item : Cursor → Step α} {make : β → α}

theorem endsValue_later (as : List β) (rest : List UInt8) :
    EndsValue (laterBytes write as ++ 0x5D :: rest) := by
  intro b hb
  cases as with
  | nil =>
    obtain rfl : 0x5D = b := by simpa [laterBytes] using hb
    exact .inr (.inl rfl)
  | cons a as =>
    obtain rfl : 0x2C = b := by simpa [laterBytes] using hb
    exact .inl rfl

theorem nextItem_close (first : Bool) (rest : List UInt8) (place : Place) :
    nextItem first ⟨0x5D :: rest, place⟩ = .ok (false, ⟨0x5D :: rest, place⟩) := by
  rw [nextItem, skipGap_cons (by decide)]
  rfl

theorem nextItem_first {b : UInt8} (gap : isGapByte b = false) (close : b ≠ 0x5D)
    (rest : List UInt8) (place : Place) :
    nextItem true ⟨b :: rest, place⟩ = .ok (true, ⟨b :: rest, place⟩) := by
  rw [nextItem, skipGap_cons gap]
  dsimp only
  split
  · next e => cases e
  · next e => exact absurd (Option.some.inj e) close
  · rfl

theorem nextItem_comma {b : UInt8} (gap : isGapByte b = false) (close : b ≠ 0x5D)
    (rest : List UInt8) (place : Place) :
    nextItem false ⟨0x2C :: b :: rest, place⟩ = .ok (true, ⟨b :: rest, place.after 0x2C⟩) := by
  rw [nextItem, skipGap_cons (by decide)]
  simp only [Cursor.peek?, List.head?_cons, if_neg Bool.false_ne_true, Cursor.advance,
    skipGap_cons gap]
  rfl

/-- The items behind the first one, and the closing bracket. -/
theorem readItems_later (as : List β)
    (h : ∀ a ∈ as, BeginsItem (write a) ∧ Takes item (write a) (make a)) :
    ∀ bound rest place, (laterBytes write as ++ 0x5D :: rest).length ≤ bound.length →
      ∃ place', readItems item bound false ⟨laterBytes write as ++ 0x5D :: rest, place⟩ =
        .ok (as.map make, ⟨rest, place'⟩) := by
  induction as with
  | nil =>
    intro bound rest place hb
    obtain _ | ⟨_, bound⟩ := bound
    · simp at hb
    refine ⟨place.after 0x5D, ?_⟩
    show readItems item (_ :: bound) false ⟨0x5D :: rest, place⟩ = _
    rw [readItems, nextItem_close]
    rfl
  | cons a as ih =>
    intro bound rest place hb
    obtain _ | ⟨_, bound⟩ := bound
    · simp at hb
    obtain ⟨⟨b, tail, begins, gap, close⟩, takes⟩ := h a List.mem_cons_self
    have split : laterBytes write (a :: as) ++ 0x5D :: rest =
        0x2C :: (write a ++ (laterBytes write as ++ 0x5D :: rest)) := by
      simp [laterBytes]
    have next : nextItem false ⟨laterBytes write (a :: as) ++ 0x5D :: rest, place⟩ =
        .ok (true, ⟨write a ++ (laterBytes write as ++ 0x5D :: rest), place.after 0x2C⟩) := by
      rw [split, begins]
      exact nextItem_comma gap close _ _
    obtain ⟨place₁, e₁⟩ := takes (laterBytes write as ++ 0x5D :: rest) (place.after 0x2C)
      (endsValue_later as rest)
    have short : (laterBytes write as ++ 0x5D :: rest).length ≤ bound.length := by
      rw [split] at hb
      simp only [List.length_cons, List.length_append] at hb ⊢
      omega
    obtain ⟨place₂, e₂⟩ := ih (fun a ha => h a (List.mem_cons_of_mem _ ha)) bound rest place₁ short
    refine ⟨place₂, ?_⟩
    rw [readItems]
    simp only [next, e₁, e₂, List.map_cons]

/-- The inside of a list and its closing bracket. -/
theorem readItems_written (as : List β)
    (h : ∀ a ∈ as, BeginsItem (write a) ∧ Takes item (write a) (make a))
    (bound rest : List UInt8) (place : Place)
    (hb : (itemsBytes write as ++ 0x5D :: rest).length < bound.length) :
    ∃ place', readItems item bound true ⟨itemsBytes write as ++ 0x5D :: rest, place⟩ =
      .ok (as.map make, ⟨rest, place'⟩) := by
  obtain _ | ⟨_, bound⟩ := bound
  · simp at hb
  obtain _ | ⟨a, as⟩ := as
  · refine ⟨place.after 0x5D, ?_⟩
    show readItems item (_ :: bound) true ⟨0x5D :: rest, place⟩ = _
    rw [readItems, nextItem_close]
    rfl
  · obtain ⟨⟨b, tail, begins, gap, close⟩, takes⟩ := h a List.mem_cons_self
    have split : itemsBytes write (a :: as) ++ 0x5D :: rest =
        write a ++ (laterBytes write as ++ 0x5D :: rest) := by
      simp [itemsBytes]
    have next : nextItem true ⟨itemsBytes write (a :: as) ++ 0x5D :: rest, place⟩ =
        .ok (true, ⟨write a ++ (laterBytes write as ++ 0x5D :: rest), place⟩) := by
      rw [split, begins]
      exact nextItem_first gap close _ _
    obtain ⟨place₁, e₁⟩ := takes (laterBytes write as ++ 0x5D :: rest) place
      (endsValue_later as rest)
    have short : (laterBytes write as ++ 0x5D :: rest).length ≤ bound.length := by
      rw [split] at hb
      simp only [List.length_cons, List.length_append] at hb ⊢
      omega
    obtain ⟨place₂, e₂⟩ := readItems_later as (fun a ha => h a (List.mem_cons_of_mem _ ha)) bound
      rest place₁ short
    refine ⟨place₂, ?_⟩
    rw [readItems]
    simp only [next, e₁, e₂, List.map_cons]

end Items

/-! ## Joined bytes -/

/-- A property that stays when bytes are joined. -/
structure Joins (P : List UInt8 → Prop) : Prop where
  nil : P []
  append : ∀ {a b}, P a → P b → P (a ++ b)

section Joins

variable {P : List UInt8 → Prop} (joins : Joins P) (comma : P [0x2C]) {write : β → List UInt8}

include joins

theorem Joins.each {bytes : List UInt8} (h : ∀ b ∈ bytes, P [b]) : P bytes := by
  induction bytes with
  | nil => exact joins.nil
  | cons b bytes ih =>
    exact joins.append (h b List.mem_cons_self) (ih fun x hx => h x (List.mem_cons_of_mem _ hx))

theorem Joins.flatMap {as : List α} {write : α → List UInt8} (h : ∀ a ∈ as, P (write a)) :
    P (as.flatMap write) := by
  induction as with
  | nil => exact joins.nil
  | cons a as ih =>
    exact joins.append (h a List.mem_cons_self) (ih fun x hx => h x (List.mem_cons_of_mem _ hx))

include comma

theorem Joins.items {as : List β} (h : ∀ a ∈ as, P (write a)) : P (itemsBytes write as) := by
  cases as with
  | nil => exact joins.nil
  | cons a as =>
    exact joins.append (h a List.mem_cons_self) (joins.flatMap fun x hx =>
      joins.append comma (h x (List.mem_cons_of_mem _ hx)))

theorem Joins.members (colon : P [0x3A]) (quoted : ∀ s, P (quotedBytes s))
    {ms : List (String × β)} (h : ∀ m ∈ ms, P (write m.2)) : P (membersBytes write ms) := by
  have member {m : String × β} (hm : m ∈ ms) : P (memberBytes write m) :=
    joins.append (quoted m.1) (joins.append colon (h m hm))
  cases ms with
  | nil => exact joins.nil
  | cons m ms =>
    exact joins.append (member List.mem_cons_self) (joins.flatMap fun x hx =>
      joins.append comma (member (List.mem_cons_of_mem _ hx)))

end Joins

/-! ## The text of containers -/

theorem utf8_renderItems (items : List Json) :
    Text.utf8 (renderItems items) = itemsBytes (fun j => Text.utf8 (render j)) items := by
  induction items with
  | nil => rfl
  | cons j rest ih =>
    obtain _ | ⟨k, rest⟩ := rest
    · rw [renderItems]
      simp [itemsBytes, laterBytes]
    · rw [renderItems, Text.utf8_append, Text.utf8_append, ih]
      simp [itemsBytes, laterBytes, show Text.utf8 "," = [0x2C] from rfl]

theorem utf8_renderMembers (members : List Member) :
    Text.utf8 (renderMembers members) = membersBytes (fun j => Text.utf8 (render j)) members := by
  have colon : Text.utf8 ":" = [0x3A] := rfl
  have comma : Text.utf8 "," = [0x2C] := rfl
  induction members with
  | nil => rfl
  | cons m rest ih =>
    obtain ⟨name, j⟩ := m
    obtain _ | ⟨k, rest⟩ := rest
    · rw [renderMembers]
      simp [Text.utf8_append, utf8_quote, colon, membersBytes, memberBytes, furtherBytes]
    · rw [renderMembers, Text.utf8_append, Text.utf8_append, ih]
      simp [Text.utf8_append, utf8_quote, colon, comma, membersBytes, memberBytes, furtherBytes]

theorem membersBytes_map (write : β → List UInt8) (f : γ → β) (ms : List (String × γ)) :
    membersBytes write (ms.map fun m => (m.1, f m.2)) = membersBytes (fun c => write (f c)) ms := by
  cases ms with
  | nil => rfl
  | cons m ms =>
    simp only [List.map_cons, membersBytes, memberBytes, furtherBytes, List.flatMap_map]

theorem utf8_render_arr (items : List Json) : Text.utf8 (render (.arr items)) =
    0x5B :: (itemsBytes (fun j => Text.utf8 (render j)) items ++ [0x5D]) := by
  rw [render, Text.utf8_append, Text.utf8_append, utf8_renderItems]
  rfl

theorem utf8_render_obj (members : List Member) : Text.utf8 (render (.obj members)) =
    0x7B :: (membersBytes (fun j => Text.utf8 (render j)) members ++ [0x7D]) := by
  rw [render, Text.utf8_append, Text.utf8_append, utf8_renderMembers]
  rfl

end HostWatch.Json
