import HostWatch.Json.Text
import HostWatch.Json.Number

/-!
# Reading a JSON value

`read` takes a whole text and gives its value or the first fault in it. The room says how many
containers may still be opened inside each other. `skipValue` steps over a value that nobody asked
for; it keeps no value and so needs no room.
-/

namespace HostWatch.Json

/-- How deep containers may nest. -/
def maxDepth : Nat := 127

/-- Reads the items of a list whose bracket has been opened, and closes it. -/
def readItems (item : Cursor → Step α) : List UInt8 → Bool → Cursor → Step (List α)
  | [], _, c => c.fail .endInList
  | _ :: bound, first, c =>
    match nextItem first c with
    | .error e => .error e
    | .ok (false, c) => .ok ([], c.advance)
    | .ok (true, c) =>
      match item c with
      | .error e => .error e
      | .ok (a, c) =>
        match readItems item bound false c with
        | .error e => .error e
        | .ok (as, c) => .ok (a :: as, c)

/-- Reads a name, the colon and a value. -/
def readMember (value : Cursor → Step α) (c : Cursor) : Step (String × α) :=
  match readString c.advance with
  | .error e => .error e
  | .ok (name, c) =>
    match readColon c with
    | .error e => .error e
    | .ok c =>
      match value c with
      | .error e => .error e
      | .ok (a, c) => .ok ((name, a), c)

/-- Reads the members of an object whose brace has been opened, and closes it. -/
def readMembers (value : Cursor → Step α) : List UInt8 → Bool → Cursor → Step (List (String × α))
  | [], _, c => c.fail .endInObject
  | _ :: bound, first, c =>
    match nextMember first c with
    | .error e => .error e
    | .ok (false, c) => .ok ([], c.advance)
    | .ok (true, c) =>
      match readMember value c with
      | .error e => .error e
      | .ok (m, c) =>
        match readMembers value bound false c with
        | .error e => .error e
        | .ok (ms, c) => .ok (m :: ms, c)

/-- Reads a value, inside which `room` more containers may be open at a time. -/
def readValue : Nat → Cursor → Step Json
  | room, c =>
    let c := c.skipGap
    match c.peek? with
    | none => c.fail .endInValue
    | some 0x6E => (readWord ullBytes c.advance).map (.null, ·)
    | some 0x74 => (readWord rueBytes c.advance).map (.bool true, ·)
    | some 0x66 => (readWord alseBytes c.advance).map (.bool false, ·)
    | some 0x2D => (readNumber false c.advance).map fun (n, c) => (n.toJson, c)
    | some 0x22 => (readString c.advance).map fun (s, c) => (.str s, c)
    | some 0x5B =>
      match room with
      | 0 => c.failAhead .tooDeep
      | room + 1 =>
        (readItems (readValue room) c.rest true c.advance).map fun (items, c) => (.arr items, c)
    | some 0x7B =>
      match room with
      | 0 => c.failAhead .tooDeep
      | room + 1 =>
        (readMembers (readValue room) c.rest true c.advance).map fun (ms, c) => (object ms, c)
    | some b =>
      if (digitValue? b).isSome then (readNumber true c).map fun (n, c) => (n.toJson, c)
      else c.failAhead .expectedValue

/-- What was read, if nothing but blanks follows it. -/
def finish (step : Step α) : Except Failure α :=
  match step with
  | .error e => .error e
  | .ok (a, c) =>
    let c := c.skipGap
    if c.rest.isEmpty then .ok a else c.failAhead .trailingCharacters

/-- The value of a text. -/
def read (bytes : List UInt8) : Except Failure Json :=
  finish (readValue maxDepth (Cursor.start bytes))

theorem read_nil : read [] = .error ⟨.endInValue, ⟨1, 0⟩⟩ := by
  rw [read, readValue.eq_def]
  rfl

/-! ## Values that are not needed -/

/-- Steps over the name and the colon of a member. -/
def skipName (c : Cursor) : Except Failure Cursor :=
  let c := c.skipGap
  match c.peek? with
  | none => c.fail .endInObject
  | some 0x22 =>
    match skipString c.advance with
    | .error e => .error e
    | .ok c => readColon c
  | some _ => c.failAhead .keyMustBeString

/-- The containers that are open, innermost first. -/
inductive Frame where
  | list
  | object
  deriving DecidableEq

/-- The byte that closes a container. -/
def Frame.closer : Frame → UInt8
  | .list => 0x5D
  | .object => 0x7D

/-- The end of the text inside a container. -/
def Frame.endFault : Frame → Fault
  | .list => .endInList
  | .object => .endInObject

/-- Neither a comma nor the end of a container after a value in it. -/
def Frame.commaFault : Frame → Fault
  | .list => .expectedListCommaOrEnd
  | .object => .expectedObjectCommaOrEnd

/-- After an opening bracket or a value: closes what closes here, and goes on to the next value of
the innermost container that is still open. The stack comes back empty at the end. -/
def skipToNext : List UInt8 → Bool → List Frame → Cursor → Except Failure (List Frame × Cursor)
  | [], _, stack, c => .ok (stack, c)
  | _ :: bound, afterValue, stack, c =>
    match stack with
    | [] => .ok ([], c)
    | frame :: outer =>
      let c := c.skipGap
      match c.peek? with
      | none => c.fail frame.endFault
      | some b =>
        if b = 0x2C ∧ afterValue then enter frame outer c.advance
        else if b = frame.closer then skipToNext bound true outer c.advance
        else if afterValue then c.failAhead frame.commaFault
        else enter frame outer c
where
  /-- In an object the name of the next value comes first. -/
  enter (frame : Frame) (outer : List Frame) (c : Cursor) :
      Except Failure (List Frame × Cursor) :=
    match frame with
    | .list => .ok (.list :: outer, c)
    | .object => (skipName c).map (.object :: outer, ·)

/-- Steps over the value at the cursor and whatever follows it up to the end of the outermost
container of the stack. -/
def skipFrom : List UInt8 → List Frame → Cursor → Except Failure Cursor
  | [], _, c => c.fail .endInValue
  | _ :: bound, stack, c =>
    let c := c.skipGap
    let step : Except Failure (Bool × List Frame × Cursor) :=
      match c.peek? with
      | none => c.fail .endInValue
      | some 0x6E => (readWord ullBytes c.advance).map (true, stack, ·)
      | some 0x74 => (readWord rueBytes c.advance).map (true, stack, ·)
      | some 0x66 => (readWord alseBytes c.advance).map (true, stack, ·)
      | some 0x2D => (skipNumber c.advance).map (true, stack, ·)
      | some 0x22 => (skipString c.advance).map (true, stack, ·)
      | some 0x5B => .ok (false, .list :: stack, c.advance)
      | some 0x7B => .ok (false, .object :: stack, c.advance)
      | some b =>
        if (digitValue? b).isSome then (skipNumber c).map (true, stack, ·)
        else c.failAhead .expectedValue
    match step with
    | .error e => .error e
    | .ok (afterValue, stack, c) =>
      match skipToNext (0 :: c.rest) afterValue stack c with
      | .error e => .error e
      | .ok ([], c) => .ok c
      | .ok (stack, c) => skipFrom bound stack c

/-- Steps over one value. -/
def skipValue (c : Cursor) : Except Failure Cursor := skipFrom c.rest [] c

end HostWatch.Json
