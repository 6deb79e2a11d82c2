import HostWatch.Json.Reader

/-!
# Shapes of data

A shape says how one kind of value is read, from a text and from a JSON value that has been read
already. Both ways accept the same data; a fault found in a text also has a place. Records are
read from an object, whose unknown members are skipped, or from a list of their fields in order.
-/

namespace HostWatch.Json

/-- What a source of JSON values allows. -/
structure Source where
  /-- A list may hold more items than the record has fields. -/
  surplus : Bool
  /-- What may stand beside the name of a choice. -/
  isUnit : Json → Bool

/-- Values that were read from a JSON text. -/
def Source.document : Source := ⟨false, Json.isNull⟩

/-- How values of one kind are read. The number is the room for nested containers. -/
structure Shape (α : Type) where
  ofText : Nat → Cursor → Except Failure (α × Cursor)
  ofJson : Source → Json → Except DataFault α

/-- What a number is when it stands where another kind was expected. -/
def Number.found (n : Number) : Found := Json.found n.toJson

/-- Refuses the value at the cursor, which is of another kind than expected. A word, a number or a
string is read first; the fault then stands after it. -/
def refuse (expected : String) (c : Cursor) : Except Failure α :=
  let wrong (found : Found) (c : Cursor) : Except Failure α :=
    c.fail (.data (.invalidType found expected))
  match c.peek? with
  | none => c.fail .endInValue
  | some 0x6E => (readWord ullBytes c.advance).bind (wrong .null)
  | some 0x74 => (readWord rueBytes c.advance).bind (wrong (.bool true))
  | some 0x66 => (readWord alseBytes c.advance).bind (wrong (.bool false))
  | some 0x2D => (readNumber false c.advance).bind fun (n, c) => wrong n.found c
  | some 0x22 => (readString c.advance).bind fun (s, c) => wrong (.str s) c
  | some 0x5B => wrong .sequence c
  | some 0x7B => wrong .map c
  | some b =>
    if (digitValue? b).isSome then (readNumber true c).bind fun (n, c) => wrong n.found c
    else c.failAhead .expectedValue

/-- Refuses a JSON value of another kind than expected. -/
def refuseJson (expected : String) (j : Json) : Except DataFault α :=
  .error (.invalidType (found j) expected)

namespace Shape

/-! ## Scalars -/

/-- Any value. -/
def json : Shape Json := ⟨readValue, fun _ => .ok⟩

/-- A string. -/
def string : Shape String where
  ofText _ c :=
    let c := c.skipGap
    if c.peek? = some 0x22 then readString c.advance else refuse "a string" c
  ofJson
    | _, .str s => .ok s
    | _, j => refuseJson "a string" j

/-- A boolean. -/
def bool : Shape Bool where
  ofText _ c :=
    let c := c.skipGap
    match c.peek? with
    | some 0x74 => (readWord rueBytes c.advance).map (true, ·)
    | some 0x66 => (readWord alseBytes c.advance).map (false, ·)
    | _ => refuse "a boolean" c
  ofJson
    | _, .bool b => .ok b
    | _, j => refuseJson "a boolean" j

/-- A number of which `accept` makes a value. -/
def number (expected : String) (accept : Number → Except DataFault α) : Shape α where
  ofText _ c :=
    let c := c.skipGap
    let accepted (step : Except Failure (Number × Cursor)) : Except Failure (α × Cursor) :=
      match step with
      | .error e => .error e
      | .ok (n, c) =>
        match accept n with
        | .ok a => .ok (a, c)
        | .error d => c.fail (.data d)
    match c.peek? with
    | some 0x2D => accepted (readNumber false c.advance)
    | some b =>
      if (digitValue? b).isSome then accepted (readNumber true c) else refuse expected c
    | none => refuse expected c
  ofJson
    | _, .int n => accept (.int n)
    | _, .float x => accept (.float x)
    | _, j => refuseJson expected j

/-- A whole number in a range. -/
def integer (expected : String) (low high : Int) : Shape Int :=
  number expected fun
    | .int n =>
      if low ≤ n ∧ n ≤ high then .ok n else .error (.invalidValue (.int n) expected)
    | .float x => .error (.invalidType (.float x) expected)

/-- A whole number that is not negative and fits in so many bits. -/
def natural (expected : String) (bits : Nat) : Shape Nat :=
  let s := integer expected 0 (Int.pow 2 bits - 1)
  ⟨fun room c => (s.ofText room c).map fun (n, c) => (n.toNat, c),
    fun source j => (s.ofJson source j).map (·.toNat)⟩

/-- The double nearest to a whole number of 64 bits. -/
def floatOfInt (n : Int) : Float :=
  if n < 0 then -(n.natAbs.toUInt64.toFloat) else n.toNat.toUInt64.toFloat

/-- Any number, as a double. -/
def float : Shape Float :=
  number "f64" fun
    | .int n => .ok (floatOfInt n)
    | .float x => .ok x

/-- Any number, rounded to 32 bits. -/
def float32 : Shape Float32 :=
  number "f32" fun
    | .int n => .ok (if n < 0 then -(n.natAbs.toUInt64.toFloat32) else n.toNat.toUInt64.toFloat32)
    | .float x => .ok x.toFloat32

/-- A value or `null`. -/
def optional (s : Shape α) : Shape (Option α) where
  ofText room c :=
    let c := c.skipGap
    if c.peek? = some 0x6E then (readWord ullBytes c.advance).map (none, ·)
    else (s.ofText room c).map fun (a, c) => (some a, c)
  ofJson
    | _, .null => .ok none
    | source, j => (s.ofJson source j).map some

/-! ## Choices -/

/-- The value of a name. -/
def lookupName (table : List (String × α)) (name : String) : Except DataFault α :=
  match table.lookup name with
  | some a => .ok a
  | none => .error (.unknownVariant name (table.map (·.1)))

/-- A `null` that must follow. -/
def readNull (c : Cursor) : Except Failure Cursor :=
  let c := c.skipGap
  if c.peek? = some 0x6E then readWord ullBytes c.advance else refuse "unit" c

/-- Reads a name of a table, whose opening quote has been taken. -/
def readName (table : List (String × α)) (c : Cursor) : Except Failure (α × Cursor) :=
  match readString c with
  | .error e => .error e
  | .ok (s, c) =>
    match lookupName table s with
    | .ok a => .ok (a, c)
    | .error d => c.fail (.data d)

/-- Reads the only member of an object whose brace has been opened, a name of a table with `null`,
and closes the object. -/
def readOnlyName (table : List (String × α)) (c : Cursor) : Except Failure (α × Cursor) :=
  let c := c.skipGap
  match c.peek? with
  | none => c.fail .endInValue
  | some 0x22 =>
    match readName table c.advance with
    | .error e => .error e
    | .ok (a, c) =>
      match (readColon c).bind readNull with
      | .error e => .error e
      | .ok c =>
        let c := c.skipGap
        match c.peek? with
        | none => c.fail .endInObject
        | some 0x7D => .ok (a, c.advance)
        | some _ => c.fail .expectedValue
  | some 0x7D => c.failAhead .expectedValue
  | some _ => c.failAhead .keyMustBeString

/-- One of a few names; an object with the name and `null` stands for it too. -/
def choice (table : List (String × α)) : Shape α where
  ofText room c :=
    let c := c.skipGap
    match c.peek? with
    | none => c.fail .endInValue
    | some 0x22 => readName table c.advance
    | some 0x7B => if room = 0 then c.failAhead .tooDeep else readOnlyName table c.advance
    | some _ => c.failAhead .expectedValue
  ofJson
    | _, .str s => lookupName table s
    | source, .obj [(name, j)] =>
      match lookupName table name with
      | .error d => .error d
      | .ok a => if source.isUnit j then .ok a else refuseJson "unit" j
    | _, .obj _ => .error (.invalidValue .map "map with a single key")
    | _, j => refuseJson "string or map" j

/-! ## Lists and maps -/

/-- Strings by name. -/
def textMap : Shape (NameMap String) where
  ofText room c :=
    let c := c.skipGap
    if c.peek? = some 0x7B then
      match room with
      | 0 => c.failAhead .tooDeep
      | room + 1 =>
        (readMembers (string.ofText room) c.rest true c.advance).map fun (ms, c) =>
          (NameMap.ofList ms, c)
    else refuse "a map" c
  ofJson
    | source, .obj members =>
      (members.mapM fun m => (string.ofJson source m.2).map (m.1, ·)).map .ofList
    | _, j => refuseJson "a map" j

/-- A list of values of one shape. -/
def list (s : Shape α) : Shape (List α) where
  ofText room c :=
    let c := c.skipGap
    if c.peek? = some 0x5B then
      match room with
      | 0 => c.failAhead .tooDeep
      | room + 1 => readItems (s.ofText room) c.rest true c.advance
    else refuse "a sequence" c
  ofJson
    | source, .arr items => items.mapM (s.ofJson source)
    | _, j => refuseJson "a sequence" j

end Shape

/-! ## Records -/

/-- A field of a record that is collected in a draft of type `δ`. -/
structure Field (δ : Type) where
  name : String
  /-- A list of fields may end before it. -/
  mayEnd : Bool
  /-- The draft has the field already. -/
  isSet : δ → Bool
  ofText : Nat → Cursor → δ → Except Failure (δ × Cursor)
  ofJson : Source → Json → δ → Except DataFault δ

/-- A field with the shape of its value and its place in the draft. -/
def Field.of (name : String) (mayEnd : Bool) (shape : Shape β) (get : δ → Option β)
    (set : β → δ → δ) : Field δ where
  name := name
  mayEnd := mayEnd
  isSet d := (get d).isSome
  ofText room c d := (shape.ofText room c).map fun (b, c) => (set b d, c)
  ofJson source j d := (shape.ofJson source j).map (set · d)

/-- A kind of record: its fields in order, the empty draft, and what a full draft makes. -/
structure Record (δ α : Type) where
  /-- The name of the kind in messages. -/
  name : String
  fields : List (Field δ)
  start : δ
  finish : δ → Except DataFault α

/-- A field that must be there. -/
def required (name : String) : Option β → Except DataFault β
  | some b => .ok b
  | none => .error (.missingField name)

/-- Why the inside of a record was not read: a fault that has its place, or one that gets the place
where closing the record ends. -/
inductive Stop where
  | failed (failure : Failure)
  | refused (fault : DataFault) (cursor : Cursor)

namespace Record

/-- What a list of the wrong length was expected to be. -/
def describe (r : Record δ α) : String :=
  r.name ++ " with " ++ toString r.fields.length ++ " elements"

/-- Reads fields in order from a list whose bracket has been opened, up to its end. -/
def readInOrder (r : Record δ α) (room : Nat) :
    List (Field δ) → Nat → δ → Cursor → Except Stop (δ × Cursor)
  | [], _, draft, c => .ok (draft, c)
  | field :: fields, index, draft, c =>
    match nextItem (index = 0) c with
    | .error e => .error (.failed e)
    | .ok (true, c) =>
      match field.ofText room c draft with
      | .error e => .error (.failed e)
      | .ok (draft, c) => r.readInOrder room fields (index + 1) draft c
    | .ok (false, c) =>
      match (field :: fields).findIdx? (fun f => !f.mayEnd) with
      | none => .ok (draft, c)
      | some n => .error (.refused (.invalidLength (index + n) r.describe) c)

/-- Reads named fields from an object whose brace has been opened, up to its end. -/
def readByName (r : Record δ α) (room : Nat) :
    List UInt8 → Bool → δ → Cursor → Except Stop (δ × Cursor)
  | [], _, draft, c => .ok (draft, c)
  | _ :: bound, first, draft, c =>
    match nextMember first c with
    | .error e => .error (.failed e)
    | .ok (false, c) => .ok (draft, c)
    | .ok (true, c) =>
      match readString c.advance with
      | .error e => .error (.failed e)
      | .ok (name, c) =>
        match r.fields.find? (·.name = name) with
        | none =>
          match (readColon c).bind skipValue with
          | .error e => .error (.failed e)
          | .ok c => r.readByName room bound false draft c
        | some field =>
          if field.isSet draft then .error (.refused (.duplicateField name) c)
          else
            match (readColon c).bind (field.ofText room · draft) with
            | .error e => .error (.failed e)
            | .ok (draft, c) => r.readByName room bound false draft c

/-- Closes a record whose inside has been read. -/
def close (r : Record δ α) (closing : Cursor → Closing) (inside : Except Stop (δ × Cursor)) :
    Except Failure (α × Cursor) :=
  let refused (d : DataFault) (c : Cursor) : Except Failure (α × Cursor) :=
    .error ⟨.data d, (closing c).cursor.place⟩
  match inside with
  | .error (.failed e) => .error e
  | .error (.refused d c) => refused d c
  | .ok (draft, c) =>
    match r.finish draft with
    | .error d => refused d c
    | .ok a =>
      match (closing c).failure? with
      | some e => .error e
      | none => .ok (a, (closing c).cursor)

/-- Fields from the items of a list. -/
def fieldsOfItems (r : Record δ α) (source : Source) :
    List (Field δ) → Nat → List Json → δ → Except DataFault (δ × List Json)
  | [], _, items, draft => .ok (draft, items)
  | field :: fields, index, [], draft =>
    match (field :: fields).findIdx? (fun f => !f.mayEnd) with
    | none => .ok (draft, [])
    | some n => .error (.invalidLength (index + n) r.describe)
  | field :: fields, index, j :: items, draft =>
    match field.ofJson source j draft with
    | .error d => .error d
    | .ok draft => r.fieldsOfItems source fields (index + 1) items draft

/-- Fields from the members of an object. -/
def fieldsOfMembers (r : Record δ α) (source : Source) : List Member → δ → Except DataFault δ
  | [], draft => .ok draft
  | (name, j) :: members, draft =>
    match r.fields.find? (·.name = name) with
    | none => r.fieldsOfMembers source members draft
    | some field =>
      match field.ofJson source j draft with
      | .error d => .error d
      | .ok draft => r.fieldsOfMembers source members draft

/-- The shape of the records of a kind. -/
def shape (r : Record δ α) : Shape α where
  ofText room c :=
    let c := c.skipGap
    match c.peek?, room with
    | some 0x5B, 0 | some 0x7B, 0 => c.failAhead .tooDeep
    | some 0x5B, room + 1 => r.close closeList (r.readInOrder room r.fields 0 r.start c.advance)
    | some 0x7B, room + 1 =>
      r.close closeObject (r.readByName room c.rest true r.start c.advance)
    | _, _ => refuse r.name c
  ofJson
    | source, .arr items =>
      match r.fieldsOfItems source r.fields 0 items r.start with
      | .error d => .error d
      | .ok (draft, beyond) =>
        if beyond.isEmpty || source.surplus then r.finish draft
        else .error (.invalidLength items.length "fewer elements in array")
    | source, .obj members => (r.fieldsOfMembers source members r.start).bind r.finish
    | _, j => refuseJson r.name j

end Record

/-! ## Records of settings -/

/-- A field that may be missing: how its value is read and put into the record. -/
structure Setting (α : Type) where
  name : String
  ofText : Nat → Cursor → α → Except Failure (α × Cursor)
  ofJson : Source → Json → α → Except DataFault α

/-- A setting with the shape of its value and its place in the record. -/
def Setting.of (name : String) (shape : Shape β) (set : β → α → α) : Setting α where
  name := name
  ofText room c a := (shape.ofText room c).map fun (b, c) => (set b a, c)
  ofJson source j a := (shape.ofJson source j).map (set · a)

/-- The field of a setting. The draft is the record with the names of the fields it was given. -/
def Setting.toField (s : Setting α) : Field (List String × α) where
  name := s.name
  mayEnd := true
  isSet d := d.1.contains s.name
  ofText room c d := (s.ofText room c d.2).map fun (a, c) => ((s.name :: d.1, a), c)
  ofJson source j d := (s.ofJson source j d.2).map fun a => (s.name :: d.1, a)

/-- A kind of record in which whatever is not given has its standard value. -/
def Record.ofSettings (name : String) (standard : α) (settings : List (Setting α)) :
    Record (List String × α) α where
  name := name
  fields := settings.map Setting.toField
  start := ([], standard)
  finish d := .ok d.2

/-- Reads a whole text as data of a shape. -/
def Shape.read (s : Shape α) (bytes : List UInt8) : Except Failure α :=
  finish (s.ofText maxDepth (Cursor.start bytes))

end HostWatch.Json
