/-!
# Bytes as text

UTF-8 sequences at the front of a list of bytes, and the reading of bytes that may be no UTF-8 at
all: what cannot be read is replaced, one replacement for each longest piece that could have been
the beginning of a character.
-/

namespace HostWatch.Text

/-- What stands at the front of some bytes. -/
inductive Front where
  /-- A character, and how many bytes it takes. -/
  | char (value : Char) (size : Nat)
  /-- No character; so many bytes could have begun one. -/
  | junk (size : Nat)
  deriving Repr, DecidableEq

/-- Bounds of the second byte after a first byte of a sequence of three or four. -/
def secondBounds (lead : UInt8) : UInt8 × UInt8 :=
  if lead = 0xE0 then (0xA0, 0xBF)
  else if lead = 0xED then (0x80, 0x9F)
  else if lead = 0xF0 then (0x90, 0xBF)
  else if lead = 0xF4 then (0x80, 0x8F)
  else (0x80, 0xBF)

/-- How many bytes the sequence takes that this byte begins; none if it begins none. -/
def sequenceSize (lead : UInt8) : Nat :=
  if lead < 0x80 then 1
  else if lead < 0xC2 then 0
  else if lead < 0xE0 then 2
  else if lead < 0xF0 then 3
  else if lead < 0xF5 then 4
  else 0

/-- The six low bits of a byte that continues a sequence. -/
def tailBits (b : UInt8) : Nat := b.toNat % 64

/-- Whether a byte continues a sequence. -/
def isTail (b : UInt8) : Bool := 0x80 ≤ b && b ≤ 0xBF

/-- Whether `b` may follow the first byte `lead`. -/
def isSecond (lead b : UInt8) : Bool :=
  (secondBounds lead).1 ≤ b && b ≤ (secondBounds lead).2

/-- What stands at the front of some bytes, of which the first is `lead`. -/
def front (lead : UInt8) (rest : List UInt8) : Front :=
  match sequenceSize lead, rest with
  | 1, _ => .char (Char.ofNat lead.toNat) 1
  | 2, b :: _ =>
    if isTail b then .char (Char.ofNat (lead.toNat % 32 * 64 + tailBits b)) 2 else .junk 1
  | 3, b :: r =>
    if isSecond lead b then
      match r with
      | c :: _ =>
        if isTail c then
          .char (Char.ofNat ((lead.toNat % 16 * 64 + tailBits b) * 64 + tailBits c)) 3
        else .junk 2
      | [] => .junk 2
    else .junk 1
  | 4, b :: r =>
    if isSecond lead b then
      match r with
      | c :: r =>
        if isTail c then
          match r with
          | d :: _ =>
            if isTail d then
              .char (Char.ofNat
                (((lead.toNat % 8 * 64 + tailBits b) * 64 + tailBits c) * 64 + tailBits d)) 4
            else .junk 3
          | [] => .junk 3
        else .junk 2
      | [] => .junk 2
    else .junk 1
  | _, _ => .junk 1

/-- Reads bytes as text, the first list bounding the number of steps. -/
def decodeFrom : List UInt8 → List UInt8 → List Char
  | [], _ => []
  | _ :: _, [] => []
  | _ :: bound, b :: rest =>
    match front b rest with
    | .char c size => c :: decodeFrom bound (rest.drop (size - 1))
    | .junk size => '\uFFFD' :: decodeFrom bound (rest.drop (size - 1))

/-- Reads bytes as text; what is no UTF-8 is replaced. -/
def decodeLossy (bytes : List UInt8) : String := .ofList (decodeFrom bytes bytes)

/-- Reads bytes as text if all of them are UTF-8, the first list bounding the number of steps. -/
def charsFrom? : List UInt8 → List UInt8 → Option (List Char)
  | _, [] => some []
  | [], _ :: _ => none
  | _ :: bound, b :: rest =>
    match front b rest with
    | .char c size => (charsFrom? bound (rest.drop (size - 1))).map (c :: ·)
    | .junk _ => none

/-- Reads bytes as text if all of them are UTF-8. -/
def decode? (bytes : List UInt8) : Option String := (charsFrom? bytes bytes).map .ofList

/-- What is left after the characters at the front, the first list bounding the number of steps. -/
def unreadFrom : List UInt8 → List UInt8 → List UInt8
  | _ :: bound, b :: rest =>
    match front b rest with
    | .char _ size => unreadFrom bound (rest.drop (size - 1))
    | .junk _ => b :: rest
  | _, _ => []

/-- The bytes from the first on at which no character stands; none if all of them are UTF-8. -/
def unread (bytes : List UInt8) : List UInt8 := unreadFrom bytes bytes

/-- The UTF-8 bytes of a text. -/
def utf8 (s : String) : List UInt8 := s.toUTF8.data.toList

end HostWatch.Text
