import HostWatch.Toml.Node
import HostWatch.Text.Blank

/-!
# Scalars of a TOML document

Readers take the characters at the front of a text and give a value and the characters after it,
or nothing when no such value stands there.
-/

namespace HostWatch.Toml

/-- A reader of something at the front of a text. -/
abbrev Reader (α : Type) := List Char → Option (α × List Char)

/-- Blanks and tabs are skipped. -/
def skipBlanks : List Char → List Char := List.dropWhile fun c => c = ' ' || c = '\t'

/-- A line end: a line feed, or a carriage return and a line feed. -/
def lineEnd : List Char → Option (List Char)
  | '\n' :: rest => some rest
  | '\r' :: '\n' :: rest => some rest
  | _ => none

/-- The text after one that stands at the front. -/
def after : List Char → List Char → Option (List Char)
  | [], rest => some rest
  | w :: word, c :: rest => if w = c then after word rest else none
  | _ :: _, [] => none

/-- Characters that may stand in a comment. -/
def isCommentChar (c : Char) : Bool := c = '\t' || (0x20 ≤ c.toNat && c.toNat ≠ 0x7F)

/-- Skips a comment, if one stands there. -/
def skipComment : List Char → List Char
  | '#' :: rest => rest.dropWhile isCommentChar
  | cs => cs

/-! ## Numbers -/

/-- Digits, where an underscore may stand between two of them, after the first digit. -/
def moreDigits (isDigit : Char → Bool) : List Char → List Char × List Char
  | '_' :: d :: rest =>
    if isDigit d then
      let (ds, rest) := moreDigits isDigit rest
      (d :: ds, rest)
    else ([], '_' :: d :: rest)
  | c :: rest =>
    if isDigit c then
      let (ds, rest) := moreDigits isDigit rest
      (c :: ds, rest)
    else ([], c :: rest)
  | [] => ([], [])

/-- One digit or more. -/
def digits (isDigit : Char → Bool) : Reader (List Char)
  | c :: rest =>
    if isDigit c then
      let (ds, rest) := moreDigits isDigit rest
      some (c :: ds, rest)
    else none
  | [] => none

/-- A sign; whether it is a minus. -/
def sign : List Char → Bool × List Char
  | '-' :: rest => (true, rest)
  | '+' :: rest => (false, rest)
  | cs => (false, cs)

/-- The digits of a decimal number: a zero stands alone. -/
def decimalDigits : Reader (List Char)
  | '0' :: rest => some (['0'], rest)
  | cs => digits Char.isDigit cs

/-- The value of a digit in any base up to 16. -/
def digitValue (c : Char) : Nat :=
  if c.isDigit then c.toNat - 48 else if c.isUpper then c.toNat - 55 else c.toNat - 87

/-- The number that digits write. -/
def valueOf (base : Nat) (ds : List Char) : Nat := ds.foldl (fun n c => n * base + digitValue c) 0

/-- A hexadecimal digit. -/
def isHexDigit (c : Char) : Bool :=
  c.isDigit || ('a' ≤ c && c ≤ 'f') || ('A' ≤ c && c ≤ 'F')

/-- A whole number of 64 bits with sign. -/
def inRange (n : Int) : Option Node :=
  if -(Int.pow 2 63) ≤ n ∧ n < Int.pow 2 63 then some (.int n) else none

/-- A whole number. -/
def integer (cs : List Char) : Option (Node × List Char) :=
  let based (base : Nat) (isDigit : Char → Bool) (cs : List Char) : Option (Node × List Char) := do
    let (ds, rest) ← digits isDigit cs
    return (← inRange (valueOf base ds), rest)
  match cs with
  | '0' :: 'x' :: rest => based 16 isHexDigit rest
  | '0' :: 'o' :: rest => based 8 (fun c => '0' ≤ c && c ≤ '7') rest
  | '0' :: 'b' :: rest => based 2 (fun c => c = '0' || c = '1') rest
  | _ => do
    let (negative, rest) := sign cs
    let (ds, rest) ← decimalDigits rest
    let n : Int := valueOf 10 ds
    return (← inRange (if negative then -n else n), rest)

/-- Greatest power of ten, up or down, at which a double is neither zero nor infinite. -/
def farthestPower : Int := 400

/-- The double nearest to `digits · 10 ^ exponent`. -/
def nearestFloat (ds : List Char) (exponent : Int) : Float :=
  let n := valueOf 10 ds
  let magnitude := exponent + ds.length
  if n = 0 ∨ magnitude < -farthestPower then 0
  else if farthestPower < magnitude - (ds.takeWhile (· = '0')).length then 1 / 0
  else if exponent < 0 then Float.ofScientific n true exponent.natAbs
  else Float.ofScientific n false exponent.natAbs

/-- A fraction, if one stands there. -/
def fraction : List Char → Option (List Char × List Char)
  | '.' :: rest => digits Char.isDigit rest
  | _ => none

/-- An exponent, if one stands there. -/
def exponentPart : List Char → Option (Int × List Char)
  | c :: rest =>
    if c = 'e' || c = 'E' then do
      let (negative, rest) := sign rest
      let (ds, rest) ← digits Char.isDigit rest
      let n : Int := valueOf 10 ds
      return (if negative then -n else n, rest)
    else none
  | [] => none

/-- A number with a fraction or an exponent. One too large is refused, unless it is negative. -/
def decimal (cs : List Char) : Option (Node × List Char) := do
  let (negative, rest) := sign cs
  let (whole, rest) ← decimalDigits rest
  let (ds, exponent, rest) ←
    match fraction rest with
    | some (part, rest) =>
      match exponentPart rest with
      | some (e, rest) => some (whole ++ part, e - part.length, rest)
      | none => some (whole ++ part, -(part.length : Int), rest)
    | none => (exponentPart rest).map fun (e, rest) => (whole, e, rest)
  let x := nearestFloat ds exponent
  if x.isInf && !negative then none
  else return (.float (if negative then -x else x), rest)

/-- Infinity, or what is no number, with or without a sign. -/
def specialFloat (cs : List Char) : Option (Node × List Char) :=
  let (negative, rest) := sign cs
  let x (y : Float) : Node := .float (if negative then -y else y)
  match rest with
  | 'i' :: 'n' :: 'f' :: rest => some (x (1 / 0), rest)
  | 'n' :: 'a' :: 'n' :: rest => some (x (0 / 0), rest)
  | _ => none

/-! ## Dates and times -/

/-- Exactly `n` digits, as a number. -/
def fixedDigits (n : Nat) (cs : List Char) : Option (Nat × List Char) :=
  let ds := cs.take n
  if ds.length = n ∧ ds.all Char.isDigit then some (valueOf 10 ds, cs.drop n) else none

/-- Days of a month. -/
def daysIn (year month : Nat) : Nat :=
  if month = 2 then
    if year % 4 = 0 ∧ (year % 100 ≠ 0 ∨ year % 400 = 0) then 29 else 28
  else if month = 4 ∨ month = 6 ∨ month = 9 ∨ month = 11 then 30
  else 31

/-- A date. -/
def date (cs : List Char) : Option (List Char) := do
  let (year, rest) ← fixedDigits 4 cs
  let rest ← after ['-'] rest
  let (month, rest) ← fixedDigits 2 rest
  let rest ← after ['-'] rest
  let (day, rest) ← fixedDigits 2 rest
  if 1 ≤ month ∧ month ≤ 12 ∧ 1 ≤ day ∧ day ≤ daysIn year month then return rest else none

/-- A time of day. -/
def time (cs : List Char) : Option (List Char) := do
  let (hour, rest) ← fixedDigits 2 cs
  let rest ← after [':'] rest
  let (minute, rest) ← fixedDigits 2 rest
  let rest ← after [':'] rest
  let (second, rest) ← fixedDigits 2 rest
  if hour ≤ 23 ∧ minute ≤ 59 ∧ second ≤ 60 then
    match rest with
    | '.' :: d :: more =>
      if d.isDigit then return more.dropWhile Char.isDigit else none
    | _ => return rest
  else none

/-- The distance from universal time. -/
def zone (cs : List Char) : Option (List Char) :=
  match cs with
  | 'Z' :: rest | 'z' :: rest => some rest
  | c :: rest =>
    if c = '+' || c = '-' then do
      let (hour, rest) ← fixedDigits 2 rest
      let rest ← after [':'] rest
      let (minute, rest) ← fixedDigits 2 rest
      if hour ≤ 23 ∧ minute ≤ 59 then return rest else none
    else none
  | [] => none

/-- A date, a time, or both. -/
def moment (cs : List Char) : Option (Node × List Char) :=
  match date cs with
  | some rest =>
    match rest with
    | c :: more =>
      if c = 'T' || c = 't' || c = ' ' then
        match time more with
        | some rest => some (.moment, (zone rest).getD rest)
        | none => some (.moment, rest)
      else some (.moment, rest)
    | [] => some (.moment, rest)
  | none => (time cs).map (.moment, ·)

/-- A number, a date or a time. -/
def numeric (cs : List Char) : Option (Node × List Char) :=
  (moment cs).or ((decimal cs).or ((specialFloat cs).or (integer cs)))

/-! ## Strings -/

/-- Characters that stand for themselves between quotes, the quotes and the backslash aside. -/
def isPlainChar (c : Char) : Bool := c = '\t' || (0x20 ≤ c.toNat && c.toNat ≠ 0x7F)

/-- The character with the number that `n` hexadecimal digits write. -/
def codePoint (n : Nat) (cs : List Char) : Option (Char × List Char) :=
  let ds := cs.take n
  if ds.length = n ∧ ds.all isHexDigit then
    let code := valueOf 16 ds
    if h : code.isValidChar then some (Char.ofNatAux code h, cs.drop n) else none
  else none

/-- What follows a backslash. -/
def escape : Reader Char
  | 'b' :: rest => some ('\x08', rest)
  | 't' :: rest => some ('\t', rest)
  | 'n' :: rest => some ('\n', rest)
  | 'f' :: rest => some ('\x0c', rest)
  | 'r' :: rest => some ('\r', rest)
  | '"' :: rest => some ('"', rest)
  | '\\' :: rest => some ('\\', rest)
  | 'u' :: rest => codePoint 4 rest
  | 'U' :: rest => codePoint 8 rest
  | _ => none

/-- The rest of a string in double quotes. The first list bounds the number of steps. -/
def basicString : List Char → List Char → Reader (List Char)
  | [], _, _ => none
  | _ :: bound, acc, cs =>
    match cs with
    | '"' :: rest => some (acc.reverse, rest)
    | '\\' :: rest =>
      match escape rest with
      | some (c, rest) => basicString bound (c :: acc) rest
      | none => none
    | c :: rest => if isPlainChar c then basicString bound (c :: acc) rest else none
    | [] => none

/-- The rest of a string in single quotes. -/
def literalString (cs : List Char) : Option (List Char × List Char) :=
  let content := cs.takeWhile fun c => c ≠ '\'' && isPlainChar c
  match cs.drop content.length with
  | '\'' :: rest => some (content, rest)
  | _ => none

/-- Blanks and line ends after a line that ends in a backslash. -/
def skipToText : List Char → List Char → List Char
  | [], cs => cs
  | _ :: bound, cs =>
    let cs := skipBlanks cs
    match lineEnd cs with
    | some rest => skipToText bound rest
    | none => cs

/-- The rest of a string in three quotes of a kind. Up to two quotes in a row belong to the text,
also right before the three that close it; a backslash means something only where `escapes` says
so. -/
def longString (quote : Char) (escapes : Bool) : List Char → List Char → Reader (List Char)
  | [], _, _ => none
  | _ :: bound, acc, cs =>
    match cs with
    | [] => none
    | c :: rest =>
      if c = quote then
        let run := cs.takeWhile (· = quote)
        if 3 ≤ run.length then
          let own := min (run.length - 3) 2
          some (acc.reverse ++ List.replicate own quote, cs.drop (own + 3))
        else longString quote escapes bound (run ++ acc) (cs.drop run.length)
      else if c = '\\' && escapes then
        match lineEnd (skipBlanks rest) with
        | some next => longString quote escapes bound acc (skipToText next next)
        | none =>
          match escape rest with
          | some (e, rest) => longString quote escapes bound (e :: acc) rest
          | none => none
      else
        match lineEnd cs with
        | some rest => longString quote escapes bound ('\n' :: acc) rest
        | none => if isPlainChar c then longString quote escapes bound (c :: acc) rest else none

/-- A line end right after the opening quotes does not count. -/
def afterOpening (cs : List Char) : List Char := (lineEnd cs).getD cs

/-- A string of any kind. -/
def string : Reader String
  | '"' :: '"' :: '"' :: rest =>
    (longString '"' true ('"' :: rest) [] (afterOpening rest)).map fun (s, rest) =>
      (.ofList s, rest)
  | '\'' :: '\'' :: '\'' :: rest =>
    (longString '\'' false ('\'' :: rest) [] (afterOpening rest)).map fun (s, rest) =>
      (.ofList s, rest)
  | '"' :: rest => (basicString ('"' :: rest) [] rest).map fun (s, rest) => (.ofList s, rest)
  | '\'' :: rest => (literalString rest).map fun (s, rest) => (.ofList s, rest)
  | _ => none

end HostWatch.Toml
