import HostWatch.Text.Caseless
import HostWatch.Text.Utf8

/-!
# Addresses of backends

A backend is reached at an address with the scheme `http` or `https`: the host that is asked, and
the target that is asked for.
-/

namespace HostWatch

/-- Whom to ask, and for what. -/
structure Address where
  secure : Bool
  host : String
  target : String
  deriving Repr, DecidableEq

namespace Address

/-- A character that ends the name of the host. -/
def endsHost (c : Char) : Bool := c = '/' || c = '?' || c = '#' || c = '\\'

/-- A character that may stand in the part of an address that names the host. -/
def isHostChar (c : Char) : Bool :=
  c.isAlphanum || c = '-' || c = '.' || c = ':' || c = '_' || c = '[' || c = ']' || c = '@'
    || c.toNat ≥ 0x80

/-- A byte that is written as it is in a target. -/
def isPlain (b : UInt8) : Bool :=
  0x20 < b && b < 0x7F && !"\"<>`\x7b\x7d".toList.contains (Char.ofNat b.toNat)

/-- A hexadecimal digit. -/
def hexDigit (n : Nat) : Char := if n < 10 then Char.ofNat (48 + n) else Char.ofNat (55 + n)

/-- A text in which every byte that is not plain is written as a percent sign and its number. -/
def escaped (cs : List Char) : List Char :=
  (Text.utf8 (.ofList cs)).flatMap fun b =>
    if isPlain b then [Char.ofNat b.toNat]
    else ['%', hexDigit (b.toNat / 16), hexDigit (b.toNat % 16)]

/-- The schemes, and whether they are secure. -/
def schemes : List (String × Bool) := [("http://", false), ("https://", true)]

/-- Reads an address. -/
def parse? (text : String) : Option Address := do
  let cs := text.toList
  let (scheme, secure) ← schemes.find? fun (s, _) =>
    Text.Str.lower (.ofList (cs.take s.length)) = s
  let rest := cs.drop scheme.length
  let host := rest.takeWhile fun c => !endsHost c
  if host.isEmpty || !host.all isHostChar then none
  else
    let target := (rest.drop host.length).takeWhile (· ≠ '#')
    let rooted := if target.head? = some '/' then target else '/' :: target
    some ⟨secure, .ofList host, .ofList (escaped rooted)⟩

end Address

end HostWatch
