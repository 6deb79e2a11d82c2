import HostWatch.Host.Packages

/-!
# The files of a host

What the kernel tells about a host: memory, load, processors and mounted disks, as texts of
`/proc`.
-/

namespace HostWatch

/-- What comes of reading a file: its text or an error. -/
abbrev FileText := Except OsError String

/-! ## Memory -/

/-- The fields of the memory table that count, in bytes. -/
structure MemoryTable where
  total : Nat := 0
  free : Nat := 0
  available : Nat := 0
  buffers : Nat := 0
  cached : Nat := 0
  shared : Nat := 0
  reclaimable : Nat := 0
  deriving Repr, DecidableEq

namespace MemoryTable

/-- Greatest number that a size can be. -/
def maxSize : Nat := Nat.pow 2 64 - 1

/-- A size, or the greatest one if it is greater. -/
def capped (n : Nat) : Nat := min n maxSize

/-- The name and the number of a line of the table. -/
def entry? (line : List Char) : Option (String × Nat) :=
  match Text.pieces (· = ':') line with
  | name :: value :: _ =>
    let word := (Text.trimStart value).takeWhile (· ≠ ' ')
    (parseCount? word).map fun n => (.ofList name, n)
  | _ => none

/-- The table with one more entry, which is in units of 1024 bytes. -/
def put (t : MemoryTable) : String × Nat → MemoryTable
  | (name, n) =>
    let size := capped (n * 1024)
    match name with
    | "MemTotal" => { t with total := size }
    | "MemFree" => { t with free := size }
    | "MemAvailable" => { t with available := size }
    | "Buffers" => { t with buffers := size }
    | "Cached" => { t with cached := size }
    | "Shmem" => { t with shared := size }
    | "SReclaimable" => { t with reclaimable := size }
    | _ => t

/-- What is about free, by the fields that old kernels have. -/
def estimate (t : MemoryTable) : Nat :=
  capped (capped (capped (t.free + t.buffers) + t.cached) + t.reclaimable) - t.shared

/-- The table with the entries of a text; fields that it does not have stay. If it does not say what
is available, that is estimated. -/
def read (t : MemoryTable) (content : FileText) : MemoryTable :=
  let entries := match content with
    | .ok s => (Text.pieces (· = '\n') s.toList).filterMap entry?
    | .error _ => []
  let t := entries.foldl put t
  if entries.any (·.1 = "MemAvailable") then t else { t with available := t.estimate }

/-- The use of memory that a table shows. -/
def use (t : MemoryTable) : Except SampleError MemoryUse :=
  if t.total = 0 then .error (.unavailable "memory totals unavailable")
  else .ok ⟨t.total - t.available, t.total⟩

end MemoryTable

/-! ## Load -/

/-- Reads a decimal number without an exponent. -/
def parseDecimal? (cs : List Char) : Option Float :=
  let whole := cs.takeWhile Char.isDigit
  let rest := cs.drop whole.length
  let fraction := match rest with
    | '.' :: digits => digits
    | _ => []
  if (whole ++ fraction).isEmpty || !fraction.all Char.isDigit
    || (rest ≠ [] ∧ rest.head? ≠ some '.')
  then none
  else
    let n := (whole ++ fraction).foldl (fun n c => n * 10 + (c.toNat - 48)) 0
    some (Float.ofScientific n true fraction.length)

/-- The load averages that a text shows. What it does not show is zero. -/
def Load.parse (content : String) : Load :=
  let words := (Text.pieces (· = ' ') (Text.trimmed content.toList)).take 3
  match words.filterMap parseDecimal? with
  | [one, five, fifteen] => ⟨one, five, fifteen⟩
  | [one, five] => ⟨one, five, 0⟩
  | [one] => ⟨one, 0, 0⟩
  | _ => {}

/-! ## Processors -/

/-- The number of processors that a text lists after its first line. -/
def processorCount (content : String) : Nat :=
  match Text.lines content.toList with
  | first :: rest =>
    if "cpu ".toList.isPrefixOf first then (rest.takeWhile ("cpu".toList.isPrefixOf ·)).length
    else 0
  | [] => 0

/-! ## Disks -/

/-- What the system says of the file system at a mount point. -/
structure VolumeSize where
  blockSize : Nat
  blocks : Nat
  available : Nat

/-- A line of the mount table. -/
structure Mount where
  device : String
  point : String
  kind : String
  deriving Repr, DecidableEq

namespace Mount

/-- A text with every occurrence of some characters replaced by one; the list bounds the steps. -/
def replaceAll (old : List Char) (new : Char) : List Char → List Char → List Char
  | [], cs => cs
  | _ :: bound, cs =>
    match cs with
    | [] => []
    | c :: rest =>
      if old.isPrefixOf (c :: rest) then
        new :: replaceAll old new bound (rest.drop (old.length - 1))
      else c :: replaceAll old new bound rest

/-- A mount point without its escapes. -/
def unescaped (cs : List Char) : List Char :=
  let replaced (cs : List Char) (old : String) (new : Char) : List Char :=
    replaceAll old.toList new cs cs
  replaced (replaced (replaced (replaced cs "\\134" '\\') "\\040" ' ') "\\011" '\t') "\\012" '\n'

/-- Reads a line. What it lacks is empty. -/
def ofLine (line : List Char) : Mount :=
  match Text.words line with
  | [] => ⟨"", "", ""⟩
  | [device] => ⟨.ofList device, "", ""⟩
  | [device, point] => ⟨.ofList device, .ofList (unescaped point), ""⟩
  | device :: point :: kind :: _ => ⟨.ofList device, .ofList (unescaped point), .ofList kind⟩

/-- Kinds of file system that are no disks, or that may not answer. -/
def ignoredKinds : List String :=
  ["rootfs", "sysfs", "proc", "devtmpfs", "cgroup", "cgroup2", "pstore", "squashfs", "rpc_pipefs",
    "iso9660", "tmpfs", "cifs", "nfs", "nfs4"]

/-- A mount that may be a disk. -/
def IsDisk (m : Mount) : Prop :=
  let under (start : String) : Bool := Text.Str.startsWith m.point start
  m.kind ∉ ignoredKinds ∧ under "/sys" = false ∧ under "/proc" = false
    ∧ (under "/run" = true → under "/run/media" = true)
    ∧ Text.Str.startsWith m.device "sunrpc" = false

instance : DecidablePred IsDisk := fun m => by unfold IsDisk; infer_instance

end Mount

/-- The disks of a mount table; `size` asks the system about a mount point. -/
def disksOf (size : String → Option VolumeSize) (content : String) : List DiskUse :=
  ((Text.lines content.toList).map Mount.ofLine).filterMap fun m =>
    if m.IsDisk then
      (size m.point).bind fun v =>
        let total := MemoryTable.capped (v.blockSize * v.blocks)
        let available := MemoryTable.capped (v.blockSize * v.available)
        if total = 0 then none else some ⟨m.point, total - available, total⟩
    else none

/-- The later of two disks unless the earlier one is larger. -/
def largerDisk (a b : DiskUse) : DiskUse := if b.total < a.total then a else b

/-- The disk that is watched: the one at the root, or else the largest one. -/
def watchedDisk (disks : List DiskUse) : Except SampleError DiskUse :=
  match disks.find? (·.mount = "/"), disks with
  | some d, _ => .ok d
  | none, d :: rest => .ok (rest.foldl largerDisk d)
  | none, [] => .error (.unavailable "no mounted disks")

end HostWatch
