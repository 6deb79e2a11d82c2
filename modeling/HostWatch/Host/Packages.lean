import HostWatch.Monitor.Reading
import HostWatch.Text.Blank
import HostWatch.Text.Utf8

/-!
# Package updates

How many updates wait for a host, as its package tool tells. The first tool that the host has is
the one that counts, even if it fails.
-/

namespace HostWatch

/-- The tools that are asked, the first one first. -/
inductive PackageTool where
  | apt
  | checkupdates
  | dnf
  deriving Repr, DecidableEq

namespace PackageTool

/-- Every tool, in the order in which they are looked for. -/
def all : List PackageTool := [apt, checkupdates, dnf]

/-- The name of the program. -/
def program : PackageTool → String
  | apt => "apt"
  | checkupdates => "checkupdates"
  | dnf => "dnf"

/-- What the program is told. -/
def arguments : PackageTool → List String
  | apt => ["list", "--upgradable"]
  | checkupdates => []
  | dnf => ["check-update", "-q"]

/-! ## Outputs -/

/-- A line about a package that can be upgraded. -/
def IsUpgradable (line : List Char) : Prop := Text.occurs "[upgradable from".toList line = true

instance : DecidablePred IsUpgradable := fun _ => inferInstanceAs (Decidable (_ = true))

/-- A line whose first word names a security pocket. -/
def NamesSecurity (line : List Char) : Prop :=
  Text.occurs "-security".toList ((Text.words line).headD []) = true

instance : DecidablePred NamesSecurity := fun _ => inferInstanceAs (Decidable (_ = true))

/-- Counts the lines about packages that can be upgraded. -/
def countUpgradable (output : List Char) : UpdateCounts :=
  let found := (Text.lines output).filter fun line => decide (IsUpgradable line)
  ⟨found.length, found.countP fun line => decide (NamesSecurity line)⟩

/-- Counts the lines with an arrow. -/
def countArrows (output : List Char) : UpdateCounts :=
  ⟨(Text.lines output).countP (Text.occurs "->".toList), 0⟩

/-- A line with a package, its version and its repository. -/
def IsListed (line : List Char) : Prop :=
  match Text.words line with
  | [name, _, _] => '.' ∈ name
  | _ => False

instance : DecidablePred IsListed := fun line => by unfold IsListed; split <;> infer_instance

/-- Counts the lines with a package, up to the section of what is obsolete. -/
def countListed (output : List Char) : UpdateCounts :=
  let listed := (Text.lines output).takeWhile fun line => !"Obsoleting".toList.isPrefixOf line
  ⟨listed.countP fun line => decide (IsListed line), 0⟩

/-- What a tool's output says. -/
def count : PackageTool → String → UpdateCounts
  | apt, output => countUpgradable output.toList
  | checkupdates, output => countArrows output.toList
  | dnf, output => countListed output.toList

/-! ## Runs -/

/-- How a program ended: its exit status, if no signal killed it, and what it printed. -/
structure Output where
  status : Option Int
  printed : List UInt8

/-- What comes of starting a program. -/
inductive Run where
  /-- There is no such program. -/
  | missing
  | refused (cause : OsError)
  | ended (output : Output)

/-- The status in a message. -/
def statusText : Option Int → String
  | some n => "Some(" ++ toString n ++ ")"
  | none => "None"

/-- What the output of a tool means. Some tools tell by their status that there are no updates; a
status that a tool does not use for success is an error, except that the first tool's is ignored. -/
def interpret (tool : PackageTool) (o : Output) : Except SampleError UpdateCounts :=
  let counts := tool.count (Text.decodeLossy o.printed)
  match tool, o.status with
  | apt, _ | checkupdates, some 0 | dnf, some 100 => .ok counts
  | checkupdates, some 2 | dnf, some 0 => .ok {}
  | checkupdates, s => .error (.unavailable ("checkupdates exited with " ++ statusText s))
  | dnf, s => .error (.unavailable ("dnf check-update exited with " ++ statusText s))

/-- Counts updates with the first of the tools that the host has. -/
def countUpdates (run : PackageTool → Run) : List PackageTool → Except SampleError UpdateCounts
  | [] => .error (.unavailable "no supported package manager found")
  | tool :: tools =>
    match run tool with
    | .missing => countUpdates run tools
    | .refused cause => .error (.unreadable tool.program cause)
    | .ended o => tool.interpret o

end PackageTool

end HostWatch
