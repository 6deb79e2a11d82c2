import HostWatch.Console.Command

/-!
# The command line

How words become a command. The command line has levels: the program itself, the group of commands
about the settings, and the commands. Options may stand at any level that knows them, after a bare
double dash only operands stand, and an option may be given once at each level. The words are read
from left to right, and the first thing wrong counts; a value is looked at only when the next
option or the end of the level shows that it is complete.
-/

namespace HostWatch.Console

/-- Why words are no command. -/
inductive Misuse where
  /-- The user asked for help. -/
  | helpWanted
  /-- The user asked for the version. -/
  | versionWanted
  /-- Nothing was given where a command is needed. -/
  | nothingGiven
  | noCommand
  | unknownCommand
  | unknownArgument
  /-- An option stands without its value. -/
  | valueMissing
  /-- An option has a value that it does not understand. -/
  | valueRefused
  /-- A flag has a value. -/
  | valueUnwanted
  /-- Two things do not go together, or one is given twice. -/
  | conflict
  /-- The alert to change is not named. -/
  | targetMissing
  deriving Repr, DecidableEq

/-! ## Words -/

/-- What a word of the command line looks like. -/
inductive Word where
  /-- A double dash. -/
  | dashes
  /-- A name after a double dash, perhaps with a value after an equals sign. -/
  | long (name : String) (value : Option String)
  /-- Letters after a single dash. -/
  | short (first : Char)
  | plain
  deriving Repr, DecidableEq

namespace Word

/-- A name and the value after its first equals sign. -/
def cut : List Char → List Char × Option (List Char)
  | [] => ([], none)
  | '=' :: value => ([], some value)
  | c :: rest => ((c :: (cut rest).1), (cut rest).2)

/-- What a word looks like. -/
def of (word : String) : Word :=
  match word.toList with
  | ['-', '-'] => dashes
  | '-' :: '-' :: rest =>
    let (name, value) := cut rest
    long (.ofList name) (value.map .ofList)
  | '-' :: c :: _ => short c
  | _ => plain

end Word

/-! ## Levels -/

/-- Commands by what is typed. -/
inductive Verb where
  | ping
  | version
  | health
  | check
  | alerts
  | ack
  | dismiss
  | counts
  | showSettings
  | reloadSettings
  | shutdown
  deriving Repr, DecidableEq

/-- A level of the command line. -/
inductive Level where
  | program
  | settings
  | verb (verb : Verb)
  deriving Repr, DecidableEq

/-- Options without a value. -/
inductive Flag where
  | json
  | all
  | help
  | version
  deriving Repr, DecidableEq

/-- Options with a value. -/
inductive Choice where
  | socket
  | severity
  | category
  | status
  | source
  | limit
  deriving Repr, DecidableEq

/-- A whole number of 64 bits in decimal digits. -/
def limit? (text : String) : Option Nat :=
  let digits := match text.toList with
    | '+' :: rest => rest
    | cs => cs
  if digits.isEmpty || !digits.all Char.isDigit then none
  else
    let n := digits.foldl (fun n c => 10 * n + (c.toNat - '0'.toNat)) 0
    if n < Nat.pow 2 64 then some n else none

namespace Choice

/-- Whether an option understands a value. -/
def accepts (c : Choice) (value : String) : Bool :=
  match c with
  | socket | source => true
  | severity => (Severity.parse value).toBool
  | category => (Category.parse value).toBool
  | status => (Status.parse value).toBool
  | limit => (limit? value).isSome

end Choice

namespace Level

/-- The commands of a level. -/
def commands : Level → List (String × Level)
  | program =>
    [("ping", verb .ping), ("version", verb .version), ("health", verb .health),
      ("check", verb .check), ("alerts", verb .alerts), ("ack", verb .ack),
      ("dismiss", verb .dismiss), ("counts", verb .counts), ("config", settings),
      ("shutdown", verb .shutdown)]
  | settings => [("show", verb .showSettings), ("reload", verb .reloadSettings)]
  | verb _ => []

/-- The flags of a level. -/
def flags (l : Level) : List (String × Flag) :=
  [("json", .json), ("help", .help)]
    ++ (match l with
      | program => [("version", .version)]
      | verb .alerts | verb .ack | verb .dismiss => [("all", .all)]
      | _ => [])

/-- The flags of a level that have a letter. -/
def letters (l : Level) : List (Char × Flag) :=
  if l = program then [('h', .help), ('V', .version)] else [('h', .help)]

/-- The options of a level that have a value. -/
def choices (l : Level) : List (String × Choice) :=
  ("socket", .socket)
    :: (if l = verb .alerts then
      [("severity", .severity), ("category", .category), ("status", .status),
        ("source", .source), ("limit", .limit)]
    else [])

/-- Whether a level takes an operand. -/
def takesOperand (l : Level) : Bool := l = verb .ack || l = verb .dismiss

end Level

/-- The word that asks for help about commands. -/
def helpWord : String := "help"

/-- Help about the command that words name. -/
def helpAbout : Level → List String → Misuse
  | _, [] => .helpWanted
  | l, word :: rest =>
    match l.commands.lookup word with
    | some l => helpAbout l rest
    | none =>
      if word = helpWord ∧ !l.commands.isEmpty ∧ rest.isEmpty then .helpWanted else .unknownCommand

/-! ## Reading a level -/

/-- What has been given at a level so far. -/
structure Given where
  flags : List Flag := []
  values : List (Choice × String) := []
  /-- An option that has not been looked at yet, with its value if that has been read. -/
  open? : Option (Choice × Option String) := none
  operand : Option String := none
  /-- Only operands follow. -/
  literal : Bool := false

namespace Given

/-- Whether the last option still needs its value. -/
def awaits (g : Given) : Bool :=
  match g.open? with
  | some (_, none) => true
  | _ => false

/-- Takes an option with its value. -/
def take (g : Given) (c : Choice) (value : String) : Except Misuse Given :=
  if (g.values.lookup c).isSome then .error .conflict
  else if c.accepts value then .ok { g with values := g.values ++ [(c, value)] }
  else .error .valueRefused

/-- Looks at the option that is open. -/
def settle (g : Given) : Except Misuse Given :=
  match g.open? with
  | none => .ok g
  | some (_, none) => .error .valueMissing
  | some (c, some value) => { g with open? := none }.take c value

/-- Takes a flag. -/
def takeFlag (g : Given) (f : Flag) : Except Misuse Given :=
  match f with
  | .help => .error .helpWanted
  | .version => .error .versionWanted
  | f => if f ∈ g.flags then .error .conflict else .ok { g with flags := g.flags ++ [f] }

/-- Takes an option that is written out. -/
def takeLong (l : Level) (name : String) (value : Option String) (g : Given) :
    Except Misuse Given :=
  match l.choices.lookup name, l.flags.lookup name, value with
  | some c, _, some value => g.settle.bind (·.take c value)
  | some c, _, none => g.settle.map fun g => { g with open? := some (c, none) }
  | none, some _, some _ => .error .valueUnwanted
  | none, some f, none => g.settle.bind (·.takeFlag f)
  | none, none, _ => .error .unknownArgument

/-- Takes a letter. -/
def takeShort (l : Level) (letter : Char) (g : Given) : Except Misuse Given :=
  match l.letters.lookup letter with
  | some f => g.settle.bind (·.takeFlag f)
  | none => .error .unknownArgument

/-- Takes a word that is no option. -/
def takePlain (l : Level) (word : String) (g : Given) : Except Misuse Given :=
  if l.takesOperand && g.operand.isNone then
    g.settle.map fun g => { g with operand := some word }
  else if l.commands.isEmpty || (g.literal && (word = helpWord || (l.commands.lookup word).isSome))
  then .error .unknownArgument
  else .error .unknownCommand

/-- Takes a word that names no command. -/
def takeWord (l : Level) (word : String) (g : Given) : Except Misuse Given :=
  if g.literal then g.takePlain l word
  else
    match Word.of word, g.open? with
    | .dashes, _ => .ok { g with literal := true }
    | .long name value, _ => g.takeLong l name value
    | .short letter, _ => g.takeShort l letter
    | .plain, some (c, none) => .ok { g with open? := some (c, some word) }
    | .plain, _ => g.takePlain l word

/-- Whether commands are recognised where the next word stands. -/
def AtCommand (g : Given) : Prop := g.literal = false ∧ g.awaits = false

instance (g : Given) : Decidable g.AtCommand := inferInstanceAs (Decidable (_ ∧ _))

/-- Nothing has been given. -/
def IsEmpty (g : Given) : Prop := g.flags = [] ∧ g.values = [] ∧ g.operand = none

instance (g : Given) : Decidable g.IsEmpty := inferInstanceAs (Decidable (_ ∧ _ ∧ _))

/-- The filter that the options of a level describe. -/
def filter (g : Given) : Filter :=
  let named {α : Type} (c : Choice) (parse : String → Except UnknownName α) : Option α :=
    (g.values.lookup c).bind fun text => (parse text).toOption
  { severity := named .severity Severity.parse
    category := named .category Category.parse
    status := named .status Status.parse
    source := g.values.lookup .source
    includeDismissed := Flag.all ∈ g.flags
    limit := (g.values.lookup .limit).bind limit? }

/-- The alerts that a change is about: one, or all of them. -/
def target (g : Given) : Except Misuse Target :=
  match g.operand, decide (Flag.all ∈ g.flags) with
  | some _, true => .error .conflict
  | some id, false => .ok (.one id)
  | none, true => .ok .all
  | none, false => .error .targetMissing

end Given

/-- The command of a verb with what has been given for it. -/
def Verb.command (v : Verb) (g : Given) : Except Misuse Command :=
  match v with
  | .ping => .ok .ping
  | .version => .ok .version
  | .health => .ok .health
  | .check => .ok .check
  | .alerts => .ok (.alerts g.filter)
  | .ack => g.target.map .acknowledge
  | .dismiss => g.target.map .dismiss
  | .counts => .ok .counts
  | .showSettings => .ok .showSettings
  | .reloadSettings => .ok .reloadSettings
  | .shutdown => .ok .shutdown

/-! ## The whole command line -/

/-- What the user wants. -/
structure Invocation where
  /-- The socket to use. -/
  socket : Option String
  /-- Show results as they are. -/
  raw : Bool
  command : Command
  deriving Repr, DecidableEq

/-- What is given at a level goes for the commands below it, unless they are given it themselves. -/
def Invocation.within (inner : Invocation) (g : Given) : Invocation :=
  { inner with
    socket := inner.socket.or (g.values.lookup .socket)
    raw := inner.raw || decide (Flag.json ∈ g.flags) }

/-- The invocation when the words of a level have ended. -/
def Level.finish (l : Level) (g : Given) : Except Misuse Invocation := do
  let g ← g.settle
  match l with
  | .verb v => return Invocation.within ⟨none, false, ← v.command g⟩ g
  | _ => throw (if g.IsEmpty then .nothingGiven else .noCommand)

/-- Reads the words of a level, and of the levels below it. -/
def Level.read (l : Level) (g : Given) : List String → Except Misuse Invocation
  | [] => l.finish g
  | word :: rest =>
    match l.commands.lookup word, decide g.AtCommand with
    | some below, true => do
      let inner ← below.read {} rest
      return inner.within (← g.settle)
    | none, true =>
      if word = helpWord ∧ !l.commands.isEmpty then .error (helpAbout l rest)
      else (g.takeWord l word).bind fun g => l.read g rest
    | _, false => (g.takeWord l word).bind fun g => l.read g rest

/-- Reads the words after the name of the program. -/
def Invocation.ofWords (words : List String) : Except Misuse Invocation :=
  Level.program.read {} words

end HostWatch.Console
