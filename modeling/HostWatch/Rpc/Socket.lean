import HostWatch.OsError

/-!
# The socket file

Binding a server makes a file that clients connect to. The directory is made, whatever stands at
the path is removed, the file appears, the server begins to listen, and the file is opened to
everyone or to one group. The system may refuse each step, and the result says what then stands at
the path.
-/

namespace HostWatch.Rpc

/-- What stands at a path. -/
inductive Entry where
  | nothing
  | file
  /-- A link, wherever it leads. -/
  | link
  | directory
  /-- A socket, with its permission bits. -/
  | socket (mode : Nat)
  deriving Repr, DecidableEq

/-- A socket stands there. -/
def Entry.IsSocket : Entry → Prop
  | .socket _ => True
  | _ => False

instance : DecidablePred Entry.IsSocket := fun e => by
  cases e <;> unfold Entry.IsSocket <;> infer_instance

/-- Where and how to bind. -/
structure SocketOptions where
  path : String
  /-- How many connections may wait to be accepted. -/
  backlog : Int
  /-- The group that may use the socket; anyone may if there is none. -/
  group : Option String

/-- Errors of the socket interface. -/
inductive SocketFault where
  | nameTooLong
  | invalidArgument
  | addressInUse
  | notFound
  /-- Any other, with its name and its words. -/
  | other (name words : String)
  deriving Repr, DecidableEq

/-- The error in words. -/
def SocketFault.message : SocketFault → String
  | .nameTooLong => "ENAMETOOLONG: File name too long"
  | .invalidArgument => "EINVAL: Invalid argument"
  | .addressInUse => "EADDRINUSE: Address already in use"
  | .notFound => "ENOENT: No such file or directory"
  | .other name words => name ++ ": " ++ words

/-- Why a server could not be bound. -/
inductive BindError where
  | files (cause : OsError)
  | setup (cause : SocketFault)
  | unknownGroup (name : String)
  deriving Repr, DecidableEq

/-- The error in words. -/
def BindError.message : BindError → String
  | .files e => "socket I/O error: " ++ e.message
  | .setup e => "socket setup failed: " ++ e.message
  | .unknownGroup name => "unknown socket group '" ++ name ++ "'"

/-- What binding finds on the host. -/
structure Surroundings where
  /-- Whether the directory of the path can be made. -/
  directory : Except OsError Unit
  /-- What stands at the path. -/
  entry : Entry
  /-- The groups that there are. -/
  groups : List String

/-- The steps of binding that the system refuses. -/
structure Refusals where
  /-- What stands at the path cannot be looked at, and counts as nothing. -/
  look : Bool := false
  removal : Option OsError := none
  socket : Option SocketFault := none
  address : Option SocketFault := none
  listening : Option SocketFault := none
  groups : Option SocketFault := none
  owner : Option SocketFault := none
  mode : Option OsError := none
  /-- Removing the file again. -/
  cleanup : Option OsError := none

/-- The result of a step, unless the system refuses it. -/
def unlessRefused (refused : Option ε) (result : Except ε α) : Except ε α :=
  match refused with
  | some e => .error e
  | none => result

/-! ## What stands at the path -/

/-- Permission bits of a socket file that has just appeared. -/
def freshMode : Nat := 0o755

/-- Permission bits of a socket for everyone. -/
def openMode : Nat := 0o666

/-- Permission bits of a socket for one group. -/
def groupMode : Nat := 0o660

namespace Entry

/-- What removing an entry leaves: a directory cannot be removed. -/
def remove : Entry → Except OsError Entry
  | .directory => .error .isADirectory
  | _ => .ok .nothing

/-- What stands at the path after the server has cleaned up. -/
def cleanup (e : Entry) : Entry :=
  match e.remove with
  | .ok e => e
  | .error _ => e

/-- Makes room for a socket. -/
def vacate (refused : Refusals) (e : Entry) : Except OsError Entry :=
  if refused.look ∨ e = .nothing then .ok e else unlessRefused refused.removal e.remove

/-- A socket appears where there is room for it. -/
def appear (e : Entry) : Except SocketFault Entry :=
  if e = .nothing then .ok (.socket freshMode) else .error .addressInUse

/-- Gives what stands there to a group. -/
def own (e : Entry) : Except SocketFault Unit :=
  if e = .nothing then .error .notFound else .ok ()

/-- Sets the permission bits of a socket. -/
def permit (mode : Nat) : Entry → Except OsError Entry
  | .nothing => .error .notFound
  | .socket _ => .ok (.socket mode)
  | e => .ok e

/-- What a server that gives up leaves. -/
def discard (refused : Refusals) (e : Entry) : Entry :=
  match refused.cleanup with
  | some _ => e
  | none => e.cleanup

end Entry

/-! ## Binding -/

/-- A path must be shorter than this, in bytes. -/
def maxSocketPath : Nat := 108

/-- A backlog must be below this. -/
def maxBacklog : Int := 4096

/-- The address of a path, if it can be one. -/
def checkPath (path : String) : Except SocketFault Unit :=
  if path.toList.contains '\x00' then .error .invalidArgument
  else if maxSocketPath ≤ path.utf8ByteSize then .error .nameTooLong
  else .ok ()

/-- Of the connections that wait, there can be one at least, and not too many. -/
def checkBacklog (backlog : Int) : Except SocketFault Unit :=
  if maxBacklog ≤ max 1 backlog then .error .invalidArgument else .ok ()

/-- A group has to exist. -/
def checkGroup (groups : List String) (name : String) : Except BindError Unit :=
  if name ∈ groups then .ok () else .error (.unknownGroup name)

namespace SocketOptions

/-- The socket gets its address, and with it its file. One without a path has no file. -/
def address (o : SocketOptions) (refused : Refusals) (entry : Entry) :
    Except SocketFault Entry := do
  unlessRefused refused.socket (.ok ())
  checkPath o.path
  unlessRefused refused.address (if o.path.isEmpty then .ok .nothing else entry.appear)

/-- Makes the socket and its file, and gives what then stands at the path. So does an error. -/
def create (o : SocketOptions) (s : Surroundings) (refused : Refusals) :
    Except (BindError × Entry) Entry := do
  s.directory.mapError fun e => (.files e, s.entry)
  let entry ← (s.entry.vacate refused).mapError fun e => (.files e, s.entry)
  (o.address refused entry).mapError fun e => (.setup e, entry)

/-- Lets clients connect. -/
def listen (o : SocketOptions) (refused : Refusals) : Except SocketFault Unit := do
  checkBacklog o.backlog
  unlessRefused refused.listening (.ok ())

/-- Opens the file to those who may use the socket. -/
def grant (o : SocketOptions) (s : Surroundings) (refused : Refusals) (entry : Entry) :
    Except BindError Entry :=
  match o.group with
  | none => (unlessRefused refused.mode (entry.permit openMode)).mapError .files
  | some name => do
    unlessRefused (refused.groups.map .setup) (checkGroup s.groups name)
    (unlessRefused refused.owner entry.own).mapError .setup
    (unlessRefused refused.mode (entry.permit groupMode)).mapError .files

/-- Binds a server, and says what then stands at the path. A file that cannot be opened is
removed. -/
def bind (o : SocketOptions) (s : Surroundings) (refused : Refusals := {}) :
    Except BindError Unit × Entry :=
  match o.create s refused with
  | .error (e, entry) => (.error e, entry)
  | .ok entry =>
    match o.listen refused with
    | .error e => (.error (.setup e), entry)
    | .ok () =>
      match o.grant s refused entry with
      | .error e => (.error e, entry.discard refused)
      | .ok entry => (.ok (), entry)

end SocketOptions

end HostWatch.Rpc
