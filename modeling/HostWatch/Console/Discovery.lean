import HostWatch.Path

/-!
# Finding the socket

Where the console looks for the daemon: where it is told to, where the environment says, at the
usual place of the system, at the usual place of the user, and failing all that at the usual place
of the system again.
-/

namespace HostWatch.Console

/-- What the console finds around it. -/
structure Environment where
  /-- The variable that names the socket. -/
  socket : Option String
  /-- The variable that names the directory for what a user runs. -/
  runtimeDirectory : Option String
  /-- Whether anything stands at a path. -/
  exists? : String → Bool

/-- The socket of a user, if the directory for what the user runs is an absolute path. -/
def userSocket? (env : Environment) : Option String :=
  match env.runtimeDirectory with
  | none => none
  | some directory =>
    if directory.startsWith "/" then some (Path.join directory "cortex/cortex.sock") else none

/-- The path of the socket. -/
def socketPath (given : Option String) (env : Environment) : String :=
  match given with
  | some path => path
  | none =>
    match env.socket.filter (!·.isEmpty) with
    | some path => path
    | none =>
      if env.exists? Path.defaultSocket then Path.defaultSocket
      else ((userSocket? env).filter env.exists?).getD Path.defaultSocket

end HostWatch.Console
