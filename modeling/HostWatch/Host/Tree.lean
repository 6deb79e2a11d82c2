import HostWatch.Path
import HostWatch.Rpc.Socket
import HostWatch.Store.Basic

/-!
# Paths of a host

What stands where, as far as it matters when a daemon starts: which directories can be made, what
a socket file has to replace, and what a database would be opened on. Paths are compared in their
normal form; where nothing is known to stand, there is nothing.
-/

namespace HostWatch

/-- The paths at which something stands. -/
structure FileTree where
  directories : List String := []
  files : List String := []
  links : List String := []

namespace FileTree

/-- Makes a directory and those around it. -/
def makeDirectory (t : FileTree) (path : String) : Except OsError Unit :=
  if path.toList.contains '\x00' then .error .nulInPath
  else if path ∈ t.files then .error .fileExists
  else if t.files.any fun file => path.startsWith (file ++ "/") then .error .notADirectory
  else .ok ()

/-- What stands at a path. -/
def entry (t : FileTree) (path : String) : Rpc.Entry :=
  let path := Path.normal path
  if path ∈ t.directories then .directory
  else if path ∈ t.files then .file
  else if path ∈ t.links then .link
  else .nothing

/-- What binding a socket at a path finds. -/
def surroundings (t : FileTree) (groups : List String) (path : String) : Rpc.Surroundings :=
  ⟨t.makeDirectory (Path.parent path), t.entry path, groups⟩

/-- What opening a database at a path finds: a new one, or something that is none. -/
def site (t : FileTree) (path : String) : Store.Site :=
  match t.makeDirectory (Path.parent path), t.entry path with
  | .error e, _ => .unreachable (Path.parent path) e
  | .ok (), .nothing => .database none
  | .ok (), _ => .otherFile

/-- Why nobody answers at a path at which nobody listens. -/
def refusal (t : FileTree) (path : String) : OsError :=
  match t.entry path with
  | .nothing =>
    if t.files.any fun file => (Path.normal path).startsWith (file ++ "/") then .notADirectory
    else .notFound
  | _ => .connectionRefused

end FileTree

end HostWatch
