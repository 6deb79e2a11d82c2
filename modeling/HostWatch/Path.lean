/-!
# Paths

The places where the daemon and its client look unless they are told otherwise, paths inside a
directory, the names in a path, and paths that begin at the home directory.
-/

namespace HostWatch.Path

/-- The socket that the daemon listens on. -/
def defaultSocket : String := "/run/cortex/cortex.sock"

/-- The file of settings. -/
def defaultSettings : String := "/etc/cortex/daemon.toml"

/-- The database of alerts. -/
def defaultDatabase : String := "/var/lib/cortex/alerts.db"

/-- A path inside a directory. -/
def join (directory path : String) : String :=
  if directory.isEmpty || directory.endsWith "/" then directory ++ path
  else directory ++ "/" ++ path

/-- The names in a path, from the outermost directory inwards. -/
def names (path : String) : List String :=
  (path.splitOn "/").filter fun name => !name.isEmpty && name != "."

/-- Names put together to a path, which begins at the root if another path does. -/
def ofNames (like : String) (names : List String) : String :=
  (if like.startsWith "/" then "/" else "") ++ "/".intercalate names

/-- The path without slashes and single dots that mean nothing. -/
def normal (path : String) : String := ofNames path (names path)

/-- The directory that a path is in. -/
def parent (path : String) : String := ofNames path (names path).dropLast

/-- `cs` without the slashes at its end. -/
def dropSlashes (cs : List Char) : List Char := (cs.reverse.dropWhile (· = '/')).reverse

/-- The path with the home directory in place of a leading tilde that stands alone or before a
slash. Without a home directory the path stays as it is. -/
def expandHome (home : Option String) (path : String) : String :=
  match home, path.toList with
  | some home, ['~'] => .ofList (dropSlashes home.toList)
  | some home, '~' :: '/' :: rest => .ofList (dropSlashes home.toList ++ '/' :: rest)
  | _, _ => path

end HostWatch.Path
