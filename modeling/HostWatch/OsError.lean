/-!
# Errors of the operating system

The ways in which the system refuses a file or a socket, with the texts it gives them.
-/

namespace HostWatch

/-- Why the system refused something. -/
inductive OsError where
  | notFound
  | permissionDenied
  | fileExists
  | notADirectory
  | isADirectory
  | invalidArgument
  | addressInUse
  | timedOut
  | connectionRefused
  | connectionReset
  /-- The content of a file is no UTF-8. -/
  | invalidText
  /-- The path of a socket is too long. -/
  | socketPathTooLong
  /-- A path holds a character that none may hold. -/
  | nulInPath
  /-- The path of a socket holds such a character. -/
  | nulInSocketPath
  /-- Any other, with its number and its words. -/
  | other (number : Nat) (words : String)
  deriving Repr, DecidableEq

/-- The error in words, with its number. -/
def OsError.message : OsError → String
  | .notFound => "No such file or directory (os error 2)"
  | .permissionDenied => "Permission denied (os error 13)"
  | .fileExists => "File exists (os error 17)"
  | .notADirectory => "Not a directory (os error 20)"
  | .isADirectory => "Is a directory (os error 21)"
  | .invalidArgument => "Invalid argument (os error 22)"
  | .addressInUse => "Address already in use (os error 98)"
  | .timedOut => "Connection timed out (os error 110)"
  | .connectionRefused => "Connection refused (os error 111)"
  | .connectionReset => "Connection reset by peer (os error 104)"
  | .invalidText => "stream did not contain valid UTF-8"
  | .socketPathTooLong => "path must be shorter than SUN_LEN"
  | .nulInPath => "file name contained an unexpected NUL byte"
  | .nulInSocketPath => "paths must not contain interior null bytes"
  | .other number words => words ++ " (os error " ++ toString number ++ ")"

end HostWatch
