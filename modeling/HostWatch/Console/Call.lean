import HostWatch.OsError
import HostWatch.Rpc.Socket
import HostWatch.Rpc.Message

/-!
# Calling the daemon

The console sends one request, reads the reply up to its end or up to the most it accepts, and
takes the result out of it. Everything that can go wrong has a text for people.
-/

namespace HostWatch.Console

open Rpc (Code DecodeError Request Response)

/-- What becomes of a request on its way. -/
inductive Exchange where
  /-- Nobody could be reached. -/
  | unreachable (cause : OsError)
  /-- The connection broke. -/
  | broken (cause : OsError)
  /-- These bytes came back. -/
  | answered (bytes : List UInt8)

/-- The most bytes of a reply that are read. -/
def maxReply : Nat := 16 * 65536

/-- Why a call has no result. -/
inductive CallError where
  | connect (path : String) (user : Option String) (cause : OsError)
  | transfer (cause : OsError)
  | response (cause : DecodeError)
  | daemon (code : Option Code) (message : String)

namespace CallError

/-- What to do about a daemon that cannot be reached. -/
def hint (path : String) (user : Option String) : OsError → String
  | .notFound =>
    "Socket not found at " ++ path ++ ". Is cortexd running?\nTry: sudo systemctl status cortexd"
  | .permissionDenied =>
    "Permission denied on " ++ path
      ++ ".\nAdd your user to the socket group and log in again:\n   sudo usermod -aG cortex "
      ++ user.getD "$USER" ++ "\nCheck with: ls -la " ++ path
  | .connectionRefused | .timedOut =>
    "cortexd is not accepting connections on " ++ path
      ++ ".\nThe socket exists but nothing is listening.\nTry: sudo systemctl restart cortexd"
  | cause => "Cannot connect to " ++ path ++ ": " ++ cause.message

/-- The error in words. -/
def message : CallError → String
  | connect path user cause => hint path user cause
  | transfer cause => "I/O error talking to cortexd: " ++ cause.message
  | response cause => "bad response from cortexd: " ++ cause.message
  | daemon code message =>
    "cortexd returned " ++ (code.map Code.name).getD "ERROR" ++ ": " ++ message

/-- What the error was caused by, in words. -/
def cause? : CallError → Option String
  | connect _ _ cause | transfer cause => some cause.message
  | response cause => some cause.message
  | daemon _ _ => none

/-- The code of an error that the daemon reports. -/
def code? : CallError → Option Code
  | daemon code _ => code
  | _ => none

/-- The error with its cause. -/
def fullMessage (e : CallError) : String :=
  match e.cause? with
  | none => e.message
  | some cause => e.message ++ ": " ++ cause

end CallError

/-- Why a path can be no address of a socket. -/
def addressFault? (path : String) : Option OsError :=
  if path.toList.contains '\x00' then some .nulInSocketPath
  else if Rpc.maxSocketPath ≤ path.utf8ByteSize then some .socketPathTooLong
  else if path.isEmpty then some .invalidArgument
  else none

/-- Sends a request to the socket at a path. -/
def send (path : String) (user : Option String) (exchange : String → Exchange) (r : Request) :
    Except CallError Response :=
  let outcome :=
    match addressFault? path with
    | some fault => Exchange.unreachable fault
    | none => exchange r.encode
  match outcome with
  | .unreachable cause => .error (.connect path user cause)
  | .broken cause => .error (.transfer cause)
  | .answered bytes => (Response.decode (bytes.take maxReply)).mapError .response

/-- The result in a response. -/
def resultOf (r : Response) : Except CallError Json :=
  match r.outcome with
  | .result value => .ok value
  | .error body => .error (.daemon (Code.ofNumber? body.code) body.message)

/-- Calls a method. -/
def call (path : String) (user : Option String) (exchange : String → Exchange) (method : String)
    (params : Json) : Except CallError Json :=
  (send path user exchange ((Request.ofMethod method).withParams params)).bind resultOf

end HostWatch.Console
