import HostWatch.Rpc.Connection
import HostWatch.Rpc.Socket

/-!
# The server

A bound server answers connections while it runs. It counts the requests it has answered, and
leaves a socket file behind until it cleans up.
-/

namespace HostWatch.Rpc

/-- A server whose handlers work on a state `σ`. -/
structure Server (σ : Type) where
  desk : Desk σ
  /-- How long a read may take, in milliseconds. -/
  timeoutMs : Nat
  running : Bool := false
  /-- Requests answered. -/
  served : Nat := 0
  /-- What stands at the path of the socket. -/
  entry : Entry

namespace Server

/-- Starts to accept connections. -/
def start (s : Server σ) : Server σ := { s with running := true }

/-- Stops accepting connections. -/
def stop (s : Server σ) : Server σ := { s with running := false }

/-- Clients can connect. -/
def IsOpen (s : Server σ) : Prop := s.running = true ∧ s.entry.IsSocket

instance : DecidablePred (@IsOpen σ) := fun s =>
  inferInstanceAs (Decidable (s.running = true ∧ s.entry.IsSocket))

/-- Removes the socket file. -/
def cleanup (s : Server σ) : Server σ := { s with entry := s.entry.cleanup }

/-- Serves one connection: gives the text of the response, or none if the connection was closed
without a word. With no time to read, nothing is read. -/
def serve (t : HandlerTable σ) (clock : Int) (incoming : Incoming) (s : Server σ) :
    Option String × Server σ :=
  if s.timeoutMs = 0 then (none, s)
  else
    match t.reply clock incoming s.desk with
    | (none, desk) => (none, { s with desk })
    | (some response, desk) => (some response.encode, { s with desk, served := s.served + 1 })

end Server

end HostWatch.Rpc
