import HostWatch.Console.Call
import HostWatch.Daemon.Station

/-!
# Connections to a daemon

What a client gets back that sends a text to a daemon. The text arrives in portions, and the daemon
reads no further than it needs to; when it has replied, it closes the connection. Bytes that it has
not read by then break the connection for the client, which may lose the reply with it. Beyond that
anything may fail on the way: nobody may be there, the connection may break or take too long, and
only a part of the text or of the reply may come through.
-/

namespace HostWatch

open Console (Exchange)

namespace DaemonStation

/-- What the daemon writes to a client whose bytes arrive in some portions. -/
def replyTo (s : DaemonStation σ) (portions : List (List UInt8)) : List UInt8 :=
  ((s.exchange portions).1.map Text.utf8).getD []

/-- The bytes of a client that the daemon has not read when it closes the connection. With no time to
read, it reads nothing. -/
def unread (s : DaemonStation σ) (portions : List (List UInt8)) : List UInt8 :=
  if s.server.timeoutMs = 0 then portions.flatten else Rpc.Incoming.unread portions

/-- What comes of a connection on which a client's bytes arrive in some portions, if both ends do
their work and nothing else goes wrong. -/
inductive Gives (s : DaemonStation σ) (portions : List (List UInt8)) : Exchange → Prop where
  /-- The whole reply comes back. -/
  | replied : Gives s portions (.answered (s.replyTo portions))
  /-- The daemon closes the connection before it has read everything. The client may still be
  writing, or may be about to read the reply. -/
  | closed (left : s.unread portions ≠ []) (cause : OsError) : Gives s portions (.broken cause)

/-- What may come of a text that a client sends to a daemon, whatever goes wrong on the way. -/
inductive MayGive (s : DaemonStation σ) (text : String) : Exchange → Prop where
  | unreachable (cause : OsError) : MayGive s text (.unreachable cause)
  | broken (cause : OsError) : MayGive s text (.broken cause)
  /-- A part of the text arrives in time, and a part of the reply to this comes back. -/
  | answered {portions : List (List UInt8)} {bytes : List UInt8}
    (arrived : portions.flatten <+: Text.utf8 text) (received : bytes <+: s.replyTo portions) :
    MayGive s text (.answered bytes)

end DaemonStation

namespace Console

/-- What comes back to requests that reach a daemon in some portions, if nothing else goes wrong: the
whole reply, or the word that the daemon has closed the connection before it had read everything. -/
def exchangeWith (s : DaemonStation σ) (portions : String → List (List UInt8)) (text : String) :
    Exchange :=
  if (s.unread (portions text)).isEmpty then .answered (s.replyTo (portions text))
  else .broken .connectionReset

end Console

end HostWatch
