import HostWatch.Rpc.Handler

/-!
# Connections

One request and one response per connection. The request is read piece by piece, and is complete
as soon as what has been read is a JSON value, or cannot become one. The limiter is asked before a
request is looked at; a connection on which nothing is sent is closed without a word.
-/

namespace HostWatch.Rpc

/-- The most bytes that one read gets. -/
def readSize : Nat := 4096

/-- The most bytes that a request may have. -/
def maxRequest : Nat := 65536

/-- What a client sent. -/
inductive Incoming where
  /-- Nothing. -/
  | empty
  /-- More than a request may have. -/
  | tooLarge
  /-- The beginning of a request. -/
  | truncated
  | complete (request : Except DecodeError Request)

namespace Incoming

/-- What the bytes read so far are, or none if more has to be read. -/
def judge? (buffer : List UInt8) : Option Incoming :=
  if maxRequest < buffer.length then some tooLarge
  else
    match Request.decode buffer with
    | .error .incomplete => none
    | request => some (complete request)

/-- Reads pieces one after another, behind what has been read before. -/
def readOn (buffer : List UInt8) : List (List UInt8) → Incoming
  | [] => if buffer.isEmpty then empty else truncated
  | piece :: rest =>
    match judge? (buffer ++ piece) with
    | some incoming => incoming
    | none => readOn (buffer ++ piece) rest

/-- Reads pieces, as single reads get them, until the request is complete or they end. -/
def ofReads (pieces : List (List UInt8)) : Incoming := readOn [] pieces

/-- The pieces in which reads get bytes that arrive together. -/
def reads (bytes : List UInt8) : List (List UInt8) :=
  (List.range ((bytes.length + readSize - 1) / readSize)).map fun i =>
    (bytes.drop (i * readSize)).take readSize

/-- Reads what arrives in some portions; a read never joins two of them. -/
def ofArrivals (portions : List (List UInt8)) : Incoming := ofReads (portions.flatMap reads)

/-- The pieces that are left when reading behind some bytes comes to its end. -/
def unreadOn (buffer : List UInt8) : List (List UInt8) → List (List UInt8)
  | [] => []
  | piece :: rest =>
    match judge? (buffer ++ piece) with
    | some _ => rest
    | none => unreadOn (buffer ++ piece) rest

/-- The bytes of what arrives in some portions that are never read. -/
def unread (portions : List (List UInt8)) : List UInt8 :=
  (unreadOn [] (portions.flatMap reads)).flatten

end Incoming

/-- Answers what a client sent, at a moment in milliseconds; none if it sent nothing. -/
def HandlerTable.reply (t : HandlerTable σ) (clock : Int) (incoming : Incoming) (desk : Desk σ) :
    Option Response × Desk σ :=
  let now := clock / 1000
  match incoming with
  | .empty => (none, desk)
  | incoming =>
    let (granted, limiter) := desk.limiter.tryAcquire clock
    let desk := { desk with limiter }
    if granted then
      match incoming with
      | .complete (.ok request) =>
        let (response, desk) := t.answer now request desk
        (some response, desk)
      | .complete (.error e) => (some (.error now e.code e.message), desk)
      | .tooLarge => (some (.error now .invalidRequest "Request too large"), desk)
      | _ => (some (.error now .parseError "Incomplete request"), desk)
    else (some (.error now .rateLimited "Rate limit exceeded"), desk)

end HostWatch.Rpc
