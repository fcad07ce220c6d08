import FileServer.Buffer

/-!
# Wires

A wire is the byte stream under a connection, seen from the server: what has arrived and waits to be
read, how the next writes will be answered, and a record of every call that was made on it. Nothing
on a wire happens by chance. What the other side and the system between will do is part of its
state, so that a connection over a wire is an ordinary function.

A read takes from the front of what has arrived. A write offers one or more buffers; the wire takes
a front part of them, or refuses with a fault. Neither takes more than it was offered. Two faults
only mean that the call should be made again, `wouldBlock` later and `interrupted` at once; all
others are final.
-/

namespace FileServer

/-- Why a read or a write did not happen. -/
inductive Fault where
  /-- Nothing to read, or no room to write, at the moment. -/
  | wouldBlock
  /-- The call was interrupted and may be made again. -/
  | interrupted
  /-- The other side no longer reads. -/
  | brokenPipe
  /-- The other side has reset the connection. -/
  | connectionReset
  /-- The other side has not answered in time. -/
  | timedOut
  /-- The stream ended too early. -/
  | unexpectedEnd
  /-- Any other fault. -/
  | other
deriving DecidableEq, Repr

/-- What waits to be read. -/
inductive Arrival where
  /-- Bytes that arrived together. An empty piece reads as an end of the stream. -/
  | bytes (piece : Bytes)
  /-- A fault that the next read reports, once. -/
  | fault (cause : Fault)
deriving DecidableEq, Repr

/-- The number of bytes that an arrival brings. -/
def Arrival.size : Arrival → Nat
  | .bytes piece => piece.length
  | .fault _ => 0

/-- The number of bytes that several arrivals bring. -/
def Arrival.total : List Arrival → Nat
  | [] => 0
  | arrival :: rest => arrival.size + total rest

/-- What arrives adds up. -/
@[simp] theorem Arrival.total_cons (arrival : Arrival) (rest : List Arrival) :
    total (arrival :: rest) = arrival.size + total rest := rfl

/-- How one write will be answered. -/
inductive WriteAnswer where
  /-- At most so many bytes are taken. -/
  | upTo (count : Nat)
  /-- Nothing is taken. -/
  | fail (cause : Fault)
deriving DecidableEq, Repr

/-- A call that was made on a wire, with its outcome. -/
inductive Call where
  /-- A read into a buffer of `offered` bytes, and how many it gave. -/
  | read (offered : Nat) (outcome : Except Fault Nat)
  /-- A write of buffers of the given lengths, and how many bytes it took. -/
  | write (offered : List Nat) (outcome : Except Fault Nat)
  /-- The stream was corked or uncorked. -/
  | cork (on : Bool)

/-- One side of a byte stream. -/
structure Wire where
  /-- What has arrived, the oldest first. -/
  inbound : List Arrival
  /-- Whether the other side has ended the stream behind what has arrived. -/
  ended : Bool
  /-- Whether one write takes from several buffers, or only from the first that is not empty. -/
  gathers : Bool
  /-- The answers to the next writes. -/
  writes : List WriteAnswer
  /-- What every write behind those fails with. It is not an interruption, which would be tried
  again for ever. -/
  writeFault : Option { cause : Fault // cause ≠ .interrupted }
  /-- The most bytes that a write takes. -/
  chunk : Nat
  /-- The number of writes that are taken in one turn. -/
  calls : Nat
  /-- How many of them are left in this turn. -/
  callsLeft : Nat
  /-- The answers to the next requests to cork or uncork: whether they fail. -/
  corks : List Bool
  /-- Whether every request to cork or uncork behind those fails. -/
  corkFails : Bool
  /-- The calls made, the latest first. -/
  log : List Call
  /-- The pieces written, the latest first. -/
  sent : List Bytes

namespace Wire

/-- No limit on the size or the number of writes. -/
def unlimited : Nat := UInt64.size - 1

/-- A wire on which nothing has arrived and every write is taken whole. -/
def fresh : Wire where
  inbound := []
  ended := false
  gathers := true
  writes := []
  writeFault := none
  chunk := unlimited
  calls := unlimited
  callsLeft := unlimited
  corks := []
  corkFails := false
  log := []
  sent := []

/-- Begins a turn: the writes of the last one count no longer. -/
def renew (wire : Wire) : Wire := { wire with callsLeft := wire.calls }

/-- The bytes written so far. -/
def output (wire : Wire) : Bytes := wire.sent.reverse.flatten

/-- Adds something to what waits to be read. -/
def arrive (wire : Wire) (arrival : Arrival) : Wire :=
  { wire with inbound := wire.inbound ++ [arrival] }

/-- The number of bytes that wait to be read. -/
def unread (wire : Wire) : Nat := Arrival.total wire.inbound

/-- Records a call. -/
def record (wire : Wire) (call : Call) : Wire := { wire with log := call :: wire.log }

/-- What a read of at most `offered` bytes gives, and what waits to be read after it. -/
def receive (inbound : List Arrival) (ended : Bool) (offered : Nat) :
    Except Fault Bytes × List Arrival :=
  match inbound with
  | [] => (if ended then .ok [] else .error .wouldBlock, [])
  | .fault cause :: rest => (.error cause, rest)
  | .bytes piece :: rest =>
    match piece.drop offered with
    | [] => (.ok piece, rest)
    | left => (.ok (piece.take offered), .bytes left :: rest)

/-- Reads at most `offered` bytes. No bytes mean the end of the stream. -/
def read (wire : Wire) (offered : Nat) : Except Fault Bytes × Wire :=
  let (outcome, inbound) := receive wire.inbound wire.ended offered
  (outcome, { wire with inbound }.record (.read offered (outcome.map List.length)))

/-- The buffers that a single write may take from: all of them, or the first that is not empty. -/
def reachable (gathers : Bool) (buffers : List Buffer) : List Buffer :=
  if gathers then buffers else (buffers.find? (!·.isEmpty)).toList

/-- Records a write of some buffers that took a front part of those within reach. -/
def take (wire : Wire) (buffers reach : List Buffer) (count : Nat) : Except Fault Nat × Wire :=
  let taken := min count (Buffer.total reach)
  (.ok taken,
    { wire with sent := (Buffer.pieces taken reach).reverse ++ wire.sent }.record
      (.write (buffers.map Buffer.size) (.ok taken)))

/-- Records a write that took nothing. -/
def refuse (wire : Wire) (buffers : List Buffer) (cause : Fault) : Except Fault Nat × Wire :=
  (.error cause, wire.record (.write (buffers.map Buffer.size) (.error cause)))

/-- Writes a front part of the buffers. The prepared answers are used up first; behind them a
lasting fault refuses every write, and without one each turn takes a limited number of writes of
limited size. -/
def write (wire : Wire) (buffers : List Buffer) : Except Fault Nat × Wire :=
  let reach := reachable wire.gathers buffers
  match wire.writes with
  | .upTo count :: rest => { wire with writes := rest }.take buffers reach count
  | .fail cause :: rest => { wire with writes := rest }.refuse buffers cause
  | [] =>
    match wire.writeFault with
    | some cause => wire.refuse buffers cause.val
    | none =>
      if wire.callsLeft = 0 then wire.refuse buffers .wouldBlock
      else { wire with callsLeft := wire.callsLeft - 1 }.take buffers reach wire.chunk

/-- Asks to hold written bytes back, or to hold them back no longer. Gives whether that was done. -/
def cork (wire : Wire) (on : Bool) : Bool × Wire :=
  match wire.corks with
  | fails :: rest => (!fails, { wire with corks := rest }.record (.cork on))
  | [] => (!wire.corkFails, wire.record (.cork on))

/-- The calls made since an earlier state of the wire, in order. -/
def callsSince (earlier later : Wire) : List Call :=
  (later.log.take (later.log.length - earlier.log.length)).reverse

/-- The pieces written since an earlier state of the wire, in order. -/
def sentSince (earlier later : Wire) : List Bytes :=
  (later.sent.take (later.sent.length - earlier.sent.length)).reverse

/-- What can happen to a wire from outside. -/
inductive Change where
  /-- Something arrives. -/
  | arrive (arrival : Arrival)
  /-- The other side ends the stream. -/
  | finish
  /-- It is settled how the next writes are answered. -/
  | answer (writes : List WriteAnswer)
  /-- The size and the number of writes that are taken in one turn are limited. -/
  | limit (chunk calls : Nat)
  /-- A lasting fault sets in or goes away. -/
  | fail (cause : Option { cause : Fault // cause ≠ .interrupted })
  /-- It is settled which of the next requests to cork or uncork fail. -/
  | corks (fails : List Bool)

/-- The wire after something has happened to it. -/
def change (wire : Wire) : Change → Wire
  | .arrive arrival => wire.arrive arrival
  | .finish => { wire with ended := true }
  | .answer writes => { wire with writes := wire.writes ++ writes }
  | .limit chunk calls => { wire with chunk, calls, callsLeft := calls }
  | .fail cause => { wire with writeFault := cause }
  | .corks fails => { wire with corks := wire.corks ++ fails }

end Wire

end FileServer
