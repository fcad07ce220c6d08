import FileServer.Wire
import FileServer.Poller

/-!
# Connections of clients

The sockets between clients and the server, each kept as the server's wire and what the client has
done. Clients that have connected and were not accepted yet wait in the backlog, in order.

A client that closes ends its stream. What the server writes after that is taken once and answered
by a reset. A client that closes with unread bytes, or that resets, leaves a socket on which every
call of the server fails.

What the server asks for apart from that may be refused to it: a client in the backlog, and the
options of a socket. How such requests will be answered is part of the state, as it is for the
calls on a wire.
-/

namespace FileServer.Net

/-- What a client has done with its end. -/
inductive ClientEnd where
  /-- It reads and writes. -/
  | whole
  /-- It has ended its stream and still reads. -/
  | finished
  /-- It has closed. -/
  | closed
  /-- It has reset the connection. -/
  | reset
deriving DecidableEq, Repr

/-- What can be switched on for a socket. -/
inductive SocketOption where
  /-- No call on it waits. -/
  | nonBlocking
  /-- Small writes go out without delay. -/
  | noDelay
deriving DecidableEq, Repr

/-- A connection of a client. -/
structure Socket where
  /-- The server's side. -/
  wire : Wire
  /-- How many of the bytes written by the server the client has read. -/
  taken : Nat
  /-- The client's side. -/
  client : ClientEnd
  /-- Whether the server has closed its side. -/
  serverClosed : Bool
  /-- Whether the server's side has answered with a reset. -/
  serverReset : Bool
  /-- What is switched on for the server's side. -/
  options : List SocketOption

namespace Socket

/-- A connection that has just been made. -/
def fresh : Socket := ⟨.fresh, 0, .whole, false, false, []⟩

/-- What the server's side is ready for. -/
def ready (socket : Socket) : Readiness where
  readable := !socket.wire.inbound.isEmpty || socket.wire.ended
  writable := true
  error := socket.client = .reset
  hangup := socket.client = .reset

/-- The bytes that the client has not read. -/
def waiting (socket : Socket) : Bytes := socket.wire.output.drop socket.taken

/-- The client sends bytes. Gives whether that can be done. -/
def send (socket : Socket) (bytes : Bytes) : Bool × Socket :=
  if socket.client ≠ .whole || socket.serverReset then (false, socket)
  else if socket.serverClosed then (true, { socket with serverReset := true })
  else (true, { socket with wire := socket.wire.arrive (.bytes bytes) })

/-- The client reads all that has arrived. -/
def receive (socket : Socket) : Bytes × Socket :=
  let bytes := socket.waiting
  (bytes, { socket with taken := socket.taken + bytes.length })

/-- The client has read all that has arrived, and the record of what was called and written is
dropped. -/
def forget (socket : Socket) : Socket :=
  { socket with wire := { socket.wire with log := [], sent := [] }, taken := 0 }

/-- The client ends its stream. -/
def finish (socket : Socket) : Socket :=
  { socket with client := .finished, wire.ended := true }

/-- The client resets the connection. -/
def reset (socket : Socket) : Socket :=
  { socket with
    client := .reset
    wire := { socket.wire.arrive (.fault .connectionReset) with
      ended := true
      writes := []
      writeFault := some ⟨.connectionReset, by decide⟩ } }

/-- The client closes. -/
def close (socket : Socket) : Socket :=
  if socket.waiting.isEmpty then
    { socket with
      client := .closed
      wire := { socket.wire with
        ended := true
        writes := [.upTo Wire.unlimited]
        writeFault := some ⟨.brokenPipe, by decide⟩ } }
  else socket.reset

/-- Bytes that were written to a client that has closed are answered by a reset. -/
def answer (socket : Socket) : Socket :=
  if socket.client = .closed && socket.wire.writes.isEmpty then socket.reset else socket

/-- The server closes its side. Unread bytes make that a reset. -/
def shut (socket : Socket) : Socket :=
  { socket with serverClosed := true, serverReset := 0 < socket.wire.unread }

end Socket

/-- What can happen to a socket from the client's side. -/
inductive ClientAct where
  /-- The client sends bytes. -/
  | send (bytes : Bytes)
  /-- The client reads all that has arrived. -/
  | receive
  /-- The client ends its stream. -/
  | finish
  /-- The client closes. -/
  | close
  /-- The client resets the connection. -/
  | reset
  /-- The next read of the server fails. -/
  | fault (cause : Fault)
  /-- The next writes of the server are answered like this. -/
  | answer (writes : List WriteAnswer)

/-- What becomes of a socket. -/
def ClientAct.apply : ClientAct → Socket → Socket
  | send bytes, socket => (socket.send bytes).2
  | receive, socket => socket.receive.2
  | finish, socket => socket.finish
  | close, socket => socket.close
  | reset, socket => socket.reset
  | fault cause, socket => { socket with wire := socket.wire.arrive (.fault cause) }
  | answer writes, socket => { socket with wire.writes := socket.wire.writes ++ writes }

/-- All connections of clients. -/
structure Network where
  /-- The sockets, by number. -/
  sockets : Array Socket
  /-- The sockets that were not accepted yet. -/
  backlog : List Nat
  /-- The faults that the next requests for a client end in, where they do. -/
  faults : List (Option Fault)
  /-- Whether the next requests to set an option are refused. -/
  refusals : List Bool

namespace Network

/-- Nobody has connected. -/
def empty : Network := ⟨#[], [], [], []⟩

/-- A client connects. -/
def connect (network : Network) : Nat × Network :=
  (network.sockets.size,
    { network with
      sockets := network.sockets.push .fresh
      backlog := network.backlog ++ [network.sockets.size] })

/-- Changes one socket. -/
def modify (network : Network) (number : Nat) (f : Socket → Socket) : Network :=
  { network with sockets := network.sockets.modify number f }

/-- What a socket is ready for. -/
def ready (network : Network) (number : Nat) : Readiness :=
  (network.sockets[number]?.map Socket.ready).getD .none

/-- Sets an option of a socket. Gives whether that was done: it may be refused. -/
def setOption (network : Network) (number : Nat) (option : SocketOption) : Bool × Network :=
  let refused := network.refusals.head?.getD false
  let network := { network with refusals := network.refusals.tail }
  if refused then (false, network)
  else
    (true, network.modify number fun socket => { socket with options := option :: socket.options })

/-- Sets some options of a socket, until one is refused. Gives whether all of them were set. -/
def setOptions (number : Nat) : List SocketOption → Network → Bool × Network
  | [], network => (true, network)
  | option :: options, network =>
    match network.setOption number option with
    | (true, network) => setOptions number options network
    | (false, network) => (false, network)

/-- Asks for the client that has waited longest. The request may fail, and there may be none. -/
def accept (network : Network) : Except Fault Nat × Network :=
  let fault := network.faults.head?.join
  let network := { network with faults := network.faults.tail }
  match fault, network.backlog with
  | some cause, _ => (.error cause, network)
  | none, [] => (.error .wouldBlock, network)
  | none, number :: backlog => (.ok number, { network with backlog })

/-- How often something else than waiting for a client can come of a request for one. -/
def requests (network : Network) : Nat := network.faults.length + network.backlog.length

/-- Options are no matter of the backlog. -/
theorem requests_setOption (network : Network) (number : Nat) (option : SocketOption) :
    (network.setOption number option).2.requests = network.requests := by
  unfold setOption
  simp only
  split <;> rfl

/-- However many options are set. -/
theorem requests_setOptions (number : Nat) (options : List SocketOption) (network : Network) :
    (network.setOptions number options).2.requests = network.requests := by
  induction options generalizing network with
  | nil => rfl
  | cons option options ih =>
      have hfirst := network.requests_setOption number option
      rw [setOptions]
      split
      · rename_i next hnext
        rw [hnext] at hfirst
        exact (ih next).trans hfirst
      · rename_i next hnext
        rw [hnext] at hfirst
        exact hfirst

/-- A client that is given is one that waited. -/
theorem requests_accept {network next : Network} {number : Nat}
    (h : network.accept = (.ok number, next)) : next.requests < network.requests := by
  unfold accept at h
  simp only at h
  split at h
  · cases h
  · cases h
  · rename_i backlog _ hbacklog
    obtain ⟨-, rfl⟩ := Prod.mk.inj h
    simp only [requests, hbacklog, List.length_tail, List.length_cons]
    omega

/-- A request that is interrupted uses up what was settled for it. -/
theorem requests_accept_of_interrupted {network next : Network}
    (h : network.accept = (.error .interrupted, next)) : next.requests < network.requests := by
  unfold accept at h
  simp only at h
  split at h
  · rename_i cause hfault
    obtain ⟨-, rfl⟩ := Prod.mk.inj h
    rcases hfaults : network.faults with _ | ⟨fault, faults⟩
    · rw [hfaults] at hfault
      cases hfault
    · simp [requests, hfaults]
  · cases h
  · cases h

end Network

end FileServer.Net
