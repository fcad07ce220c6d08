import FileServer.Slab
import FileServer.Poller
import FileServer.Net.Network
import FileServer.Disk.Worker
import FileServer.Connection.Drive

/-!
# The reactor

One reactor owns all connections of a server and drives each when it is ready. Connections stand in
the slots of a slab, and the key of the slot is the token of the watch. A connection is in one of
two conditions: its watch is armed for what it needs, or it is parked, with no watch armed, until a
load is done. Parked connections are listed in the order in which they were parked.

One round (`round`) waits for events and handles them in order. If the notifier was among them, it
is drained after all of them, and then every parked connection is driven again; those whose content
is still missing park again. Draining comes after the batch and before the parked connections, so a
signal raised in the meantime either is drained, and its content is found, or stays for the next
round.

What the reactor asks of the system may be refused. A client that cannot be taken in is closed
before it has a slot, and a connection whose watch cannot be armed is closed.
-/

namespace FileServer

/-- A connection in its slot. -/
structure Slot where
  /-- The connection. -/
  conn : Connection
  /-- The number of its socket. -/
  socket : Nat
  /-- Whether it waits for a load, with no watch armed. -/
  parked : Bool

/-- The connections of a server and everything they touch. -/
structure Reactor where
  /-- What every connection is told. -/
  settings : Settings
  /-- Whether small writes go out without delay. -/
  noDelay : Bool
  /-- The watches. -/
  poller : Poller
  /-- The sockets. -/
  network : Net.Network
  /-- What is shared with the disk workers. -/
  shop : Workshop
  /-- The connections. -/
  conns : Slab Slot
  /-- The keys of the parked connections, the one parked first in front. -/
  waiting : List Nat
  /-- Whether the reactor was told to stop. -/
  stopping : Bool

namespace Reactor

/-- A reactor without connections, which watches the listener and the notifier. -/
def start (settings : Settings) (noDelay : Bool) (shop : Workshop) : Reactor where
  settings := settings
  noDelay := noDelay
  poller := ((Poller.empty.add .listener .listener .readable false .none).2.add
    .notifier .notifier .readable false .none).2
  network := .empty
  shop := shop
  conns := .empty
  waiting := []
  stopping := false

/-- What a source is ready for. -/
def ready (reactor : Reactor) : Source → Readiness
  | .listener => { Readiness.none with readable := !reactor.network.backlog.isEmpty }
  | .notifier => { Readiness.none with readable := reactor.shop.notifier.isReady, writable := true }
  | .socket number => reactor.network.ready number

/-- Changes the counters. -/
def count (reactor : Reactor) (f : Counters → Counters) : Reactor :=
  { reactor with shop.hub.counters := f reactor.shop.hub.counters }

/-- Shows the number of parked connections. -/
def showWaiting (reactor : Reactor) : Reactor :=
  reactor.count ({ · with waiting := reactor.waiting.length })

/-! ## Accepting and closing -/

/-- What is switched on for the socket of every client. -/
def options (reactor : Reactor) : List Net.SocketOption :=
  if reactor.noDelay then [.nonBlocking, .noDelay] else [.nonBlocking]

/-- Closes the socket of a client that is not taken in. -/
def dismiss (reactor : Reactor) (socket : Nat) : Reactor :=
  { reactor with network := reactor.network.modify socket Net.Socket.shut }

/-- Takes a client's socket into a slot, with its watch armed for reading. Gives whether that was
done. Where an option or the watch is refused, the client is dismissed. -/
def register (reactor : Reactor) (socket : Nat) : Bool × Reactor :=
  match reactor.network.setOptions socket reactor.options with
  | (false, network) => (false, { reactor with network }.dismiss socket)
  | (true, network) =>
    let key := reactor.conns.nextKey
    match reactor.poller.add (.socket socket) (.connection key) .readable true
      (network.ready socket) with
    | (false, poller) => (false, { reactor with network, poller }.dismiss socket)
    | (true, poller) =>
      (true, { reactor with
        network
        poller
        conns := reactor.conns.insert ⟨.fresh, socket, false⟩ }.count
          fun counters => { counters with accepted := counters.accepted + 1 })

/-- Taking a client in is no request for another one. -/
theorem requests_register (reactor : Reactor) (socket : Nat) :
    (reactor.register socket).2.network.requests = reactor.network.requests := by
  have hoptions := Net.Network.requests_setOptions socket reactor.options reactor.network
  unfold register
  split
  · rename_i network hnetwork
    rw [hnetwork] at hoptions
    exact hoptions
  · rename_i network hnetwork
    rw [hnetwork] at hoptions
    simp only
    split <;> exact hoptions

/-- Accepts clients until none waits any more, or a request for one fails. The others stay in the
backlog then. A request that was only interrupted is made again. -/
def acceptAll (reactor : Reactor) : Reactor :=
  match _h : reactor.network.accept with
  | (.ok socket, network) => (Reactor.register { reactor with network } socket).2.acceptAll
  | (.error .interrupted, network) => { reactor with network }.acceptAll
  | (.error _, network) => { reactor with network }
termination_by reactor.network.requests
decreasing_by
  · rw [requests_register]
    exact Net.Network.requests_accept _h
  · exact Net.Network.requests_accept_of_interrupted _h

/-- Closes a connection, if there is one under the key. -/
def close (reactor : Reactor) (key : Nat) : Reactor :=
  match reactor.conns.get? key with
  | none => reactor
  | some slot =>
    { reactor with
      conns := reactor.conns.erase key
      poller := reactor.poller.delete (.socket slot.socket)
      network := reactor.network.modify slot.socket Net.Socket.shut }.count
        fun counters => { counters with closed := counters.closed + 1 }

/-! ## Driving -/

/-- What a drive of the connection in a slot works on. -/
def turn (reactor : Reactor) (slot : Slot) : Turn where
  conn := slot.conn
  wire := (reactor.network.sockets[slot.socket]?.map Net.Socket.wire).getD .fresh
  hub := reactor.shop.hub

/-- Puts back what a drive of the connection in a slot has changed so far. -/
def putBack (reactor : Reactor) (key : Nat) (slot : Slot) (turn : Turn) : Reactor :=
  { reactor with
    conns := reactor.conns.modify key ({ · with conn := turn.conn })
    network := reactor.network.modify slot.socket ({ · with wire := turn.wire })
    shop.hub := turn.hub }

/-- Lets the client of a connection answer what was written to it. -/
def answer (reactor : Reactor) (slot : Slot) : Reactor :=
  { reactor with network := reactor.network.modify slot.socket Net.Socket.answer }

/-- Arms the watch of a connection. A connection whose watch cannot be armed is closed. -/
def watch (reactor : Reactor) (key : Nat) (slot : Slot) (interest : Interest) : Reactor :=
  let (armed, poller) := reactor.poller.rearm (.socket slot.socket) interest
    (reactor.network.ready slot.socket)
  let reactor := { reactor with poller }
  if armed then reactor else reactor.close key

/-- Parks a connection until a load is done. -/
def park (reactor : Reactor) (key : Nat) : Reactor :=
  { reactor with
    conns := reactor.conns.modify key ({ · with parked := true })
    waiting := reactor.waiting ++ [key] }.showWaiting

/-- Gives a connection what it needs. -/
def provide (reactor : Reactor) (key : Nat) (need : Need) : Reactor :=
  match reactor.conns.get? key with
  | none => reactor
  | some slot =>
    match need with
    | .input => reactor.watch key slot .readable
    | .output => reactor.watch key slot .writable
    | .disk => reactor.park key
    | .close => reactor.close key

/-- Lets the writes of a new turn begin on a connection. -/
def renew (reactor : Reactor) (slot : Slot) : Reactor :=
  { reactor with
    network := reactor.network.modify slot.socket
      fun socket => { socket with wire := socket.wire.renew } }

/-- Ends the drive of the connection in a slot, which has changed what `turn` holds, with what the
connection needs. -/
def conclude (reactor : Reactor) (key : Nat) (slot : Slot) (need : Need) (turn : Turn) : Reactor :=
  ((reactor.putBack key slot turn).answer slot).provide key need

/-- Drives a connection until it needs something, and gives it that. -/
def drive (reactor : Reactor) (key : Nat) : Reactor :=
  match reactor.conns.get? key with
  | none => reactor
  | some slot =>
    let reactor := reactor.renew slot
    let (need, turn) := (reactor.turn slot).drive reactor.settings
    reactor.conclude key slot need turn

/-! ## One round -/

/-- Handles an event of the connection under a key. An error closes it. -/
def onReady (reactor : Reactor) (key : Nat) (event : Event) : Reactor :=
  if event.isError then reactor.close key else reactor.drive key

/-- Handles one event. Signals are left until all events are handled. -/
def dispatch (reactor : Reactor) (event : Event) : Reactor :=
  match event.token with
  | .listener => reactor.acceptAll
  | .notifier => reactor
  | .connection key => reactor.onReady key event

/-- Drives a connection that was parked, if it still is. -/
def revive (reactor : Reactor) (key : Nat) : Reactor :=
  match reactor.conns.get? key with
  | none => reactor
  | some slot =>
    if slot.parked then
      { reactor with conns := reactor.conns.modify key ({ · with parked := false }) }.drive key
    else reactor

/-- Drives every connection that is parked now. -/
def reviveAll (reactor : Reactor) : Reactor :=
  (reactor.waiting.foldl revive { reactor with waiting := [] }).showWaiting

/-- Takes all signals. -/
def drain (reactor : Reactor) : Reactor :=
  { reactor with shop.notifier := reactor.shop.notifier.drain.2 }

/-- Handles a batch of events. -/
def handle (reactor : Reactor) (batch : List Event) : Reactor :=
  let reactor := batch.foldl dispatch reactor
  if batch.any fun event => event.token = .notifier then reactor.drain.reviveAll else reactor

/-- Waits for at most `most` events and handles them. Gives their number. -/
def round (reactor : Reactor) (most : Nat) : Nat × Reactor :=
  let (batch, poller) := reactor.poller.wait most reactor.ready
  (batch.length, { reactor with poller }.handle batch)

/-- Runs rounds until nothing is ready, at most `rounds` of them. -/
def pumpFor (most : Nat) : Nat → Reactor → Reactor
  | 0, reactor => reactor
  | rounds + 1, reactor =>
    match reactor.round most with
    | (0, reactor) => reactor
    | (_, reactor) => pumpFor most rounds reactor

/-- Runs rounds until nothing is ready. Every socket can become ready twice in the course of it, by
being accepted and by being driven after it was parked. -/
def pump (reactor : Reactor) (most : Nat) : Reactor :=
  pumpFor most (2 * reactor.network.sockets.size + reactor.poller.pending.length + 2) reactor

/-- Serves until told to stop, for at most `rounds` rounds. -/
def runFor (most : Nat) : Nat → Reactor → Reactor
  | 0, reactor => reactor
  | rounds + 1, reactor =>
    if reactor.stopping then reactor else runFor most rounds (reactor.round most).2

/-! ## What happens from outside -/

/-- Somebody has changed what is shared. If that was a signal, the poller hears of it at once. -/
def share (reactor : Reactor) (shop : Workshop) : Reactor :=
  { reactor with
    shop
    poller :=
      if shop.notifier = reactor.shop.notifier then reactor.poller
      else reactor.poller.raise .notifier { Readiness.none with readable := true } }

/-- Somebody signals. -/
def signal (reactor : Reactor) : Reactor :=
  reactor.share { reactor.shop with notifier := reactor.shop.notifier.signal }

/-- Somebody tells the reactor to stop. The flag is set before the signal that makes it look. -/
def shutdown (reactor : Reactor) : Reactor :=
  { reactor with stopping := true }.signal

/-- A client connects. Gives the number of its socket. -/
def connect (reactor : Reactor) : Nat × Reactor :=
  let (number, network) := reactor.network.connect
  (number, { reactor with
    network
    poller := reactor.poller.raise .listener { Readiness.none with readable := true } })

/-- A client does something to its socket, and the server's side hears of it. -/
def client (reactor : Reactor) (number : Nat) (act : Net.ClientAct) : Reactor :=
  let network := reactor.network.modify number act.apply
  { reactor with
    network
    poller := reactor.poller.raise (.socket number) (network.ready number) }

/-- A disk worker takes one task and does it. -/
def work (read : Path → Content) (reactor : Reactor) : Work × Reactor :=
  let (work, shop) := reactor.shop.work read
  (work, reactor.share shop)

/-! ## Work that is done elsewhere -/

/-- Takes at most `count` loads off the queue, for workers that work elsewhere. A stop ends that. -/
def takeLoadsFor (reactor : Reactor) : Nat → List (String × Ticket) × Reactor
  | 0 => ([], reactor)
  | count + 1 =>
    match reactor.shop.hub.queue.take? with
    | some (.load key ticket, queue) =>
      let (loads, reactor) := takeLoadsFor { reactor with shop.hub.queue := queue } count
      ((key, ticket) :: loads, reactor)
    | _ => ([], reactor)

/-- Takes all loads off the queue, for workers that work elsewhere. -/
def takeLoads (reactor : Reactor) : List (String × Ticket) × Reactor :=
  reactor.takeLoadsFor reactor.shop.hub.queue.length

/-- A load that was done elsewhere comes back. -/
def deliver (key : String) (ticket : Ticket) (content : Content) (reactor : Reactor) : Reactor :=
  reactor.share (reactor.shop.load (fun _ => content) key ticket)

/-- Takes what was written on a socket, and forgets the calls that were made on it. -/
def collect (reactor : Reactor) (number : Nat) : Bytes × Reactor :=
  match reactor.network.sockets[number]? with
  | none => ([], reactor)
  | some socket =>
    (socket.waiting, { reactor with network := reactor.network.modify number Net.Socket.forget })

end Reactor

end FileServer
