import FileServer.Proofs.Reactor.Keys

/-!
# What was done on the sockets

`past` is what the server has done on each socket: the calls it has made and the bytes it has
written. Only the drive of a connection adds to it, and only on the socket of that connection
(`past_putBack`). Whatever else the reactor and the clients do leaves it alone.
-/

namespace FileServer

/-- What the server has done on a socket: the calls, the latest first, and the bytes written. -/
def Net.Socket.past (socket : Net.Socket) : List Call × Bytes :=
  (socket.wire.log, socket.wire.output)

namespace Net

/-- What a client does is no call. -/
theorem ClientAct.past_apply (act : ClientAct) (socket : Socket) :
    (act.apply socket).past = socket.past := by
  cases act with
  | send bytes =>
      simp only [apply, Socket.send]
      split
      · rfl
      · split <;> rfl
  | receive => rfl
  | finish => rfl
  | close =>
      simp only [apply, Socket.close]
      split <;> rfl
  | reset => rfl
  | fault cause => rfl
  | answer writes => rfl

end Net

namespace Reactor

variable {reactor : Reactor} {key other socket : Nat} {slot after : Slot} {need : Need}

/-- What the server has done on each socket. -/
def past (reactor : Reactor) : List (List Call × Bytes) :=
  reactor.network.sockets.toList.map Net.Socket.past

/-- What was done is told by the streams. -/
theorem past_of_wires {next : Reactor}
    (h : next.network.sockets.map Net.Socket.wire = reactor.network.sockets.map Net.Socket.wire) :
    next.past = reactor.past := by
  have hpast : ∀ reactor : Reactor, reactor.past
      = (reactor.network.sockets.map Net.Socket.wire).toList.map fun wire =>
        (wire.log, wire.output) := by
    intro reactor
    rw [Array.toList_map, List.map_map]
    rfl
  rw [hpast, h, ← hpast]

/-- A change of one socket without a call. -/
theorem past_modify {next : Reactor} {f : Net.Socket → Net.Socket} {number : Nat}
    (hnetwork : next.network = reactor.network.modify number f)
    (hkept : ∀ found, (f found).past = found.past) : next.past = reactor.past := by
  rw [past, hnetwork, ← Array.toList_map, Net.Network.map_modify Net.Socket.past hkept,
    Array.toList_map, past]

/-- The drive of a connection begins with what was done on its socket. -/
theorem past_turn (hlt : slot.socket < reactor.network.sockets.size) :
    reactor.past[slot.socket]?
      = some ((reactor.turn slot).wire.log, (reactor.turn slot).wire.output) := by
  rw [past, List.getElem?_map, Array.getElem?_toList, turn, Array.getElem?_eq_getElem hlt]
  rfl

/-- **A drive** adds to what was done on the socket of its connection, and on no other. -/
theorem past_putBack (reactor : Reactor) (key : Nat) (slot : Slot) (turn : Turn) :
    (reactor.putBack key slot turn).past
      = reactor.past.modify slot.socket fun _ => (turn.wire.log, turn.wire.output) := by
  apply List.ext_getElem?
  intro i
  rw [List.getElem?_modify, past, past, List.getElem?_map, List.getElem?_map,
    Array.getElem?_toList, Array.getElem?_toList, putBack, Net.Network.modify,
    Array.getElem?_modify]
  by_cases hsame : slot.socket = i
  · simp only [if_pos hsame, Option.map_eq_map, Option.map_map]
    rfl
  · simp only [if_neg hsame, Option.map_eq_map, Option.map_id']

/-- What a client answers is no call. -/
theorem past_answer (reactor : Reactor) (slot : Slot) :
    (reactor.answer slot).past = reactor.past := by
  refine past_modify rfl fun found => ?_
  unfold Net.Socket.answer
  split <;> rfl

/-- The beginning of a drive is no call. -/
theorem past_renew (reactor : Reactor) (slot : Slot) :
    (reactor.renew slot).past = reactor.past :=
  past_modify rfl fun _ => rfl

/-- Closing a connection is no call on its socket. -/
theorem past_close (reactor : Reactor) (key : Nat) : (reactor.close key).past = reactor.past := by
  unfold close
  split
  · rfl
  · exact past_modify rfl fun _ => rfl

/-- Arming a watch is no call on its socket. -/
theorem past_watch (reactor : Reactor) (key : Nat) (slot : Slot) (interest : Interest) :
    (reactor.watch key slot interest).past = reactor.past := by
  unfold watch
  simp only
  split
  · rfl
  · exact past_close _ key

/-- What a connection gets is no call. -/
theorem past_provide (reactor : Reactor) (key : Nat) (need : Need) :
    (reactor.provide key need).past = reactor.past := by
  unfold provide
  split
  · rfl
  · rename_i slot _
    cases need with
    | input => exact past_watch reactor key slot .readable
    | output => exact past_watch reactor key slot .writable
    | disk => rfl
    | close => exact past_close reactor key

/-- Accepting a client is no call on its socket. -/
theorem Accepted.past {last : Reactor} (h : Accepted reactor last) : last.past = reactor.past := by
  induction h with
  | done => rfl
  | client _ hfirst _ ih => exact ih.trans (past_of_wires hfirst.sameWires.wires)

/-- The end of a drive adds what the drive has done. -/
theorem past_conclude (reactor : Reactor) (key : Nat) (slot : Slot) (need : Need) (turn : Turn) :
    (reactor.conclude key slot need turn).past
      = reactor.past.modify slot.socket fun _ => (turn.wire.log, turn.wire.output) := by
  rw [conclude, past_provide, past_answer, past_putBack]

/-- On a new socket nothing was done. -/
theorem past_connect (reactor : Reactor) : reactor.connect.2.past = reactor.past ++ [([], [])] := by
  rw [past, past, connect, Net.Network.connect, Array.toList_push, List.map_append]
  rfl

/-- What a client does is no call of the server. -/
theorem past_client (reactor : Reactor) (number : Nat) (act : Net.ClientAct) :
    (reactor.client number act).past = reactor.past :=
  past_modify rfl act.past_apply

end Reactor

end FileServer
