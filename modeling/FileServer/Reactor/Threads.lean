import FileServer.Reactor.Basic
import FileServer.Disk.Crew

/-!
# Reactor and workers side by side

The reactor runs on one thread, the disk workers on others, and clients and whoever stops the
server act at any time. Here all of them advance one stroke at a time. A stroke of the reactor is at
most one step of a drive, so at most one access to what it shares with the workers; a stroke of a
worker is one of the four of a load; and telling the server to stop is two strokes, setting the flag
and signalling.

`Thread` says where the reactor stands between two strokes. A round begins and ends with `check`.
That `Reactor.round` makes of the reactor what the strokes of such a round do, if nobody else acts
in between, is shown among the proofs (`performs_round`).
-/

namespace FileServer

/-- Where the reactor stands. -/
inductive Thread where
  /-- About to look whether it was told to stop. -/
  | check
  /-- About to wait for events. -/
  | wait
  /-- About to handle the rest of a batch; the flag says whether a signal was in it so far. -/
  | dispatch (batch : List Event) (signalled : Bool)
  /-- Driving a connection for an event, with the rest of the batch behind it. -/
  | serve (key : Nat) (batch : List Event) (signalled : Bool)
  /-- About to drain the notifier. -/
  | drain
  /-- About to go on with the connections that were parked. -/
  | revive (keys : List Nat)
  /-- Driving a connection that was parked, with the rest of them behind it. -/
  | reviving (key : Nat) (keys : List Nat)
  /-- Ended. -/
  | stopped
deriving DecidableEq

/-- A server in the course of its work. -/
structure Threads where
  /-- The reactor and everything it owns. -/
  reactor : Reactor
  /-- Where the reactor stands. -/
  thread : Thread
  /-- The disk workers. -/
  hands : List Hand
  /-- How many of those who tell the server to stop have set the flag and not signalled. -/
  stopping : Nat
  /-- How many of them have done both. -/
  stopped : Nat

namespace Threads

/-- Who acts next. -/
inductive Action where
  /-- The reactor, which takes at most `most` events if it waits. -/
  | reactor (most : Nat)
  /-- The system, which interrupts a reactor that waits for at most `most` events. -/
  | interrupt (most : Nat)
  /-- The disk worker of the given number; what the file holds, if it reads one now. -/
  | worker (number : Nat) (content : Content)
  /-- A client connects. -/
  | connect
  /-- A client does something to its socket. -/
  | client (number : Nat) (act : Net.ClientAct)
  /-- Somebody sets the flag that tells the server to stop. -/
  | setFlag
  /-- Somebody who has set the flag signals. -/
  | signal

/-- One step of the drive of a connection. What the reactor does next is `after` once the drive is
over, and `again` before. -/
def stepDrive (state : Threads) (key : Nat) (again after : Thread) : Threads :=
  match state.reactor.conns.get? key with
  | none => { state with thread := after }
  | some slot =>
    match (state.reactor.turn slot).step state.reactor.settings with
    | .on turn => { state with reactor := state.reactor.putBack key slot turn, thread := again }
    | .rest need turn =>
      { state with reactor := state.reactor.conclude key slot need turn, thread := after }

/-- One stroke of the reactor. It waits for as long as there is no event. -/
def strike (state : Threads) (most : Nat) : Option Threads :=
  let reactor := state.reactor
  match state.thread with
  | .check => some { state with thread := if reactor.stopping then .stopped else .wait }
  | .wait =>
    match reactor.poller.wait most reactor.ready with
    | ([], _) => none
    | (batch, poller) =>
      some { state with reactor := { reactor with poller }, thread := .dispatch batch false }
  | .dispatch [] signalled => some { state with thread := if signalled then .drain else .check }
  | .dispatch (event :: batch) signalled =>
    match event.token with
    | .listener =>
      some { state with reactor := reactor.acceptAll, thread := .dispatch batch signalled }
    | .notifier => some { state with thread := .dispatch batch true }
    | .connection key =>
      if event.isError then
        some { state with reactor := reactor.close key, thread := .dispatch batch signalled }
      else match reactor.conns.get? key with
        | none => some { state with thread := .dispatch batch signalled }
        | some slot =>
          some { state with reactor := reactor.renew slot, thread := .serve key batch signalled }
  | .serve key batch signalled =>
    some (state.stepDrive key (.serve key batch signalled) (.dispatch batch signalled))
  | .drain =>
    some { state with
      reactor := { reactor.drain with waiting := [] }
      thread := .revive reactor.waiting }
  | .revive [] => some { state with reactor := reactor.showWaiting, thread := .check }
  | .revive (key :: keys) =>
    match reactor.conns.get? key with
    | none => some { state with thread := .revive keys }
    | some slot =>
      if slot.parked then
        let reactor :=
          { reactor with conns := reactor.conns.modify key ({ · with parked := false }) }
        some { state with reactor := reactor.renew slot, thread := .reviving key keys }
      else some { state with thread := .revive keys }
  | .reviving key keys => some (state.stepDrive key (.reviving key keys) (.revive keys))
  | .stopped => none

/-- A wait in which there is no event is interrupted. It ends with an empty batch. -/
def interrupt (state : Threads) (most : Nat) : Option Threads :=
  match state.thread, state.reactor.poller.wait most state.reactor.ready with
  | .wait, ([], poller) =>
    some { state with
      reactor := { state.reactor with poller }
      thread := .dispatch [] false }
  | _, _ => none

/-- What an action leads to, if it is possible. -/
def act (state : Threads) : Action → Option Threads
  | .reactor most => state.strike most
  | .interrupt most => state.interrupt most
  | .worker number content =>
    (state.hands[number]?.bind fun hand => hand.act content state.reactor.shop).map
      fun (hand, shop) =>
        { state with
          reactor := state.reactor.share shop
          hands := state.hands.set number hand }
  | .connect => some { state with reactor := state.reactor.connect.2 }
  | .client number act => some { state with reactor := state.reactor.client number act }
  | .setFlag =>
    some { state with
      reactor := { state.reactor with stopping := true }
      stopping := state.stopping + 1 }
  | .signal =>
    if 0 < state.stopping then
      some { state with
        reactor := state.reactor.signal
        stopping := state.stopping - 1
        stopped := state.stopped + 1 }
    else none

/-- A server with idle workers that is about to begin its first round. -/
def start (reactor : Reactor) (workers : Nat) : Threads :=
  ⟨reactor, .check, List.replicate workers .free, 0, 0⟩

/-- What can come about from a state. -/
inductive Reachable (initial : Threads) : Threads → Prop where
  /-- The state itself. -/
  | refl : Reachable initial initial
  /-- What an action makes of a state that can come about. -/
  | act {state next : Threads} (action : Action) :
      Reachable initial state → state.act action = some next → Reachable initial next

end Threads

end FileServer
