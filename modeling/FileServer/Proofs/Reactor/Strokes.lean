import FileServer.Reactor.Threads

/-!
# The strokes of the reactor

`Struck` lists what a stroke of the reactor can be, one case for each place where the reactor stands
and each turn it can take there, and `struck_of_strike` says that there is nothing else. What holds
of every stroke is shown case by case from this list. The two cases in which a connection is driven
come down to one step of its drive (`Driven`).

A server begins at `opening`, and `follow` is what a sequence of strokes leads to.
-/

namespace FileServer

/-- The connection that the reactor is driving. -/
def Thread.driven? : Thread → Option Nat
  | .serve key _ _ => some key
  | .reviving key _ => some key
  | _ => none

namespace Threads

variable {initial state next : Threads} {key : Nat} {slot : Slot}

/-- What one step in the drive of a connection leads to. -/
inductive Driven (state : Threads) (key : Nat) (slot : Slot) (again after : Thread) :
    Threads → Prop where
  /-- The drive goes on. -/
  | on {turn : Turn} (hstep : (state.reactor.turn slot).step state.reactor.settings = .on turn) :
      Driven state key slot again after
        { state with reactor := state.reactor.putBack key slot turn, thread := again }
  /-- The drive is over, and the connection gets what it needs. -/
  | rest {need : Need} {turn : Turn}
      (hstep : (state.reactor.turn slot).step state.reactor.settings = .rest need turn) :
      Driven state key slot again after
        { state with reactor := state.reactor.conclude key slot need turn, thread := after }

/-- **A step in the drive of a connection** is one of these. -/
theorem driven_stepDrive (hslot : state.reactor.conns.get? key = some slot) (again after : Thread) :
    Driven state key slot again after (state.stepDrive key again after) := by
  unfold stepDrive
  rw [hslot]
  simp only
  split
  · rename_i turn hstep
    exact .on hstep
  · rename_i need turn hstep
    exact .rest hstep

/-- What a stroke of the reactor can be. -/
inductive Struck (state : Threads) : Threads → Prop where
  /-- It looks whether it was told to stop. -/
  | check (hthread : state.thread = .check) :
      Struck state { state with thread := if state.reactor.stopping then .stopped else .wait }
  /-- Its wait ends, with some events or because it is interrupted. -/
  | wait {most : Nat} {batch : List Event} {poller : Poller} (hthread : state.thread = .wait)
      (hwait : state.reactor.poller.wait most state.reactor.ready = (batch, poller)) :
      Struck state { state with
        reactor := { state.reactor with poller }
        thread := .dispatch batch false }
  /-- The batch is handled. -/
  | handled {signalled : Bool} (hthread : state.thread = .dispatch [] signalled) :
      Struck state { state with thread := if signalled then .drain else .check }
  /-- It accepts clients. -/
  | accept {event : Event} {batch : List Event} {signalled : Bool}
      (hthread : state.thread = .dispatch (event :: batch) signalled)
      (htoken : event.token = .listener) :
      Struck state { state with
        reactor := state.reactor.acceptAll
        thread := .dispatch batch signalled }
  /-- It hears of a signal. -/
  | hear {event : Event} {batch : List Event} {signalled : Bool}
      (hthread : state.thread = .dispatch (event :: batch) signalled)
      (htoken : event.token = .notifier) :
      Struck state { state with thread := .dispatch batch true }
  /-- It closes a connection for an error. -/
  | fail {event : Event} {batch : List Event} {signalled : Bool} {key : Nat}
      (hthread : state.thread = .dispatch (event :: batch) signalled)
      (htoken : event.token = .connection key) (herror : event.isError = true) :
      Struck state { state with
        reactor := state.reactor.close key
        thread := .dispatch batch signalled }
  /-- There is no connection for an event. -/
  | skip {event : Event} {batch : List Event} {signalled : Bool} {key : Nat}
      (hthread : state.thread = .dispatch (event :: batch) signalled)
      (htoken : event.token = .connection key) (hfine : event.isError = false)
      (hnone : state.reactor.conns.get? key = none) :
      Struck state { state with thread := .dispatch batch signalled }
  /-- It begins to drive a connection. -/
  | begin {event : Event} {batch : List Event} {signalled : Bool} {key : Nat} {slot : Slot}
      (hthread : state.thread = .dispatch (event :: batch) signalled)
      (htoken : event.token = .connection key) (hfine : event.isError = false)
      (hslot : state.reactor.conns.get? key = some slot) :
      Struck state { state with
        reactor := state.reactor.renew slot
        thread := .serve key batch signalled }
  /-- It drives a connection for an event. -/
  | serve {key : Nat} {batch : List Event} {signalled : Bool}
      (hthread : state.thread = .serve key batch signalled) :
      Struck state
        (state.stepDrive key (.serve key batch signalled) (.dispatch batch signalled))
  /-- It drains the notifier and takes the list of the parked connections. -/
  | drain (hthread : state.thread = .drain) :
      Struck state { state with
        reactor := { state.reactor.drain with waiting := [] }
        thread := .revive state.reactor.waiting }
  /-- Every parked connection has had its turn. -/
  | revived (hthread : state.thread = .revive []) :
      Struck state { state with reactor := state.reactor.showWaiting, thread := .check }
  /-- A connection that was parked is not there, or is not parked. -/
  | pass {key : Nat} {keys : List Nat} (hthread : state.thread = .revive (key :: keys))
      (hpass : ∀ slot, state.reactor.conns.get? key = some slot → slot.parked = false) :
      Struck state { state with thread := .revive keys }
  /-- It begins to drive a connection that was parked. -/
  | revive {key : Nat} {keys : List Nat} {slot : Slot}
      (hthread : state.thread = .revive (key :: keys))
      (hslot : state.reactor.conns.get? key = some slot) (hparked : slot.parked = true) :
      Struck state { state with
        reactor := Reactor.renew
          { state.reactor with
            conns := state.reactor.conns.modify key ({ · with parked := false }) } slot
        thread := .reviving key keys }
  /-- It drives a connection that was parked. -/
  | reviving {key : Nat} {keys : List Nat} (hthread : state.thread = .reviving key keys) :
      Struck state (state.stepDrive key (.reviving key keys) (.revive keys))

/-- Handling an event. -/
theorem struck_dispatch {event : Event} {batch : List Event} {signalled : Bool} {most : Nat}
    (hthread : state.thread = .dispatch (event :: batch) signalled)
    (hnext : state.strike most = some next) : Struck state next := by
  rw [strike, hthread] at hnext
  simp only at hnext
  split at hnext
  · rename_i htoken
    obtain rfl := Option.some.inj hnext
    exact .accept hthread htoken
  · rename_i htoken
    obtain rfl := Option.some.inj hnext
    exact .hear hthread htoken
  · rename_i key htoken
    split at hnext
    · rename_i herror
      obtain rfl := Option.some.inj hnext
      exact .fail hthread htoken herror
    · rename_i hfine
      have hfine : event.isError = false := by simpa using hfine
      split at hnext
      · rename_i hnone
        obtain rfl := Option.some.inj hnext
        exact .skip hthread htoken hfine hnone
      · rename_i slot hslot
        obtain rfl := Option.some.inj hnext
        exact .begin hthread htoken hfine hslot

/-- Going on with the connections that were parked. -/
theorem struck_revive {keys : List Nat} {most : Nat} (hthread : state.thread = .revive keys)
    (hnext : state.strike most = some next) : Struck state next := by
  cases keys with
  | nil =>
      rw [strike, hthread] at hnext
      obtain rfl := Option.some.inj hnext
      exact .revived hthread
  | cons key keys =>
      rw [strike, hthread] at hnext
      simp only at hnext
      split at hnext
      · rename_i hnone
        obtain rfl := Option.some.inj hnext
        apply Struck.pass hthread
        intro slot hslot
        rw [hnone] at hslot
        cases hslot
      · rename_i slot hslot
        split at hnext
        · rename_i hparked
          obtain rfl := Option.some.inj hnext
          exact .revive hthread hslot hparked
        · rename_i hparked
          obtain rfl := Option.some.inj hnext
          apply Struck.pass hthread
          intro other hother
          obtain rfl := Option.some.inj (hslot.symm.trans hother)
          simpa using hparked

/-- **A stroke of the reactor** is one of these. -/
theorem struck_of_strike {most : Nat} (hnext : state.strike most = some next) :
    Struck state next := by
  cases hthread : state.thread with
  | check =>
      rw [strike, hthread] at hnext
      obtain rfl := Option.some.inj hnext
      exact .check hthread
  | wait =>
      rw [strike, hthread] at hnext
      simp only at hnext
      split at hnext
      · cases hnext
      · rename_i batch poller _ hwait
        obtain rfl := Option.some.inj hnext
        exact .wait hthread hwait
  | dispatch batch signalled =>
      cases batch with
      | nil =>
          rw [strike, hthread] at hnext
          obtain rfl := Option.some.inj hnext
          exact .handled hthread
      | cons event batch => exact struck_dispatch hthread hnext
  | serve key batch signalled =>
      rw [strike, hthread] at hnext
      obtain rfl := Option.some.inj hnext
      exact .serve hthread
  | drain =>
      rw [strike, hthread] at hnext
      obtain rfl := Option.some.inj hnext
      exact .drain hthread
  | revive keys => exact struck_revive hthread hnext
  | reviving key keys =>
      rw [strike, hthread] at hnext
      obtain rfl := Option.some.inj hnext
      exact .reviving hthread
  | stopped =>
      rw [strike, hthread] at hnext
      cases hnext

/-- A wait that is interrupted ends as well. -/
theorem struck_of_interrupt {most : Nat} (hnext : state.interrupt most = some next) :
    Struck state next := by
  unfold interrupt at hnext
  split at hnext
  · rename_i poller hthread hwait
    obtain rfl := Option.some.inj hnext
    exact .wait hthread hwait
  · cases hnext

/-! ### Runs -/

/-- What the system will refuse to the reactor. Each list is used up from the front; once it is at
its end, everything is done. -/
structure Refusals where
  /-- The faults that requests for a client end in. -/
  clients : List (Option Fault) := []
  /-- Whether an option of a socket is not set. -/
  options : List Bool := []
  /-- Whether a watch is not set or armed. -/
  watches : List Bool := []

/-- A server that is about to begin its first round. Whatever its hub holds, nobody has signalled;
what will be refused to it is settled. -/
def opening (settings : Settings) (noDelay : Bool) (hub : Hub) (refusals : Refusals)
    (workers : Nat) : Threads :=
  start { Reactor.start settings noDelay ⟨hub, .quiet⟩ with
    poller.refusals := refusals.watches
    network.faults := refusals.clients
    network.refusals := refusals.options } workers

/-- What a sequence of strokes leads to, if each is possible in its turn. -/
def follow (state : Threads) : List Action → Option Threads
  | [] => some state
  | action :: actions => (state.act action).bind fun state => state.follow actions

/-- What a sequence of strokes leads to can come about. -/
theorem reachable_follow {actions : List Action} (hstate : Reachable initial state)
    (h : state.follow actions = some next) : Reachable initial next := by
  induction actions generalizing state with
  | nil =>
      obtain rfl := Option.some.inj h
      exact hstate
  | cons action actions ih =>
      obtain ⟨middle, hact, hrest⟩ := Option.bind_eq_some_iff.1 h
      exact ih (.act action hstate hact) hrest

/-- A client connects and asks for a file, and the reactor does two rounds. -/
def asking : List Action :=
  [.connect, .client 0 (.send (Text.encode "GET /a HTTP/1.1\n"))] ++
    List.replicate 13 (.reactor 8)

end Threads

end FileServer
