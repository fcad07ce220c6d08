import FileServer.Proofs.Connection.Moves
import FileServer.Proofs.Connection.Stream

/-!
# Corking is not seen

Whether the server corks, and whether that works, is settled in three places: in the settings, in
how a wire answers, and in the calls that are recorded. Without these, a state is `uncorked`. What
is left is everything else that can be seen: the connections with their rings, cursors and counts,
what has arrived on every wire, what was written, all other calls and how the next writes are
answered, the hub with cache, queue and counters, and the loads under way.

A step of an uncorked drive is the step of the drive, uncorked (`step_uncorked`), because nothing
depends on what a request to cork or uncork gives. So is a whole drive, and everything else that
can happen. Along a run the states are the same up to corking, and every drive and every step
gives the same need (`uncorked_history`, `needs_uncorked`).
-/

namespace FileServer

/-- The same settings without corking. -/
def Settings.uncorked (settings : Settings) : Settings := { settings with cork := false }

/-- Whether a call is a request to cork or uncork, and which. -/
def Call.corking? : Call → Option Bool
  | .cork on => some on
  | _ => none

namespace Wire

/-- The wire without its answers to requests to cork or uncork and without the record of them. -/
def uncorked (wire : Wire) : Wire :=
  { wire with
    corks := []
    corkFails := false
    log := wire.log.filter (·.corking?.isNone) }

/-- The same change, unless it settles which requests fail. -/
def Change.uncorked : Change → Change
  | .corks _ => .corks []
  | change => change

/-- Corking a wire cannot be seen without corks. -/
@[simp] theorem uncorked_cork (wire : Wire) (on : Bool) :
    (wire.cork on).2.uncorked = wire.uncorked := by
  unfold cork
  split <;> rfl

/-- A write gives the same without corks. -/
theorem write_uncorked (wire : Wire) (buffers : List Buffer) :
    wire.uncorked.write buffers = ((wire.write buffers).1, (wire.write buffers).2.uncorked) := by
  obtain ⟨inbound, ended, gathers, writes, fault, chunk, calls, callsLeft, corks, corkFails, log,
    sent⟩ := wire
  rcases writes with _ | ⟨_ | _, rest⟩
  · rcases fault with _ | cause
    · rcases callsLeft with _ | callsLeft <;> rfl
    · rfl
  · rfl
  · rfl

/-- What happens on a wire is the same without corks. -/
theorem change_uncorked (wire : Wire) (change : Change) :
    wire.uncorked.change change.uncorked = (wire.change change).uncorked := by
  cases change <;> rfl

end Wire

namespace Turn

variable {settings : Settings} {turn : Turn}

/-- The turn with its wire uncorked. -/
def uncorked (turn : Turn) : Turn := { turn with wire := turn.wire.uncorked }

end Turn

/-- Where a step leads to, uncorked. -/
def Progress.uncorked : Progress → Progress
  | .on turn => .on turn.uncorked
  | .rest need turn => .rest need turn.uncorked

namespace Turn

/-- So is the next phase. -/
@[simp] theorem uncorked_enter (turn : Turn) (phase : Phase) :
    turn.uncorked.enter phase = (turn.enter phase).uncorked := rfl

/-- Corking leaves nothing behind. -/
@[simp] theorem uncorked_cork (settings : Settings) (on : Bool) (turn : Turn) :
    (turn.cork settings on).uncorked = turn.uncorked := by
  unfold cork
  split
  · rw [uncorked, Wire.uncorked_cork]
    rfl
  · rfl

/-- A response is sent in the same way without corks. -/
theorem send_uncorked (settings : Settings) (response : Http.Response) (turn : Turn) :
    turn.uncorked.send settings.uncorked response = (turn.send settings response).uncorked := by
  rw [send, send, ← uncorked_enter, uncorked_cork]
  rfl

/-- A request is begun in the same way without corks. -/
theorem begin_uncorked (settings : Settings) (turn : Turn) :
    turn.uncorked.begin settings.uncorked = (turn.begin settings).uncorked := by
  have hconn : turn.uncorked.conn = turn.conn := rfl
  have hroot : settings.uncorked.root = settings.root := rfl
  unfold begin
  rw [hconn, hroot]
  rcases Key.resolve settings.root turn.conn.scanner.text with cause | key
  · exact send_uncorked settings _ turn
  · rfl

/-- A step that reads is the same without corks. -/
theorem read_uncorked (settings : Settings) (turn : Turn) :
    turn.uncorked.read settings.uncorked = (turn.read settings).uncorked := by
  unfold Turn.read
  have hconn : turn.uncorked.conn = turn.conn := rfl
  rw [hconn]
  rcases turn.conn.scanner.advance turn.conn.ring with ⟨scan, scanner, ring⟩
  rcases scan with _ | _ | _
  · exact congrArg Progress.on (begin_uncorked settings (turn.scanned scanner ring))
  · have hwire : turn.uncorked.wire.read ring.writable
        = ((turn.wire.read ring.writable).1, (turn.wire.read ring.writable).2.uncorked) := rfl
    simp only [hwire]
    split <;> rfl
  · exact congrArg Progress.on (send_uncorked settings _ (turn.scanned scanner ring))

/-- A step that looks for a content is the same without corks. -/
theorem resolve_uncorked (settings : Settings) (key : String) (ticket : Option Ticket)
    (turn : Turn) : turn.uncorked.resolve settings.uncorked key ticket
      = (turn.resolve settings key ticket).uncorked := by
  unfold Turn.resolve
  have hhub : turn.uncorked.hub = turn.hub := rfl
  rw [hhub]
  rcases turn.hub.lookup key with ⟨_ | content, hub⟩
  · rfl
  · exact congrArg Progress.on (send_uncorked settings _ { turn with hub })

/-- A step that has found no content is the same without corks. -/
theorem miss_uncorked (key : String) (ticket : Option Ticket) (turn : Turn) :
    turn.uncorked.miss key ticket = (turn.miss key ticket).uncorked := by
  unfold Turn.miss
  have hhub : turn.uncorked.hub = turn.hub := rfl
  rw [hhub]
  rcases ticket with _ | ticket
  · rfl
  · simp only
    split <;> rfl

/-- A step that writes is the same without corks. -/
theorem write_uncorked (out : Outgoing) (turn : Turn) :
    turn.uncorked.write out = (turn.write out).uncorked := by
  unfold Turn.write
  split
  · rfl
  · have hwire : turn.uncorked.wire.write out.buffers
        = ((turn.wire.write out.buffers).1, (turn.wire.write out.buffers).2.uncorked) :=
      turn.wire.write_uncorked out.buffers
    simp only [hwire]
    split <;> rfl

/-- A step that finishes a response is the same without corks. -/
theorem finish_uncorked (settings : Settings) (keepAlive : Bool) (turn : Turn) :
    turn.uncorked.finish settings.uncorked keepAlive
      = (turn.finish settings keepAlive).uncorked := by
  have hserve : (turn.serve.cork settings false).uncorked = turn.uncorked.serve := by
    rw [uncorked_cork]
    rfl
  rcases keepAlive with _ | _
  · exact congrArg (fun turn : Turn => Progress.rest .close (turn.enter .closed)) hserve.symm
  · exact congrArg (fun turn : Turn => Progress.on turn.restart) hserve.symm

/-- **A step** of an uncorked drive is the step of the drive, uncorked. -/
theorem step_uncorked (settings : Settings) (turn : Turn) :
    turn.uncorked.step settings.uncorked = (turn.step settings).uncorked := by
  have hconn : turn.uncorked.conn = turn.conn := rfl
  unfold step
  rw [hconn]
  rcases turn.conn.phase with _ | ⟨key, ticket⟩ | ⟨key, ticket⟩ | key | out | keepAlive | _
  · exact read_uncorked settings turn
  · exact resolve_uncorked settings key ticket turn
  · exact miss_uncorked key ticket turn
  · rfl
  · exact write_uncorked out turn
  · exact finish_uncorked settings keepAlive turn
  · rfl

/-- **A drive** of the uncorked turn is the drive, uncorked. -/
theorem drive_uncorked (settings : Settings) (turn : Turn) :
    turn.uncorked.drive settings.uncorked
      = ((turn.drive settings).1, (turn.drive settings).2.uncorked) := by
  induction turn using drive.induct settings with
  | case1 turn need next hstep =>
      have huncorked := step_uncorked settings turn
      rw [hstep] at huncorked
      rw [drive_of_rest hstep, drive_of_rest huncorked]
  | case2 turn next hstep ih =>
      have huncorked := step_uncorked settings turn
      rw [hstep] at huncorked
      rw [drive_of_on hstep, drive_of_on huncorked, ih]

end Turn

namespace Traffic

/-- The traffic with the settings and all wires uncorked. -/
def uncorked (traffic : Traffic) : Traffic :=
  { traffic with
    settings := traffic.settings.uncorked
    members := traffic.members.map fun member => (member.1, member.2.uncorked) }

/-- The same action, unless it settles which requests to cork or uncork fail. -/
def Action.uncorked : Action → Action
  | .open gathers _ => .open gathers false
  | .wire member change => .wire member change.uncorked
  | action => action

/-- The same event, unless it settles which requests to cork or uncork fail. -/
def Event.uncorked : Event → Event
  | .act action => .act action.uncorked
  | .step member => .step member

/-- What a connection needs after an event that drives it or takes a step in its drive, if it needs
something then. -/
def need? (traffic : Traffic) : Event → Option Need
  | .act (.drive member) => (traffic.drive? member).map Prod.fst
  | .step member =>
    traffic.members[member]?.bind fun (conn, wire) =>
      (Turn.step traffic.settings ⟨conn, wire, traffic.hub⟩).need?
  | _ => none

/-- The needs after the events of a run. -/
def needs (traffic : Traffic) : List Event → List (Option Need)
  | [] => []
  | event :: events => traffic.need? event :: (traffic.happen event).needs events

variable {traffic : Traffic}

/-- The connections without corks are the same on other wires. -/
theorem members_uncorked (traffic : Traffic) (member : Nat) :
    traffic.uncorked.members[member]?
      = traffic.members[member]?.map fun found => (found.1, found.2.uncorked) :=
  Array.getElem?_map

/-- A connection that has gone on, with what it has made of the hub. -/
theorem uncorked_replace (traffic : Traffic) (member : Nat) (turn : Turn) :
    ({ traffic with
      hub := turn.hub
      members := traffic.members.setIfInBounds member (turn.conn, turn.wire) } : Traffic).uncorked
    = { traffic.uncorked with
        hub := turn.hub
        members := traffic.uncorked.members.setIfInBounds member
          (turn.conn, turn.wire.uncorked) } := by
  simp [uncorked, Array.map_setIfInBounds]

/-- Driving a connection. -/
theorem drive?_uncorked (traffic : Traffic) (member : Nat) :
    traffic.uncorked.drive? member
      = (traffic.drive? member).map fun driven => (driven.1, driven.2.uncorked) := by
  unfold drive?
  rw [members_uncorked]
  rcases traffic.members[member]? with _ | ⟨conn, wire⟩
  · rfl
  · have hdrive : Turn.drive traffic.uncorked.settings
        ⟨conn, wire.uncorked.renew, traffic.uncorked.hub⟩ = _ :=
      Turn.drive_uncorked traffic.settings ⟨conn, wire.renew, traffic.hub⟩
    simp only [Option.map_some, hdrive, uncorked_replace]
    rfl

/-- A step in the drive of a connection. -/
theorem step_uncorked (traffic : Traffic) (member : Nat) :
    traffic.uncorked.step member = (traffic.step member).uncorked := by
  unfold step
  rw [members_uncorked]
  rcases traffic.members[member]? with _ | ⟨conn, wire⟩
  · rfl
  · have hstep : Turn.step traffic.uncorked.settings ⟨conn, wire.uncorked, traffic.uncorked.hub⟩
        = _ := Turn.step_uncorked traffic.settings ⟨conn, wire, traffic.hub⟩
    simp only [Option.map_some, hstep, uncorked_replace]
    rcases Turn.step traffic.settings ⟨conn, wire, traffic.hub⟩ with next | ⟨need, next⟩ <;> rfl

/-- Taking a load is the same without corks. -/
theorem take_uncorked (traffic : Traffic) : traffic.uncorked.take = traffic.take.uncorked := by
  unfold take
  have hhub : traffic.uncorked.hub = traffic.hub := rfl
  rw [hhub]
  rcases traffic.hub.queue.take? with _ | ⟨_ | _, queue⟩ <;> rfl

/-- Publishing a content is the same without corks. -/
theorem publish_uncorked (traffic : Traffic) (number : Nat) (content : Content) :
    traffic.uncorked.publish number content = (traffic.publish number content).uncorked := by
  unfold publish
  have herrands : traffic.uncorked.errands = traffic.errands := rfl
  rw [herrands]
  rcases traffic.errands[number]? with _ | errand <;> rfl

/-- Marking a load is the same without corks. -/
theorem complete_uncorked (traffic : Traffic) (number : Nat) :
    traffic.uncorked.complete number = (traffic.complete number).uncorked := by
  unfold complete
  have herrands : traffic.uncorked.errands = traffic.errands := rfl
  rw [herrands]
  rcases traffic.errands[number]? with _ | errand <;> rfl

/-- Something that happens on a wire. -/
theorem change_uncorked (traffic : Traffic) (member : Nat) (change : Wire.Change) :
    traffic.uncorked.act (.wire member change.uncorked)
      = (traffic.act (.wire member change)).uncorked := by
  have hmembers : (traffic.uncorked.act (.wire member change.uncorked)).members
      = (traffic.act (.wire member change)).uncorked.members := by
    apply Array.ext_getElem?
    intro other
    rw [members_uncorked]
    simp only [act, Array.getElem?_modify, members_uncorked]
    split
    · simp only [Option.map_map]
      congr 1
      funext found
      exact congrArg (Prod.mk found.1) (found.2.change_uncorked change)
    · rfl
  exact congrArg (fun members => { traffic.uncorked with members }) hmembers

/-- An action. -/
theorem act_uncorked (traffic : Traffic) (action : Action) :
    traffic.uncorked.act action.uncorked = (traffic.act action).uncorked := by
  cases action with
  | «open» gathers corkFails => simp [act, Action.uncorked, uncorked, Wire.uncorked, Wire.fresh]
  | wire member change => exact change_uncorked traffic member change
  | drive member =>
      simp only [act, Action.uncorked, drive?_uncorked]
      rcases traffic.drive? member with _ | _ <;> rfl
  | take => exact take_uncorked traffic
  | publish number content => exact publish_uncorked traffic number content
  | complete number => exact complete_uncorked traffic number

/-- **An event** in the uncorked traffic leads to what it leads to, uncorked. -/
theorem happen_uncorked (traffic : Traffic) (event : Event) :
    traffic.uncorked.happen event.uncorked = (traffic.happen event).uncorked := by
  cases event with
  | act action => exact act_uncorked traffic action
  | step member => exact step_uncorked traffic member

/-- It gives the same need. -/
theorem need?_uncorked (traffic : Traffic) (event : Event) :
    traffic.uncorked.need? event.uncorked = traffic.need? event := by
  cases event with
  | act action =>
      cases action with
      | drive member =>
          simp only [need?, Event.uncorked, Action.uncorked, drive?_uncorked, Option.map_map]
          rfl
      | _ => rfl
  | step member =>
      simp only [need?, Event.uncorked, members_uncorked]
      rcases traffic.members[member]? with _ | ⟨conn, wire⟩
      · rfl
      · have hstep : Turn.step traffic.uncorked.settings
            ⟨conn, wire.uncorked, traffic.uncorked.hub⟩ = _ :=
          Turn.step_uncorked traffic.settings ⟨conn, wire, traffic.hub⟩
        simp only [Option.map_some, Option.bind_some, hstep]
        rcases Turn.step traffic.settings ⟨conn, wire, traffic.hub⟩ with next | ⟨need, next⟩ <;> rfl

/-- **A run** of the uncorked traffic is the run, uncorked. -/
theorem history_uncorked (traffic : Traffic) (events : List Event) :
    traffic.uncorked.history (events.map Event.uncorked) = (traffic.history events).uncorked := by
  induction events generalizing traffic with
  | nil => rfl
  | cons event events ih =>
      have hrest := ih (traffic.happen event)
      rw [← happen_uncorked] at hrest
      exact hrest

/-- Every drive and every step of it gives the same need. -/
theorem needs_uncorked (traffic : Traffic) (events : List Event) :
    traffic.uncorked.needs (events.map Event.uncorked) = traffic.needs events := by
  induction events generalizing traffic with
  | nil => rfl
  | cons event events ih =>
      rw [List.map_cons, needs, needs, need?_uncorked, happen_uncorked, ih]

end Traffic

end FileServer
