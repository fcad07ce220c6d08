import FileServer.Connection.Drive

/-!
# Traffic

Any number of connections, each on its own wire, share one hub. Whatever happens to them is a
sequence of actions: a connection is opened, something happens on a wire, a connection is driven,
and loads are taken off the queue, put into the cache and marked complete, in any order. `run` is
what such a sequence leads to.

The disk side is not bound to the order in which a disk worker works. A load that was taken is under
way until it is marked, and may be published never or more than once in the meantime.
-/

namespace FileServer

/-- A load that was taken off the queue and is not marked complete. -/
structure Errand where
  /-- The key to be loaded. -/
  key : String
  /-- The ticket to be marked. -/
  ticket : Ticket
deriving DecidableEq

/-- Connections on one hub. -/
structure Traffic where
  /-- What every connection is told. -/
  settings : Settings
  /-- Cache, queue and counters. -/
  hub : Hub
  /-- The connections and their wires, in the order in which they were opened. -/
  members : Array (Connection × Wire)
  /-- The loads that are under way, in the order in which they were taken. -/
  errands : List Errand

namespace Traffic

/-- No connection, and a cache of the given budget. -/
def start (settings : Settings) (budget : Nat) : Traffic := ⟨settings, .empty budget, #[], []⟩

/-- What can happen next. -/
inductive Action where
  /-- A connection is opened. -/
  | open (gathers corkFails : Bool)
  /-- Something happens to the wire of a connection. -/
  | wire (member : Nat) (change : Wire.Change)
  /-- A connection is driven. -/
  | drive (member : Nat)
  /-- The oldest task is taken off the queue. -/
  | take
  /-- A content is published for a load that is under way. -/
  | publish (errand : Nat) (content : Content)
  /-- A load that is under way is marked complete. -/
  | complete (errand : Nat)

/-- Drives a connection, if there is one under the number. Gives what it needs. -/
def drive? (traffic : Traffic) (member : Nat) : Option (Need × Traffic) :=
  traffic.members[member]?.map fun (conn, wire) =>
    let (need, turn) := Turn.drive traffic.settings ⟨conn, wire.renew, traffic.hub⟩
    (need, { traffic with
      hub := turn.hub
      members := traffic.members.setIfInBounds member (turn.conn, turn.wire) })

/-- Takes the oldest task off the queue. A stop is dropped. -/
def take (traffic : Traffic) : Traffic :=
  match traffic.hub.queue.take? with
  | none => traffic
  | some (.stop, queue) => { traffic with hub.queue := queue }
  | some (.load key ticket, queue) =>
    { traffic with hub.queue := queue, errands := traffic.errands ++ [⟨key, ticket⟩] }

/-- Publishes a content for a load that is under way. -/
def publish (traffic : Traffic) (number : Nat) (content : Content) : Traffic :=
  match traffic.errands[number]? with
  | none => traffic
  | some errand => { traffic with hub := traffic.hub.store errand.key content }

/-- Marks a load that is under way complete, which ends it. -/
def complete (traffic : Traffic) (number : Nat) : Traffic :=
  match traffic.errands[number]? with
  | none => traffic
  | some errand =>
    { traffic with
      hub := traffic.hub.complete errand.ticket
      errands := traffic.errands.eraseIdx number }

/-- What an action leads to. One that names nothing that exists changes nothing. -/
def act (traffic : Traffic) : Action → Traffic
  | .open gathers corkFails =>
    { traffic with
      members := traffic.members.push (.fresh, { Wire.fresh with gathers, corkFails }) }
  | .wire member change =>
    { traffic with
      members := traffic.members.modify member fun (conn, wire) => (conn, wire.change change) }
  | .drive member => ((traffic.drive? member).map Prod.snd).getD traffic
  | .take => traffic.take
  | .publish number content => traffic.publish number content
  | .complete number => traffic.complete number

/-- What a sequence of actions leads to. -/
def run (traffic : Traffic) (actions : List Action) : Traffic := actions.foldl act traffic

/-- A run begins with its first action. -/
@[simp] theorem run_cons (traffic : Traffic) (action : Action) (actions : List Action) :
    traffic.run (action :: actions) = (traffic.act action).run actions := rfl

/-- A drive touches no connection but the one that is driven. -/
theorem members_drive? {traffic next : Traffic} {need : Need} {member other : Nat}
    (h : traffic.drive? member = some (need, next)) (hne : other ≠ member) :
    next.members[other]? = traffic.members[other]? := by
  unfold drive? at h
  obtain ⟨pair, -, h⟩ := Option.map_eq_some_iff.1 h
  simp only [Prod.mk.injEq] at h
  obtain ⟨-, rfl⟩ := h
  simp [Ne.symm hne]

end Traffic

end FileServer
