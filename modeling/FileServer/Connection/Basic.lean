import FileServer.Intake.Scanner
import FileServer.Connection.Outgoing
import FileServer.Wire
import FileServer.Hub

/-!
# Connections

A connection reads a line, finds the content it names, sends the response and begins again. It is
driven whenever its wire becomes ready or a load is done: one drive runs from phase to phase until
the connection needs something that is not there, and says what that is (`Need`).

```text
reading ──line──▶ resolving ──found──▶ sending ──▶ finishing ──kept──▶ reading
   │                  │                   │             │
   ▼                  ▼                   ▼             ▼
 input               disk              output         close
```

Content that is not cached is asked for once. While its ticket is open the connection only waits;
if the ticket is complete and the content is gone again, it is asked for again. A fault of the
wire, and the end of its input, close the connection.

A drive is made of single steps (`step`), each with at most one call on the wire or one access to
what is shared with the disk workers, so that a step is also the unit in which a connection and the
workers can interleave. `step_decreases` is why every drive comes to an end: a step that does not
end it uses up unread input, or comes nearer to the end of the request, or uses up unsent output.
-/

namespace FileServer

/-- What a connection needs in order to go on. -/
inductive Need where
  /-- Something to read. -/
  | input
  /-- Room to write. -/
  | output
  /-- A load that is under way. -/
  | disk
  /-- To be closed. -/
  | close
deriving DecidableEq, Repr

/-- Where a connection stands in the handling of a request. -/
inductive Phase where
  /-- Reading a line. -/
  | reading
  /-- Looking for the content of `key`, holding the ticket of the load that was asked for. -/
  | resolving (key : String) (ticket : Option Ticket)
  /-- The lookup of `key` has found nothing. -/
  | missed (key : String) (ticket : Option Ticket)
  /-- About to ask for a load of `key`. -/
  | asking (key : String)
  /-- Writing a response. -/
  | sending (out : Outgoing)
  /-- The response is out. -/
  | finishing (keepAlive : Bool)
  /-- Nothing more happens. -/
  | closed
deriving DecidableEq

namespace Phase

/-- How far a phase is from the end of its request. -/
def rank : Phase → Nat
  | closed => 0
  | reading => 0
  | finishing _ => 1
  | sending _ => 2
  | asking _ => 3
  | missed _ _ => 4
  | resolving _ _ => 5

end Phase

/-- One connection, apart from its wire. -/
structure Connection where
  /-- Bytes read and not yet scanned. -/
  ring : Ring
  /-- The line that is being read. -/
  scanner : Scanner
  /-- Where the connection stands. -/
  phase : Phase
  /-- The number of responses sent to their end. -/
  served : Nat

namespace Connection

/-- A connection that has read nothing. -/
def fresh : Connection := ⟨.empty, .empty, .reading, 0⟩

/-- The number of bytes of the current response that are still to be written, while there is one. -/
def pendingWrite (conn : Connection) : Option Nat :=
  match conn.phase with
  | .sending out => some out.remaining
  | _ => none

end Connection

/-- What a drive works on: a connection, its wire, and what is shared with the disk workers. -/
structure Turn where
  /-- The connection that is driven. -/
  conn : Connection
  /-- Its wire. -/
  wire : Wire
  /-- Cache, queue and counters. -/
  hub : Hub

/-- How a step ends. -/
inductive Progress where
  /-- The drive goes on from here. -/
  | on (turn : Turn)
  /-- The drive is over, and the connection needs something. -/
  | rest (need : Need) (turn : Turn)

namespace Turn

/-- Moves the connection to another phase. -/
def enter (turn : Turn) (phase : Phase) : Turn :=
  { turn with conn := { turn.conn with phase } }

/-- Corks or uncorks the wire if the settings ask for it. A wire that refuses is used as it is. -/
def cork (settings : Settings) (on : Bool) (turn : Turn) : Turn :=
  if settings.cork then { turn with wire := (turn.wire.cork on).2 } else turn

/-- Begins to send a response. -/
def send (settings : Settings) (response : Http.Response) (turn : Turn) : Turn :=
  (turn.cork settings true).enter (.sending (.ofResponse response))

/-- Begins to handle the line that has been read. -/
def begin (settings : Settings) (turn : Turn) : Turn :=
  match Key.resolve settings.root turn.conn.scanner.text with
  | .ok key => turn.enter (.resolving key none)
  | .error _ => turn.send settings (.error 400 false)

/-- Reads on: scans what has been read, and reads more from the wire if the line goes on. -/
def read (settings : Settings) (turn : Turn) : Progress :=
  let (scan, scanner, ring) := turn.conn.scanner.advance turn.conn.ring
  let turn := { turn with conn := { turn.conn with scanner, ring } }
  match scan with
  | .complete => .on (turn.begin settings)
  | .tooLong => .on (turn.send settings (.error 414 false))
  | .incomplete =>
    let (outcome, wire) := turn.wire.read ring.writable
    let turn := { turn with wire }
    match outcome with
    | .ok [] => .rest .close (turn.enter .closed)
    | .ok bytes => .on { turn with conn := { turn.conn with ring := ring.fill bytes } }
    | .error .wouldBlock => .rest .input turn
    | .error .interrupted => .on turn
    | .error _ => .rest .close (turn.enter .closed)

/-- Looks for the content of a key. -/
def resolve (settings : Settings) (key : String) (ticket : Option Ticket) (turn : Turn) :
    Progress :=
  let (found, hub) := turn.hub.lookup key
  let turn := { turn with hub }
  match found with
  | some content => .on (turn.send settings (content.response key settings.keepAlive))
  | none => .on (turn.enter (.missed key ticket))

/-- Waits on while a load is under way, and asks for one otherwise. -/
def miss (key : String) (ticket : Option Ticket) (turn : Turn) : Progress :=
  match ticket with
  | none => .on (turn.enter (.asking key))
  | some ticket =>
    if turn.hub.queue.isComplete ticket then .on (turn.enter (.asking key))
    else .rest .disk (turn.enter (.resolving key (some ticket)))

/-- Asks for a load. -/
def ask (key : String) (turn : Turn) : Progress :=
  let (ticket, hub) := turn.hub.request key
  .rest .disk ({ turn with hub }.enter (.resolving key (some ticket)))

/-- Counts bytes that the wire has taken. -/
def countBytes (count : Nat) (turn : Turn) : Turn :=
  { turn with hub.counters.bytes := turn.hub.counters.bytes + count }

/-- Writes a part of the response. -/
def write (out : Outgoing) (turn : Turn) : Progress :=
  if out.remaining = 0 then .on (turn.enter (.finishing out.keepAlive))
  else
    let (outcome, wire) := turn.wire.write out.buffers
    let turn := { turn with wire }
    match outcome with
    | .ok 0 => .rest .close (turn.enter .closed)
    | .ok count => .on ((turn.countBytes count).enter (.sending (out.advance count)))
    | .error .wouldBlock => .rest .output turn
    | .error .interrupted => .on turn
    | .error _ => .rest .close (turn.enter .closed)

/-- Counts the response that is out, and makes the connection ready for the next line. Bytes that
have arrived behind the line stay in the ring. -/
def finish (settings : Settings) (keepAlive : Bool) (turn : Turn) : Progress :=
  let turn := { turn with
    conn.served := turn.conn.served + 1
    hub.counters.served := turn.hub.counters.served + 1 }
  let turn := turn.cork settings false
  if keepAlive then
    .on { turn with
      conn := { turn.conn with
        scanner := .empty
        ring := turn.conn.ring.compact
        phase := .reading } }
  else .rest .close (turn.enter .closed)

/-- One step of a drive. -/
def step (settings : Settings) (turn : Turn) : Progress :=
  match turn.conn.phase with
  | .reading => turn.read settings
  | .resolving key ticket => turn.resolve settings key ticket
  | .missed key ticket => turn.miss key ticket
  | .asking key => turn.ask key
  | .sending out => turn.write out
  | .finishing keepAlive => turn.finish settings keepAlive
  | .closed => .rest .close turn

/-- The input that a drive has not used up: a byte on the wire counts twice, because it is first
read and then scanned. A line that has been read and not handled counts once. -/
def unused (turn : Turn) : Nat :=
  2 * turn.wire.unread + turn.wire.inbound.length + turn.conn.ring.length
    + (if turn.conn.phase = .reading ∧ turn.conn.scanner.done then 1 else 0)

/-- The output that a drive has not used up: bytes to be sent, and answers prepared for writes. -/
def unsent (turn : Turn) : Nat :=
  match turn.conn.phase with
  | .sending out => out.remaining + turn.wire.writes.length
  | _ => 0

end Turn

end FileServer
