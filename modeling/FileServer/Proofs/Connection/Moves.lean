import FileServer.Connection.Drive

/-!
# The ways a drive can go on

A step of a drive looks at the phase, calls the wire or the hub at most once, and acts on the
outcome. `Move` lists everything that can come of it, with what was found out on the way, and
`move_step` says that there is nothing else. What is proved of a step by cases is proved over this
list, so that the definition of a step is opened in one place.
-/

namespace FileServer

/-- A fault after which a call is not made again. -/
def Fault.Final (cause : Fault) : Prop := cause ≠ .wouldBlock ∧ cause ≠ .interrupted

namespace Turn

variable {settings : Settings} {turn : Turn}

/-- The turn after scanning. -/
def scanned (turn : Turn) (scanner : Scanner) (ring : Ring) : Turn :=
  { turn with conn := { turn.conn with scanner, ring } }

/-- The turn in which a response is counted as served. -/
def serve (turn : Turn) : Turn :=
  { turn with
    conn.served := turn.conn.served + 1
    hub.counters.served := turn.hub.counters.served + 1 }

/-- The turn in which the next line is to be read. -/
def restart (turn : Turn) : Turn :=
  { turn with
    conn := { turn.conn with
      scanner := .empty
      ring := turn.conn.ring.compact
      phase := .reading } }

/-- What a step can come to. -/
inductive Move (settings : Settings) (turn : Turn) : Progress → Prop where
  /-- The line has ended and names a key. -/
  | named {scanner : Scanner} {ring : Ring} {key : String} (hphase : turn.conn.phase = .reading)
      (hscan : turn.conn.scanner.advance turn.conn.ring = (.complete, scanner, ring))
      (hkey : Key.resolve settings.root scanner.text = .ok key) :
      Move settings turn (.on ((turn.scanned scanner ring).enter (.resolving key none)))
  /-- The line has ended and is refused. -/
  | refused {scanner : Scanner} {ring : Ring} {cause : KeyError}
      (hphase : turn.conn.phase = .reading)
      (hscan : turn.conn.scanner.advance turn.conn.ring = (.complete, scanner, ring))
      (hkey : Key.resolve settings.root scanner.text = .error cause) :
      Move settings turn (.on ((turn.scanned scanner ring).send settings (.error 400 false)))
  /-- The line is too long. -/
  | overlong {scanner : Scanner} {ring : Ring} (hphase : turn.conn.phase = .reading)
      (hscan : turn.conn.scanner.advance turn.conn.ring = (.tooLong, scanner, ring)) :
      Move settings turn (.on ((turn.scanned scanner ring).send settings (.error 414 false)))
  /-- The line goes on, and something has arrived. -/
  | arrived {scanner : Scanner} {ring : Ring} {bytes : Bytes} {wire : Wire}
      (hphase : turn.conn.phase = .reading)
      (hscan : turn.conn.scanner.advance turn.conn.ring = (.incomplete, scanner, ring))
      (hread : turn.wire.read ring.writable = (.ok bytes, wire)) (hbytes : bytes ≠ []) :
      Move settings turn (.on { turn.scanned scanner (ring.fill bytes) with wire })
  /-- The line goes on, and the read was interrupted. -/
  | readAgain {scanner : Scanner} {ring : Ring} {wire : Wire} (hphase : turn.conn.phase = .reading)
      (hscan : turn.conn.scanner.advance turn.conn.ring = (.incomplete, scanner, ring))
      (hread : turn.wire.read ring.writable = (.error .interrupted, wire)) :
      Move settings turn (.on { turn.scanned scanner ring with wire })
  /-- The line goes on, and nothing has arrived. -/
  | readBlocked {scanner : Scanner} {ring : Ring} {wire : Wire}
      (hphase : turn.conn.phase = .reading)
      (hscan : turn.conn.scanner.advance turn.conn.ring = (.incomplete, scanner, ring))
      (hread : turn.wire.read ring.writable = (.error .wouldBlock, wire)) :
      Move settings turn (.rest .input { turn.scanned scanner ring with wire })
  /-- The line goes on, and nothing more will arrive. -/
  | readEnded {scanner : Scanner} {ring : Ring} {outcome : Except Fault Bytes} {wire : Wire}
      (hphase : turn.conn.phase = .reading)
      (hscan : turn.conn.scanner.advance turn.conn.ring = (.incomplete, scanner, ring))
      (hread : turn.wire.read ring.writable = (outcome, wire))
      (houtcome : outcome = .ok [] ∨ ∃ cause, outcome = .error cause ∧ cause.Final) :
      Move settings turn (.rest .close ({ turn.scanned scanner ring with wire }.enter .closed))
  /-- The content is found. -/
  | found {key : String} {ticket : Option Ticket} {content : Content} {hub : Hub}
      (hphase : turn.conn.phase = .resolving key ticket)
      (hlookup : turn.hub.lookup key = (some content, hub)) :
      Move settings turn
        (.on ({ turn with hub }.send settings (content.response key settings.keepAlive)))
  /-- The content is not found. -/
  | missed {key : String} {ticket : Option Ticket} {hub : Hub}
      (hphase : turn.conn.phase = .resolving key ticket)
      (hlookup : turn.hub.lookup key = (none, hub)) :
      Move settings turn (.on ({ turn with hub }.enter (.missed key ticket)))
  /-- No load is under way. -/
  | lapsed {key : String} {ticket : Option Ticket} (hphase : turn.conn.phase = .missed key ticket)
      (hcomplete : ∀ issued ∈ ticket, turn.hub.queue.isComplete issued = true) :
      Move settings turn (.on (turn.enter (.asking key)))
  /-- A load is under way. -/
  | waits {key : String} {ticket : Ticket} (hphase : turn.conn.phase = .missed key (some ticket))
      (hopen : turn.hub.queue.isComplete ticket = false) :
      Move settings turn (.rest .disk (turn.enter (.resolving key (some ticket))))
  /-- A load is asked for. -/
  | asked {key : String} (hphase : turn.conn.phase = .asking key) :
      Move settings turn (.rest .disk ({ turn with hub := (turn.hub.request key).2 }.enter
        (.resolving key (some turn.hub.queue.nextTicket))))
  /-- The response is out. -/
  | written {out : Outgoing} (hphase : turn.conn.phase = .sending out)
      (hnone : out.remaining = 0) :
      Move settings turn (.on (turn.enter (.finishing out.keepAlive)))
  /-- A part of the response is taken. -/
  | wrote {out : Outgoing} {count : Nat} {wire : Wire} (hphase : turn.conn.phase = .sending out)
      (hleft : out.remaining ≠ 0) (hwrite : turn.wire.write out.buffers = (.ok count, wire))
      (hcount : count ≠ 0) :
      Move settings turn
        (.on (({ turn with wire }.countBytes count).enter (.sending (out.advance count))))
  /-- The write was interrupted. -/
  | writeAgain {out : Outgoing} {wire : Wire} (hphase : turn.conn.phase = .sending out)
      (hleft : out.remaining ≠ 0)
      (hwrite : turn.wire.write out.buffers = (.error .interrupted, wire)) :
      Move settings turn (.on { turn with wire })
  /-- There is no room. -/
  | writeBlocked {out : Outgoing} {wire : Wire} (hphase : turn.conn.phase = .sending out)
      (hleft : out.remaining ≠ 0)
      (hwrite : turn.wire.write out.buffers = (.error .wouldBlock, wire)) :
      Move settings turn (.rest .output { turn with wire })
  /-- Nothing more will be taken. -/
  | writeEnded {out : Outgoing} {outcome : Except Fault Nat} {wire : Wire}
      (hphase : turn.conn.phase = .sending out) (hleft : out.remaining ≠ 0)
      (hwrite : turn.wire.write out.buffers = (outcome, wire))
      (houtcome : outcome = .ok 0 ∨ ∃ cause, outcome = .error cause ∧ cause.Final) :
      Move settings turn (.rest .close ({ turn with wire }.enter .closed))
  /-- The next line is read. -/
  | kept (hphase : turn.conn.phase = .finishing true) :
      Move settings turn (.on (turn.serve.cork settings false).restart)
  /-- The connection is not kept. -/
  | dropped (hphase : turn.conn.phase = .finishing false) :
      Move settings turn (.rest .close ((turn.serve.cork settings false).enter .closed))
  /-- Nothing happens any more. -/
  | closed (hphase : turn.conn.phase = .closed) : Move settings turn (.rest .close turn)

/-- What a step that reads can come to. -/
theorem move_read (hphase : turn.conn.phase = .reading) :
    Move settings turn (turn.read settings) := by
  unfold Turn.read
  rcases hscan : turn.conn.scanner.advance turn.conn.ring with ⟨scan, scanner, ring⟩
  rcases scan with _ | _ | _
  · simp only [begin]
    rcases hkey : Key.resolve settings.root scanner.text with cause | key
    · exact .refused hphase hscan hkey
    · exact .named hphase hscan hkey
  · rcases hread : turn.wire.read ring.writable with ⟨outcome, wire⟩
    simp only [hread]
    split
    · exact .readEnded hphase hscan hread (Or.inl rfl)
    · rename_i bytes hbytes
      exact .arrived hphase hscan hread (by simpa using hbytes)
    · exact .readBlocked hphase hscan hread
    · exact .readAgain hphase hscan hread
    · rename_i cause hwould hinterrupted
      refine .readEnded hphase hscan hread (Or.inr ⟨cause, rfl, ?_, ?_⟩)
      · rintro rfl
        exact hwould rfl
      · rintro rfl
        exact hinterrupted rfl
  · exact .overlong hphase hscan

/-- What a step that looks for a content can come to. -/
theorem move_resolve {key : String} {ticket : Option Ticket}
    (hphase : turn.conn.phase = .resolving key ticket) :
    Move settings turn (turn.resolve settings key ticket) := by
  rcases hlookup : turn.hub.lookup key with ⟨_ | content, hub⟩
  · simp only [Turn.resolve, hlookup]
    exact .missed hphase hlookup
  · simp only [Turn.resolve, hlookup]
    exact .found hphase hlookup

/-- What a step that has found no content can come to. -/
theorem move_miss {key : String} {ticket : Option Ticket}
    (hphase : turn.conn.phase = .missed key ticket) :
    Move settings turn (turn.miss key ticket) := by
  rcases ticket with _ | ticket
  · exact .lapsed hphase (by simp)
  · simp only [Turn.miss]
    split
    · rename_i hcomplete
      exact .lapsed hphase (by simpa using hcomplete)
    · rename_i hopen
      exact .waits hphase (by simpa using hopen)

/-- What a step that writes can come to. -/
theorem move_write {out : Outgoing} (hphase : turn.conn.phase = .sending out) :
    Move settings turn (turn.write out) := by
  unfold Turn.write
  split
  · rename_i hnone
    exact .written hphase hnone
  · rename_i hleft
    rcases hwrite : turn.wire.write out.buffers with ⟨outcome, wire⟩
    simp only
    split
    · exact .writeEnded hphase hleft hwrite (Or.inl rfl)
    · rename_i count hcount
      refine .wrote hphase hleft hwrite ?_
      rintro rfl
      exact hcount rfl
    · exact .writeBlocked hphase hleft hwrite
    · exact .writeAgain hphase hleft hwrite
    · rename_i cause hwould hinterrupted
      refine .writeEnded hphase hleft hwrite (Or.inr ⟨cause, rfl, ?_, ?_⟩)
      · rintro rfl
        exact hwould rfl
      · rintro rfl
        exact hinterrupted rfl

/-- What a step that finishes a response can come to. -/
theorem move_finish {keepAlive : Bool} (hphase : turn.conn.phase = .finishing keepAlive) :
    Move settings turn (turn.finish settings keepAlive) := by
  rcases keepAlive with _ | _
  · exact .dropped hphase
  · exact .kept hphase

/-- **What a step comes to** is one of these. -/
theorem move_step (settings : Settings) (turn : Turn) :
    Move settings turn (turn.step settings) := by
  rcases hphase : turn.conn.phase with _ | ⟨key, ticket⟩ | ⟨key, ticket⟩ | key | out | keepAlive | _
  all_goals simp only [step, hphase]
  · exact move_read hphase
  · exact move_resolve hphase
  · exact move_miss hphase
  · exact .asked hphase
  · exact move_write hphase
  · exact move_finish hphase
  · exact .closed hphase

end Turn

end FileServer
