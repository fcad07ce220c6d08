import FileServer.Proofs.Connection.Contract
import FileServer.Proofs.Connection.Tickets

/-!
# Drives for nothing

A connection is driven more often than it has to be: on every completed load all that wait for the
disk are driven, whichever load it was, and a ready wire may turn out not to be. Such a drive takes
the phase apart, scans, looks up and puts the phase together again. `Lacks` says that what the last
drive needed is still not there, and `Unmoved` that a drive then finds out just that: it comes to
the same need and leaves the connection, the hub and the bytes written as they are. Since the
connection is the same again, so is every drive after it (`Futile.unmoved`).
-/

namespace FileServer

/-- Where a connection stands that needs something. -/
inductive Connection.Stuck (conn : Connection) : Need → Prop where
  /-- All that was read is scanned, and the line has not ended. -/
  | input (hphase : conn.phase = .reading) (hring : conn.ring.toList = [])
      (hdone : conn.scanner.done = false) : Stuck conn .input
  /-- Something is left to be written. -/
  | output {out : Outgoing} (hphase : conn.phase = .sending out) (hleft : 0 < out.remaining) :
      Stuck conn .output
  /-- A load was asked for. -/
  | disk {key : String} {ticket : Ticket} (hphase : conn.phase = .resolving key (some ticket)) :
      Stuck conn .disk

/-- Nothing is scanned in an empty ring. -/
theorem Scanner.advance_of_toList {scanner : Scanner} {ring : Ring} (hring : ring.toList = [])
    (hdone : scanner.done = false) : scanner.advance ring = (.incomplete, scanner, ring) := by
  have hlength := Ring.length_of_toList hring
  rw [advance, hdone, hlength]
  rfl

namespace Turn

variable {settings : Settings} {turn before after last : Turn} {course turns : List Turn}
  {need got : Need} {conn : Connection}

/-- What the connection needs is still not there. -/
inductive Lacks (turn : Turn) : Need → Prop where
  /-- A read would block. -/
  | input (hread : (turn.wire.read turn.conn.ring.writable).1 = .error .wouldBlock) :
      Lacks turn .input
  /-- A write of what is left would block. -/
  | output {out : Outgoing} (hphase : turn.conn.phase = .sending out)
      (hwrite : (turn.wire.write out.buffers).1 = .error .wouldBlock) : Lacks turn .output
  /-- The load is under way, and its content is not there. -/
  | disk {key : String} {ticket : Ticket}
      (hphase : turn.conn.phase = .resolving key (some ticket) ∨
        turn.conn.phase = .missed key (some ticket))
      (hopen : turn.hub.queue.isComplete ticket = false)
      (habsent : turn.hub.cache.contains key = false) : Lacks turn .disk

/-- A drive that moves nothing. -/
structure Unmoved (settings : Settings) (need : Need) (turn : Turn) : Prop where
  /-- It comes to the same need. -/
  needs : (turn.drive settings).1 = need
  /-- The connection is the same: cursors, line, phase and count of responses. -/
  conn : (turn.drive settings).2.conn = turn.conn
  /-- The hub is the same: cache with its order of use, queue, and counters. -/
  hub : (turn.drive settings).2.hub = turn.hub
  /-- No byte is written. -/
  output : (turn.drive settings).2.wire.output = turn.wire.output
  /-- While others go on, and what is needed does not come, it is the same, and every step leaves
  what is shared, and the bytes written, as they are. -/
  amid : ∀ course got last, Drives settings turn course got last →
    (∀ each ∈ course, each.Lacks need) → got = need ∧ last.conn = turn.conn ∧
      ∀ each ∈ course, (each.step settings).turn.hub = each.hub ∧
        (each.step settings).turn.wire.output = each.wire.output

/-- Some drives, one after the other. Between two of them anything may become of the wire and the
hub, but what is needed does not come. -/
inductive Futile (settings : Settings) (need : Need) : Connection → List Turn → Prop where
  /-- No drive. -/
  | nil {conn : Connection} : Futile settings need conn []
  /-- A drive before others. -/
  | cons {turn : Turn} {turns : List Turn} (hlacks : turn.Lacks need)
      (hrest : Futile settings need (turn.drive settings).2.conn turns) :
      Futile settings need turn.conn (turn :: turns)

/-- A connection that is blocked and stays open is stuck in its phase. -/
theorem stuck_of_blocked {earlier : Wire} (h : turn.Blocked earlier need) (hneed : need ≠ .close) :
    turn.conn.Stuck need := by
  rcases h with ⟨hphase, hring, hdone, -⟩ | ⟨hphase, hleft, -⟩ | ⟨hphase⟩ | _
  · exact .input hphase hring hdone
  · exact .output hphase hleft
  · exact .disk hphase
  · exact absurd rfl hneed

/-! ### One step -/

/-- A read that would block ends the drive. -/
theorem step_of_empty (settings : Settings) (hphase : turn.conn.phase = .reading)
    (hring : turn.conn.ring.toList = []) (hdone : turn.conn.scanner.done = false)
    (hread : (turn.wire.read turn.conn.ring.writable).1 = .error .wouldBlock) :
    turn.step settings
      = .rest .input { turn with wire := (turn.wire.read turn.conn.ring.writable).2 } := by
  have hscan := Scanner.advance_of_toList hring hdone
  rw [step, hphase]
  simp only [Turn.read, hscan, hread]

/-- A write that would block ends the drive. -/
theorem step_of_full (settings : Settings) {out : Outgoing}
    (hphase : turn.conn.phase = .sending out) (hleft : 0 < out.remaining)
    (hwrite : (turn.wire.write out.buffers).1 = .error .wouldBlock) :
    turn.step settings = .rest .output { turn with wire := (turn.wire.write out.buffers).2 } := by
  rw [step, hphase]
  simp only [Turn.write, hwrite, if_neg (Nat.ne_of_gt hleft)]

/-- A lookup that finds nothing goes on, and moves nothing but the phase. -/
theorem step_of_absent (settings : Settings) {key : String} {ticket : Option Ticket}
    (hphase : turn.conn.phase = .resolving key ticket)
    (habsent : turn.hub.cache.contains key = false) :
    turn.step settings = .on (turn.enter (.missed key ticket)) := by
  rw [step, hphase]
  simp only [Turn.resolve, Hub.lookup_of_absent habsent]

/-- Then a load that is under way ends the drive. -/
theorem step_of_open (settings : Settings) {key : String} {ticket : Ticket}
    (hphase : turn.conn.phase = .missed key (some ticket))
    (hopen : turn.hub.queue.isComplete ticket = false) :
    turn.step settings = .rest .disk (turn.enter (.resolving key (some ticket))) := by
  rw [step, hphase]
  simp only [Turn.miss, hopen, if_neg Bool.false_ne_true]

/-! ### Drives -/

/-- A drive that is over after one step moves nothing, if that step does not. -/
theorem unmoved_of_rest {wire : Wire} (hstep : turn.step settings = .rest need { turn with wire })
    (houtput : wire.output = turn.wire.output) : turn.Unmoved settings need := by
  have hdrive := drive_of_rest hstep
  refine ⟨by rw [hdrive], by rw [hdrive], by rw [hdrive], by rw [hdrive]; exact houtput, ?_⟩
  rintro course got last (hother | hother) -
  · obtain ⟨rfl, rfl⟩ := Progress.rest.inj (hother.symm.trans hstep)
    refine ⟨rfl, rfl, fun each heach => ?_⟩
    rw [List.mem_singleton.1 heach, hstep]
    exact ⟨rfl, houtput⟩
  · cases hother.symm.trans hstep

/-- Behind a lookup that found nothing, a load that is under way brings the connection back to where
it was. -/
theorem rest_of_lacks (settings : Settings) (next : Turn) {key : String} {ticket : Ticket}
    (hphase : turn.conn.phase = .resolving key (some ticket))
    (hnext : next.conn = (turn.enter (.missed key (some ticket))).conn)
    (hlacks : next.Lacks .disk) :
    next.step settings = .rest .disk (next.enter (.resolving key (some ticket))) ∧
      (next.enter (.resolving key (some ticket))).conn = turn.conn := by
  have hmissed : next.conn.phase = .missed key (some ticket) := by
    rw [hnext]
    rfl
  rcases hlacks with _ | _ | ⟨hwaits | hwaits, hopen, -⟩
  · cases hmissed.symm.trans hwaits
  · obtain ⟨rfl, hticket⟩ := Phase.missed.inj (hmissed.symm.trans hwaits)
    obtain rfl := Option.some.inj hticket
    refine ⟨step_of_open settings hmissed hopen, ?_⟩
    rw [enter, hnext, ← hphase]
    rfl

/-- A drive of a connection whose load is under way moves nothing. -/
theorem unmoved_of_open (settings : Settings) {key : String} {ticket : Ticket}
    (hphase : turn.conn.phase = .resolving key (some ticket))
    (hopen : turn.hub.queue.isComplete ticket = false)
    (habsent : turn.hub.cache.contains key = false) : turn.Unmoved settings .disk := by
  have hdrive : turn.drive settings = (.disk, turn) := drive_of_open hphase hopen habsent
  have hlooks := step_of_absent settings hphase habsent
  refine ⟨by rw [hdrive], by rw [hdrive], by rw [hdrive], by rw [hdrive], ?_⟩
  rintro course got last (hother | @⟨_, next, _, later, _, hub, wire, hother, -, hrest⟩) hlacks
  · cases hother.symm.trans hlooks
  · obtain rfl := Progress.on.inj (hother.symm.trans hlooks)
    have hfirst := hlacks _ (List.mem_cons_of_mem _ hrest.mem_course)
    obtain ⟨hstop, hconn⟩ := rest_of_lacks settings ⟨_, wire, hub⟩ hphase rfl hfirst
    rcases hrest with hrest | hrest
    · obtain ⟨rfl, rfl⟩ := Progress.rest.inj (hrest.symm.trans hstop)
      refine ⟨rfl, hconn, fun each heach => ?_⟩
      rcases List.mem_cons.1 heach with rfl | heach
      · rw [hlooks]
        exact ⟨rfl, rfl⟩
      · rw [List.mem_singleton.1 heach, hstop]
        exact ⟨rfl, rfl⟩
    · cases hrest.symm.trans hstop

/-! ### Drives one after the other -/

/-- **A drive for nothing** moves nothing. -/
theorem unmoved_of_lacks (settings : Settings) (hstuck : turn.conn.Stuck need)
    (hlacks : turn.Lacks need) : turn.Unmoved settings need := by
  rcases hstuck with ⟨hphase, hring, hdone⟩ | ⟨hphase, hleft⟩ | hphase
  · rcases hlacks with hread | _ | _
    exact unmoved_of_rest (step_of_empty settings hphase hring hdone hread) (Wire.output_read _ _)
  · rcases hlacks with _ | ⟨hsending, hwrite⟩ | _
    obtain rfl := Phase.sending.inj (hphase.symm.trans hsending)
    exact unmoved_of_rest (step_of_full settings hphase hleft hwrite)
      (Wire.output_write_of_error (Prod.ext hwrite rfl))
  · rcases hlacks with _ | _ | ⟨hwaits | hwaits, hopen, habsent⟩
    · exact unmoved_of_open settings hwaits hopen habsent
    · cases hphase.symm.trans hwaits

/-- **Any number of drives for nothing** move nothing. -/
theorem Futile.unmoved (h : Futile settings need conn turns) (hstuck : conn.Stuck need) :
    ∀ each ∈ turns, each.conn = conn ∧ each.Unmoved settings need := by
  induction h with
  | nil => exact fun _ heach => absurd heach List.not_mem_nil
  | @cons turn turns hlacks _ ih =>
    have hunmoved := unmoved_of_lacks settings hstuck hlacks
    rw [hunmoved.conn] at ih
    intro each heach
    rcases List.mem_cons.1 heach with rfl | hlater
    · exact ⟨rfl, hunmoved⟩
    · exact ih hstuck each hlater

/-- Since the connection stays the same, it is enough that none of them finds what is needed. -/
theorem futile_of_forall (hstuck : conn.Stuck need)
    (h : ∀ each ∈ turns, each.conn = conn ∧ each.Lacks need) : Futile settings need conn turns := by
  induction turns with
  | nil => exact .nil
  | cons turn turns ih =>
    obtain ⟨⟨rfl, hlacks⟩, hlater⟩ := List.forall_mem_cons.1 h
    refine .cons hlacks ?_
    rw [(unmoved_of_lacks settings hstuck hlacks).conn]
    exact ih hlater

/-- The turn after a load was asked for. -/
def requested (turn : Turn) (key : String) : Turn :=
  { turn with hub := (turn.hub.request key).2 }.enter
    (.resolving key (some turn.hub.queue.nextTicket))

/-- A ticket that was just issued is not complete. -/
theorem lacks_requested {key : String} (habsent : turn.hub.cache.contains key = false) :
    (turn.requested key).Lacks .disk := by
  refine .disk (Or.inl rfl) ?_ habsent
  change (turn.hub.queue.request key).isComplete turn.hub.queue.nextTicket = false
  rw [LoadQueue.isComplete_request]
  simp [LoadQueue.isComplete, LoadQueue.nextTicket]

/-- A drive that finds its load done and the content gone asks for it again. -/
theorem drive_of_lapsed (settings : Settings) {key : String} {ticket : Ticket}
    (hphase : turn.conn.phase = .resolving key (some ticket))
    (hcomplete : turn.hub.queue.isComplete ticket = true)
    (habsent : turn.hub.cache.contains key = false) :
    turn.drive settings = (.disk, turn.requested key) := by
  have hlooks := step_of_absent settings hphase habsent
  have hlapsed : (turn.enter (.missed key (some ticket))).step settings
      = .on (turn.enter (.asking key)) := by
    rw [step, enter]
    simp only [Turn.miss, hcomplete, if_true]
    rfl
  have hasks : (turn.enter (.asking key)).step settings = .rest .disk (turn.requested key) := rfl
  rw [drive_of_on hlooks, drive_of_on hlapsed, drive_of_rest hasks]

/-- **Drives for nothing are as if they had not been**: after a drive that has come to a need, any
number of drives that do not find what is needed come to the same need and move nothing; and a drive
that finds its load done and its content gone asks for it once, and those after it move nothing. -/
theorem unmoved_of_futile (settings : Settings) :
    (∀ before course need after, Drives settings before course need after → need ≠ .close →
      ∀ turns, Futile settings need after.conn turns →
        ∀ each ∈ turns, each.conn = after.conn ∧ each.Unmoved settings need) ∧
    ∀ (turn : Turn) key ticket, turn.conn.phase = .resolving key (some ticket) →
      turn.hub.queue.isComplete ticket = true → turn.hub.cache.contains key = false →
      turn.drive settings = (.disk, turn.requested key) ∧ (turn.requested key).Lacks .disk ∧
        ∀ turns, Futile settings .disk (turn.requested key).conn turns →
          ∀ each ∈ turns, each.conn = (turn.requested key).conn ∧ each.Unmoved settings .disk := by
  refine ⟨?_, ?_⟩
  · intro before course need after hdrive hneed turns hfutile
    exact hfutile.unmoved (stuck_of_blocked hdrive.blocked hneed)
  · intro turn key ticket hphase hcomplete habsent
    refine ⟨drive_of_lapsed settings hphase hcomplete habsent, lacks_requested habsent, ?_⟩
    intro turns hfutile
    exact hfutile.unmoved (.disk rfl)

/-- A line has arrived, and its content is not there. -/
def waiting : Turn where
  conn := .fresh
  wire := { Wire.fresh with inbound := [.bytes (Text.encode "/a\n")] }
  hub := .empty 100

/-- The first drive ends with a load under way, and another content does not help. -/
theorem drives_waiting : ∃ course after, Drives ⟨[], true, false⟩ waiting course .disk after ∧
    after.conn.phase = .resolving "a" (some ⟨0⟩) ∧ after.hub.queue.isComplete ⟨0⟩ = false ∧
      (after.hub.store "b" (.file [98])).cache.contains "a" = false := by
  have hdrive : (drive? ⟨[], true, false⟩ 5 waiting).map
      (fun run => (run.2.1, run.2.2.conn.phase, run.2.2.hub.queue.isComplete ⟨0⟩,
        (run.2.2.hub.store "b" (.file [98])).cache.contains "a"))
        = some (.disk, .resolving "a" (some ⟨0⟩), false, false) := by
    decide +kernel
  obtain ⟨⟨course, need, after⟩, hcourse, hfacts⟩ := Option.map_eq_some_iff.1 hdrive
  simp only [Prod.mk.injEq] at hfacts
  obtain ⟨rfl, hphase, hopen, habsent⟩ := hfacts
  exact ⟨course, after, drives_of_drive? hcourse, hphase, hopen, habsent⟩

/-- A load is done, and its content is gone again. -/
def evicted : Turn where
  conn := { Connection.fresh with phase := .resolving "a" (some ⟨0⟩) }
  wire := .fresh
  hub := ((Hub.empty 100).request "a").2.complete ⟨0⟩

/-- Two drives that come too early change nothing, and neither does any after a load has lapsed and
was asked for again. -/
theorem unmoved_of_futile_waiting :
    (∃ course after turns, Drives ⟨[], true, false⟩ waiting course .disk after ∧
      turns.length = 2 ∧ Futile ⟨[], true, false⟩ .disk after.conn turns ∧
        ∀ each ∈ turns, each.conn = after.conn ∧ each.Unmoved ⟨[], true, false⟩ .disk) ∧
    evicted.drive ⟨[], true, false⟩ = (.disk, evicted.requested "a") ∧
      ∀ turns, Futile ⟨[], true, false⟩ .disk (evicted.requested "a").conn turns →
        ∀ each ∈ turns, each.Unmoved ⟨[], true, false⟩ .disk := by
  obtain ⟨hfutile, hlapsed⟩ := unmoved_of_futile ⟨[], true, false⟩
  obtain ⟨course, after, hdrive, hphase, hopen, habsent⟩ := drives_waiting
  obtain ⟨hasks, -, hlater⟩ := hlapsed evicted "a" ⟨0⟩ rfl (by decide +kernel) (by decide +kernel)
  -- Another content comes in, and the connection is driven twice.
  have hturns : Futile ⟨[], true, false⟩ .disk after.conn
      (List.replicate 2 ⟨after.conn, .fresh, after.hub.store "b" (.file [98])⟩) := by
    refine futile_of_forall (.disk hphase) fun each heach => ?_
    rw [List.eq_of_mem_replicate heach]
    exact ⟨rfl, .disk (Or.inl hphase) hopen habsent⟩
  refine ⟨⟨course, after, _, hdrive, rfl, hturns, ?_⟩, hasks, ?_⟩
  · exact hfutile _ _ _ _ hdrive (by decide) _ hturns
  · exact fun turns hturns each heach => (hlater turns hturns each heach).2

end Turn

end FileServer
