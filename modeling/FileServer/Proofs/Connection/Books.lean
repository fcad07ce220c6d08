import FileServer.Proofs.Connection.Contract
import FileServer.Proofs.Loads

/-!
# What a step enters in the books

A step of a drive counts a hit, a miss, the bytes that were taken, or a response that is out, and
each next to what it counts: a hit begins a response, a miss puts a load into the queue, bytes go to
the wire, and the connection counts its responses itself. `Booked` says how the counters and these
go together.

A response that is begun and not served yet is owed. It is begun for a hit or for a target that is
refused, and a connection that ends while it sends one owes it no longer: this response is lost.
-/

namespace FileServer

namespace Phase

/-- A response is being written. -/
def isSending : Phase → Bool
  | sending _ => true
  | _ => false

/-- A response is owed: it is begun, and not counted as served. -/
def owes : Phase → Bool
  | sending _ => true
  | finishing _ => true
  | _ => false

end Phase

namespace Turn

variable {settings : Settings} {turn next : Turn} {progress : Progress} {need : Need}
  {key : String} {ticket : Option Ticket}

/-- The status with which the next step refuses the target that was read, if it does. -/
def refusal? (settings : Settings) (turn : Turn) : Option Http.Status :=
  match turn.conn.phase with
  | .reading =>
    match turn.conn.scanner.advance turn.conn.ring with
    | (.complete, scanner, _) =>
      match Key.resolve settings.root scanner.text with
      | .ok _ => none
      | .error _ => some 400
    | (.tooLong, _, _) => some 414
    | (.incomplete, _, _) => none
  | _ => none

/-- A target that is refused is answered with the status. -/
theorem step_of_refusal {status : Http.Status} (h : turn.refusal? settings = some status) :
    ∃ read : Turn, turn.step settings = .on (read.send settings (.error status false)) := by
  unfold refusal? at h
  split at h
  · rename_i hphase
    rw [step, hphase]
    simp only [Turn.read]
    rcases hscan : turn.conn.scanner.advance turn.conn.ring with ⟨scan, scanner, ring⟩
    rw [hscan] at h
    cases scan with
    | complete =>
        rcases hkey : Key.resolve settings.root scanner.text with error | key
        · simp only [hkey] at h
          obtain rfl := Option.some.inj h
          simp only [begin, hkey]
          exact ⟨_, rfl⟩
        · simp only [hkey] at h
          cases h
    | tooLong =>
        obtain rfl := Option.some.inj h
        exact ⟨_, rfl⟩
    | incomplete => cases h
  · cases h

/-- A target is refused only while a line is read. -/
theorem refusal?_of_phase_ne (h : turn.conn.phase ≠ .reading) : turn.refusal? settings = none := by
  unfold refusal?
  split
  · rename_i hphase
    exact absurd hphase h
  · rfl

/-- The responses that are owed after a step. If the drive is over, it is the one that was being
written before: the connection is in the same phase, or it ends and the response is lost. -/
def owed (turn : Turn) : Progress → Nat
  | .on next => next.conn.phase.owes.toNat
  | .rest _ _ => turn.conn.phase.isSending.toNat

/-- How the counters go with what they count, over one step. -/
structure Booked (settings : Settings) (turn : Turn) (progress : Progress) : Prop where
  /-- The responses that the connection counts are counted. -/
  served : progress.turn.hub.counters.served + turn.conn.served
    = turn.hub.counters.served + progress.turn.conn.served
  /-- The bytes that go to the wire are counted. -/
  bytes : progress.turn.hub.counters.bytes + turn.wire.output.length
    = turn.hub.counters.bytes + progress.turn.wire.output.length
  /-- The loads that are asked for are counted as misses, and put behind the others. -/
  asked : ∃ loads, progress.turn.hub.queue.loads = turn.hub.queue.loads ++ loads ∧
    progress.turn.hub.counters.misses = turn.hub.counters.misses + loads.length
  /-- A response is begun for a hit or for a target that is refused, and ends served or lost. -/
  hits : progress.turn.hub.counters.hits + (turn.refusal? settings).toList.length
      + turn.hub.counters.served + turn.conn.phase.owes.toNat
    = turn.hub.counters.hits + progress.turn.hub.counters.served + turn.owed progress
  /-- Nothing else is counted. -/
  others : progress.turn.hub.counters.accepted = turn.hub.counters.accepted ∧
    progress.turn.hub.counters.closed = turn.hub.counters.closed ∧
    progress.turn.hub.counters.loads = turn.hub.counters.loads ∧
    progress.turn.hub.counters.failures = turn.hub.counters.failures

/-- A write that closes the connection: it has failed for good, or taken nothing. -/
inductive Fatal : Call → Prop where
  /-- It has failed. -/
  | failed {offered : List Nat} {cause : Fault} (hwould : cause ≠ .wouldBlock)
      (hinterrupted : cause ≠ .interrupted) : Fatal (.write offered (.error cause))
  /-- It has taken nothing. -/
  | nothing {offered : List Nat} : Fatal (.write offered (.ok 0))

end Turn

end FileServer
