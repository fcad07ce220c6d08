import FileServer.Proofs.Connection.Moves
import FileServer.Proofs.Connection.Serving

/-!
# How steps end, and what they ask for

When a step ends a drive, what the connection needs fits the phase it is in (`Need.Fits`,
`fits_step`), and it waits for the disk only with a ticket that is not complete (`incomplete_step`).

On the shared side a step is one of two things (`Asks`): it leaves the queue as it is, and the
connection waits for no load that it did not wait for before; or it puts one load into the queue,
under a ticket issued for it.
-/

namespace FileServer

/-- The load that a connection has asked for and waits for. -/
def Phase.load? : Phase → Option (String × Ticket)
  | .resolving key (some ticket) => some (key, ticket)
  | .missed key (some ticket) => some (key, ticket)
  | _ => none

/-- A connection in this phase can need this. -/
def Need.Fits : Need → Phase → Prop
  | .input, phase => phase = .reading
  | .output, phase => ∃ out, phase = .sending out
  | .disk, phase => ∃ key ticket, phase = .resolving key (some ticket)
  | .close, _ => True

namespace Turn

variable {settings : Settings} {turn next : Turn} {need : Need}

/-- **What a connection needs** at the end of a drive fits its phase. -/
theorem fits_step (h : turn.step settings = .rest need next) : need.Fits next.conn.phase := by
  have hmove := move_step settings turn
  rw [h] at hmove
  cases hmove with
  | readBlocked hphase => exact hphase
  | waits | asked => exact ⟨_, _, rfl⟩
  | @writeBlocked out wire hphase => exact ⟨out, hphase⟩
  | readEnded | writeEnded | dropped | closed => trivial

/-- A connection that is to be closed does nothing any more. -/
theorem closed_of_rest (h : turn.step settings = .rest .close next) :
    next.conn.phase = .closed := by
  have hmove := move_step settings turn
  rw [h] at hmove
  cases hmove with
  | readEnded | writeEnded | dropped => rfl
  | closed hphase => exact hphase

/-- What a step makes of the queue and of the load that the connection waits for. -/
inductive Asks (turn next : Turn) : Prop where
  /-- The connection waits for no load. -/
  | idle (hqueue : next.hub.queue = turn.hub.queue) (hload : next.conn.phase.load? = none)
  /-- The connection waits on, and rests only if the load is under way. -/
  | waiting (key : String) (ticket : Ticket) (hqueue : next.hub.queue = turn.hub.queue)
      (hbefore : turn.conn.phase.load? = some (key, ticket))
      (hload : next.conn.phase.load? = some (key, ticket))
      (hopen : next.conn.phase = .resolving key (some ticket) →
        turn.hub.queue.isComplete ticket = false)
  /-- A load is asked for. -/
  | asked (key : String) (hqueue : next.hub.queue = turn.hub.queue.request key)
      (hphase : next.conn.phase = .resolving key (some turn.hub.queue.nextTicket))

/-- A step puts at most one load into the queue. -/
theorem Asks.queue (h : turn.Asks next) :
    next.hub.queue = turn.hub.queue ∨ ∃ key, next.hub.queue = turn.hub.queue.request key := by
  cases h with
  | idle hqueue => exact Or.inl hqueue
  | waiting _ _ hqueue => exact Or.inl hqueue
  | asked key hqueue => exact Or.inr ⟨key, hqueue⟩

/-- **What a step asks for.** -/
theorem asks_step (settings : Settings) (turn : Turn) : turn.Asks (turn.step settings).turn := by
  have hmove := move_step settings turn
  generalize turn.step settings = progress at hmove
  cases hmove with
  | named | readEnded | lapsed | written | wrote | writeEnded => exact .idle rfl rfl
  | refused | overlong => exact .idle (congrArg Hub.queue (hub_cork settings _ _)) rfl
  | kept | dropped =>
    have hqueue := congrArg Hub.queue (hub_cork settings false turn.serve)
    exact .idle hqueue rfl
  | arrived hphase | readAgain hphase | readBlocked hphase | writeAgain hphase
  | writeBlocked hphase | closed hphase => exact .idle rfl (congrArg Phase.load? hphase)
  | @found key ticket content hub hphase hlookup =>
    have hqueue : hub.queue = turn.hub.queue := congrArg (fun found => found.2.queue) hlookup.symm
    exact .idle ((congrArg Hub.queue (hub_cork settings _ _)).trans hqueue) rfl
  | @missed key ticket hub hphase hlookup =>
    have hqueue : hub.queue = turn.hub.queue := congrArg (fun found => found.2.queue) hlookup.symm
    rcases ticket with _ | ticket
    · exact .idle hqueue rfl
    · exact .waiting key ticket hqueue (congrArg Phase.load? hphase) rfl fun hnext => by cases hnext
  | @waits key ticket hphase hopen =>
    exact .waiting key ticket rfl (congrArg Phase.load? hphase) rfl fun _ => hopen
  | @asked key => exact .asked key rfl rfl

/-- A step leaves the gauge of parked connections. -/
theorem waiting_step (settings : Settings) (turn : Turn) :
    (turn.step settings).turn.hub.counters.waiting = turn.hub.counters.waiting := by
  unfold step
  split
  · rw [hub_read]
  · rw [hub_resolve, Hub.lookup]
    simp only
    split <;> rfl
  · rw [hub_miss]
  · rfl
  · exact (alike_write turn _).waiting
  · exact (alike_finish settings _ turn).waiting
  · rfl

end Turn

end FileServer
