import FileServer.Connection.Basic

/-!
# Drives

A drive takes steps until one of them ends it. That this happens is a matter of three quantities,
compared in this order: the input that has not been used up, the distance to the end of the request,
and the output that has not been used up. Every step that goes on makes one of them smaller and
leaves those before it as they are (`step_decreases`).
-/

namespace FileServer

namespace Wire

/-- A read that gives bytes uses up unread ones. -/
theorem receive_ok {inbound rest : List Arrival} {ended : Bool} {offered : Nat} {bytes : Bytes}
    (h : receive inbound ended offered = (.ok bytes, rest)) (hne : bytes ≠ []) :
    2 * Arrival.total rest + rest.length + bytes.length
      < 2 * Arrival.total inbound + inbound.length := by
  unfold receive at h
  split at h
  · split at h <;> simp_all
  · simp at h
  · rename_i piece more
    split at h
    · simp only [Prod.mk.injEq, Except.ok.injEq] at h
      obtain ⟨rfl, rfl⟩ := h
      simp [Arrival.size]; omega
    · simp only [Prod.mk.injEq, Except.ok.injEq] at h
      obtain ⟨rfl, rfl⟩ := h
      have hpos : 0 < (piece.take offered).length := List.length_pos_iff.2 hne
      simp only [List.length_take] at hpos
      simp [Arrival.size]; omega

/-- A read that is interrupted uses up the interruption. -/
theorem receive_interrupted {inbound rest : List Arrival} {ended : Bool} {offered : Nat}
    (h : receive inbound ended offered = (.error .interrupted, rest)) :
    2 * Arrival.total rest + rest.length
      < 2 * Arrival.total inbound + inbound.length := by
  unfold receive at h
  split at h
  · split at h <;> simp_all
  · simp only [Prod.mk.injEq, Except.error.injEq] at h
    obtain ⟨-, rfl⟩ := h
    simp [Arrival.size]
  · split at h <;> simp at h

/-- Corking leaves the input. -/
@[simp] theorem inbound_cork (wire : Wire) (on : Bool) :
    (wire.cork on).2.inbound = wire.inbound := by
  unfold cork; split <;> rfl

/-- Writing leaves the input. -/
@[simp] theorem inbound_write (wire : Wire) (buffers : List Buffer) :
    (wire.write buffers).2.inbound = wire.inbound := by
  unfold write
  simp only
  split
  · rfl
  · rfl
  · split
    · rfl
    · split <;> rfl

/-- A write uses up at most one of the prepared answers. -/
theorem length_writes_write (wire : Wire) (buffers : List Buffer) :
    (wire.write buffers).2.writes.length ≤ wire.writes.length := by
  unfold write
  simp only
  split
  · rename_i h; simp [take, record, h]
  · rename_i h; simp [refuse, record, h]
  · split
    · simp [refuse, record]
    · split <;> simp [refuse, take, record]

/-- A write that is interrupted uses up the interruption. -/
theorem length_writes_of_interrupted {wire next : Wire} {buffers : List Buffer}
    (h : wire.write buffers = (.error .interrupted, next)) :
    next.writes.length < wire.writes.length := by
  unfold write at h
  simp only at h
  split at h
  · simp [take] at h
  · rename_i hwrites
    simp only [refuse, Prod.mk.injEq] at h
    obtain ⟨-, rfl⟩ := h
    simp [record, hwrites]
  · split at h
    · rename_i cause _
      simp only [refuse, Prod.mk.injEq, Except.error.injEq] at h
      exact absurd h.1 cause.property
    · split at h <;> simp [refuse, take] at h

end Wire

namespace Turn

/-- The order in which drives come nearer to their end. -/
def Nearer (next turn : Turn) : Prop :=
  next.unused < turn.unused ∨ next.unused = turn.unused ∧
    (next.conn.phase.rank < turn.conn.phase.rank ∨
      next.conn.phase.rank = turn.conn.phase.rank ∧ next.unsent < turn.unsent)

/-- Corking leaves the connection. -/
@[simp] theorem conn_cork (settings : Settings) (on : Bool) (turn : Turn) :
    (turn.cork settings on).conn = turn.conn := by
  unfold cork; split <;> rfl

/-- Corking leaves the input of a turn. -/
@[simp] theorem inbound_cork (settings : Settings) (on : Bool) (turn : Turn) :
    (turn.cork settings on).wire.inbound = turn.wire.inbound := by
  unfold cork; split <;> simp

/-- The unused input, apart from a line that has been read and not handled. -/
def bare (turn : Turn) : Nat :=
  2 * turn.wire.unread + turn.wire.inbound.length + turn.conn.ring.length

/-- Only while a connection reads a line can one be unhandled. -/
theorem unused_of_phase_ne {turn : Turn} (h : turn.conn.phase ≠ .reading) :
    turn.unused = turn.bare := by
  simp [unused, bare, h]

/-- Corking uses up no input. -/
theorem bare_cork (settings : Settings) (on : Bool) (turn : Turn) :
    (turn.cork settings on).bare = turn.bare := by
  simp [bare, Wire.unread]

/-- Once a response is sent the line is handled. -/
theorem unused_send (settings : Settings) (response : Http.Response) (turn : Turn) :
    (turn.send settings response).unused = turn.bare := by
  rw [unused_of_phase_ne (by simp [send, enter])]
  exact bare_cork settings true turn

/-- Once a request is begun its line is handled. -/
theorem unused_begin (settings : Settings) (turn : Turn) :
    (turn.begin settings).unused = turn.bare := by
  unfold begin
  split
  · rw [unused_of_phase_ne (by simp [enter])]; rfl
  · exact unused_send _ _ _

/-- What scanning leaves in the ring: less, if it ends a line that had not ended. -/
theorem length_advance (scanner : Scanner) (ring : Ring) :
    (scanner.advance ring).2.2.length
      + (if (scanner.advance ring).1 = .incomplete ∨ scanner.done then 0 else 1) ≤ ring.length := by
  unfold Scanner.advance
  split
  · simp [*]
  · rename_i h
    simpa [h] using scanner.length_scan ring ring.length

/-- A line that has ended is complete. -/
theorem done_eq_false_of_advance {scanner : Scanner} {ring : Ring}
    (h : (scanner.advance ring).1 ≠ .complete) : scanner.done = false := by
  unfold Scanner.advance at h
  split at h <;> simp_all

/-- Scanning that does not end a line leaves it unended. -/
theorem done_scan {scanner : Scanner} {ring : Ring} {count : Nat}
    (h : (scanner.scan ring count).1 ≠ .complete) :
    (scanner.scan ring count).2.1.done = scanner.done := by
  induction count generalizing scanner ring with
  | zero => rfl
  | succ count ih =>
    unfold Scanner.scan at h ⊢
    split
    · rfl
    · split
      · simp_all
      · split
        · rfl
        · exact ih (by simp_all)

/-- A scan that does not complete a line leaves it unended. -/
theorem done_advance {scanner : Scanner} {ring : Ring}
    (h : (scanner.advance ring).1 ≠ .complete) :
    (scanner.advance ring).2.1.done = false := by
  have hdone := done_eq_false_of_advance h
  unfold Scanner.advance at h ⊢
  rw [hdone] at h ⊢
  simpa [hdone] using done_scan h

/-- A step that reads and goes on uses up input. -/
theorem nearer_read {settings : Settings} {turn next : Turn} (hphase : turn.conn.phase = .reading)
    (h : turn.read settings = .on next) : next.Nearer turn := by
  refine Or.inl ?_
  have hlen := length_advance turn.conn.scanner turn.conn.ring
  have hdone := @done_advance turn.conn.scanner turn.conn.ring
  have hdone' := @done_eq_false_of_advance turn.conn.scanner turn.conn.ring
  unfold read at h
  generalize hadv : turn.conn.scanner.advance turn.conn.ring = adv at h hlen hdone hdone'
  obtain ⟨scan, scanner, ring⟩ := adv
  simp only at h hlen hdone hdone'
  cases scan with
  | complete =>
    simp only [Progress.on.injEq] at h
    subst h
    rw [unused_begin]
    simp only [bare, unused, hphase, true_and]
    -- Either the line had ended before, and is used up, or its end is taken off the ring.
    cases hended : turn.conn.scanner.done with
    | true =>
      have hkept : ring.length ≤ turn.conn.ring.length := by simpa [hended] using hlen
      rw [if_pos rfl]
      omega
    | false =>
      have hshort : ring.length + 1 ≤ turn.conn.ring.length := by simpa [hended] using hlen
      rw [if_neg Bool.false_ne_true]
      omega
  | tooLong =>
    simp only [Progress.on.injEq] at h
    subst h
    rw [unused_send]
    have hshort : ring.length + 1 ≤ turn.conn.ring.length := by
      simpa [hdone' (by simp)] using hlen
    simp only [bare, unused]
    split <;> omega
  | incomplete =>
    have hd := hdone (by simp)
    have hd' := hdone' (by simp)
    have hkept : ring.length ≤ turn.conn.ring.length := by simpa using hlen
    simp only [Wire.read] at h
    generalize hrec : Wire.receive turn.wire.inbound turn.wire.ended ring.writable = received at h
    obtain ⟨outcome, inbound⟩ := received
    simp only at h
    split at h
    · simp at h
    · rename_i bytes hne
      simp only [Progress.on.injEq] at h
      subst h
      have hless := Wire.receive_ok hrec (by simpa using hne)
      simp only [unused, hphase, hd, hd', Wire.unread, Wire.record, Ring.length_fill, true_and,
        Bool.false_eq_true, if_false]
      omega
    · simp at h
    · simp only [Progress.on.injEq] at h
      subst h
      have hless := Wire.receive_interrupted hrec
      simp only [unused, hphase, hd, hd', Wire.unread, Wire.record, true_and, Bool.false_eq_true,
        if_false]
      omega
    · simp at h

/-- A step that looks for a content and goes on comes to the next phase. -/
theorem nearer_resolve {settings : Settings} {turn next : Turn} {key : String}
    {ticket : Option Ticket} (hphase : turn.conn.phase = .resolving key ticket)
    (h : turn.resolve settings key ticket = .on next) : next.Nearer turn := by
  have hunused : turn.unused = turn.bare := unused_of_phase_ne (by simp [hphase])
  unfold resolve at h
  simp only at h
  split at h
  · simp only [Progress.on.injEq] at h
    subst h
    refine Or.inr ⟨by rw [unused_send, hunused]; rfl, Or.inl ?_⟩
    simp [hphase, send, enter, Phase.rank]
  · simp only [Progress.on.injEq] at h
    subst h
    refine Or.inr ⟨by rw [unused_of_phase_ne (by simp [enter]), hunused]; rfl, Or.inl ?_⟩
    simp [hphase, enter, Phase.rank]

/-- A step that finds no content and goes on comes to the next phase. -/
theorem nearer_miss {turn next : Turn} {key : String} {ticket : Option Ticket}
    (hphase : turn.conn.phase = .missed key ticket) (h : turn.miss key ticket = .on next) :
    next.Nearer turn := by
  have hunused : turn.unused = turn.bare := unused_of_phase_ne (by simp [hphase])
  have asking : (turn.enter (.asking key)).Nearer turn := by
    refine Or.inr ⟨by rw [unused_of_phase_ne (by simp [enter]), hunused]; rfl, Or.inl ?_⟩
    simp [hphase, enter, Phase.rank]
  unfold miss at h
  split at h
  · simp only [Progress.on.injEq] at h; exact h ▸ asking
  · split at h
    · simp only [Progress.on.injEq] at h; exact h ▸ asking
    · simp at h

/-- A step that writes and goes on uses up output, or ends the response. -/
theorem nearer_write {turn next : Turn} {out : Outgoing} (hphase : turn.conn.phase = .sending out)
    (h : turn.write out = .on next) : next.Nearer turn := by
  have hunused : turn.unused = turn.bare := unused_of_phase_ne (by simp [hphase])
  unfold write at h
  split at h
  · simp only [Progress.on.injEq] at h
    subst h
    refine Or.inr ⟨by rw [unused_of_phase_ne (by simp [enter]), hunused]; rfl, Or.inl ?_⟩
    simp [hphase, enter, Phase.rank]
  · rename_i hremaining
    have hinbound := Wire.inbound_write turn.wire out.buffers
    have hwrites := Wire.length_writes_write turn.wire out.buffers
    generalize hw : turn.wire.write out.buffers = written at h hinbound hwrites
    obtain ⟨outcome, wire⟩ := written
    simp only at h hinbound hwrites
    split at h
    · simp at h
    · rename_i count hcount
      simp only [Progress.on.injEq] at h
      subst h
      refine Or.inr ⟨?_, Or.inr ⟨by simp [hphase, enter, Phase.rank], ?_⟩⟩
      · rw [unused_of_phase_ne (by simp [enter]), hunused]
        simp [bare, enter, countBytes, Wire.unread, hinbound]
      · have hpos : count ≠ 0 := by rintro rfl; exact hcount rfl
        simp only [unsent, enter, countBytes, hphase, Outgoing.remaining_advance]
        omega
    · simp at h
    · simp only [Progress.on.injEq] at h
      subst h
      refine Or.inr ⟨?_, Or.inr ⟨by simp [hphase], ?_⟩⟩
      · rw [unused_of_phase_ne (by simp [hphase]), hunused]
        simp [bare, Wire.unread, hinbound]
      · have := Wire.length_writes_of_interrupted hw
        simp only [unsent, hphase]
        omega
    · simp at h

/-- A step that finishes a response and goes on comes to the next phase. -/
theorem nearer_finish {settings : Settings} {turn next : Turn} {keepAlive : Bool}
    (hphase : turn.conn.phase = .finishing keepAlive)
    (h : turn.finish settings keepAlive = .on next) : next.Nearer turn := by
  have hunused : turn.unused = turn.bare := unused_of_phase_ne (by simp [hphase])
  unfold finish at h
  split at h
  · simp only [Progress.on.injEq] at h
    subst h
    refine Or.inr ⟨?_, Or.inl (by simp [hphase, Phase.rank])⟩
    rw [hunused]
    have := bare_cork settings false { turn with
      conn.served := turn.conn.served + 1
      hub.counters.served := turn.hub.counters.served + 1 }
    simpa [unused, bare, Scanner.empty] using this
  · simp at h

/-- A step after which a drive goes on brings the drive nearer to its end. -/
theorem step_decreases {settings : Settings} {turn next : Turn}
    (h : turn.step settings = .on next) : next.Nearer turn := by
  unfold step at h
  split at h
  · rename_i hphase; exact nearer_read hphase h
  · rename_i hphase; exact nearer_resolve hphase h
  · rename_i hphase; exact nearer_miss hphase h
  · simp [ask] at h
  · rename_i hphase; exact nearer_write hphase h
  · rename_i hphase; exact nearer_finish hphase h
  · simp at h

/-- The three quantities, compared in their order. -/
theorem Nearer.lex {next turn : Turn} (h : next.Nearer turn) :
    Prod.Lex (· < ·) (Prod.Lex (· < ·) (· < ·))
      (next.unused, next.conn.phase.rank, next.unsent)
      (turn.unused, turn.conn.phase.rank, turn.unsent) := by
  rcases h with hlt | ⟨heq, hlt | ⟨heq', hlt⟩⟩
  · exact Prod.Lex.left _ _ hlt
  · rw [heq]; exact Prod.Lex.right _ (Prod.Lex.left _ _ hlt)
  · rw [heq, heq']; exact Prod.Lex.right _ (Prod.Lex.right _ hlt)

/-- Takes steps until the connection needs something. -/
def drive (settings : Settings) (turn : Turn) : Need × Turn :=
  match _h : turn.step settings with
  | .rest need turn => (need, turn)
  | .on next => next.drive settings
termination_by (turn.unused, turn.conn.phase.rank, turn.unsent)
decreasing_by exact (step_decreases _h).lex

/-- A drive whose first step ends it. -/
theorem drive_of_rest {settings : Settings} {turn next : Turn} {need : Need}
    (h : turn.step settings = .rest need next) : turn.drive settings = (need, next) := by
  rw [drive]; split <;> simp_all

/-- A drive whose first step does not end it. -/
theorem drive_of_on {settings : Settings} {turn next : Turn}
    (h : turn.step settings = .on next) : turn.drive settings = next.drive settings := by
  rw [drive]; split <;> simp_all

end Turn

end FileServer
