import FileServer.Proofs.Connection.Moves
import FileServer.Proofs.Connection.Serving
import FileServer.Proofs.Wire

/-!
# The calls of a step

A step makes at most one call on the wire (`Turn.calls`), and `Makes` says which: a read into the
free part of the ring once all that was read is scanned, a write of what is left of the response, or
a request to cork or uncork.
-/

namespace FileServer

namespace Wire

/-- Nothing more comes on a wire: the stream has ended behind all that was read, or what waits reads
as its end. -/
def Exhausted (wire : Wire) : Prop :=
  wire.inbound = [] ∧ wire.ended = true ∨ ∃ rest, wire.inbound = .bytes [] :: rest

/-- A read into a buffer that is not empty gives no bytes only at the end of the stream. -/
theorem exhausted_of_read {wire next : Wire} {offered : Nat}
    (h : wire.read offered = (.ok [], next)) (hoffered : 0 < offered) : wire.Exhausted := by
  have hreceive : (receive wire.inbound wire.ended offered).1 = .ok [] := congrArg Prod.fst h
  unfold receive at hreceive
  split at hreceive
  · rename_i hinbound
    refine Or.inl ⟨hinbound, ?_⟩
    simpa using hreceive
  · cases hreceive
  · rename_i piece rest hinbound
    refine Or.inr ⟨rest, ?_⟩
    split at hreceive
    · rw [hinbound, Except.ok.inj hreceive]
    · rename_i hdrop
      have hnil : piece = [] := by
        simpa [Nat.pos_iff_ne_zero.1 hoffered] using Except.ok.inj hreceive
      simp [hnil] at hdrop

end Wire

namespace Turn

variable {settings : Settings} {turn : Turn} {call : Call}

/-- The calls that the next step makes. -/
def calls (settings : Settings) (turn : Turn) : List Call :=
  turn.wire.callsSince (turn.step settings).turn.wire

/-- The calls that a step can make. -/
inductive Makes (turn : Turn) : Call → Prop where
  /-- A read, when all that was read is scanned. -/
  | read {scanner : Scanner} {ring : Ring} (hphase : turn.conn.phase = .reading)
      (hscan : turn.conn.scanner.advance turn.conn.ring = (.incomplete, scanner, ring)) :
      Makes turn (.read ring.writable ((turn.wire.read ring.writable).1.map List.length))
  /-- A write of what is left of a response. -/
  | write {out : Outgoing} (hphase : turn.conn.phase = .sending out) (hleft : out.remaining ≠ 0) :
      Makes turn (.write (out.buffers.map Buffer.size) (turn.wire.write out.buffers).1)
  /-- A request to cork or uncork. -/
  | cork (on : Bool) : Makes turn (.cork on)

/-- A wire on which at most one call was made in a step. -/
def Logs (turn : Turn) (wire : Wire) : Prop :=
  wire.log = turn.wire.log ∨ ∃ call, turn.Makes call ∧ wire.log = call :: turn.wire.log

/-- Corking is all that is done where a response begins or ends. -/
theorem logs_cork (settings : Settings) (on : Bool) (corked : Turn)
    (hwire : corked.wire = turn.wire) : turn.Logs (corked.cork settings on).wire := by
  unfold Turn.cork
  split
  · refine Or.inr ⟨.cork on, .cork on, ?_⟩
    rw [← hwire]
    exact Wire.log_cork corked.wire on
  · exact Or.inl (congrArg Wire.log hwire)

/-- A read is recorded, and nothing else is. -/
theorem logs_read {scanner : Scanner} {ring : Ring} {outcome : Except Fault Bytes} {wire : Wire}
    (hphase : turn.conn.phase = .reading)
    (hscan : turn.conn.scanner.advance turn.conn.ring = (.incomplete, scanner, ring))
    (hread : turn.wire.read ring.writable = (outcome, wire)) : turn.Logs wire := by
  refine Or.inr ⟨_, .read hphase hscan, ?_⟩
  rw [← turn.wire.log_read, hread]

/-- A write is recorded, and nothing else is. -/
theorem logs_write {out : Outgoing} {outcome : Except Fault Nat} {wire : Wire}
    (hphase : turn.conn.phase = .sending out) (hleft : out.remaining ≠ 0)
    (hwrite : turn.wire.write out.buffers = (outcome, wire)) : turn.Logs wire := by
  refine Or.inr ⟨_, .write hphase hleft, ?_⟩
  rw [← turn.wire.log_write, hwrite]

/-- **What a step records** is one of these calls, or nothing. -/
theorem logs_step (settings : Settings) (turn : Turn) :
    turn.Logs (turn.step settings).turn.wire := by
  have hmove := move_step settings turn
  generalize turn.step settings = progress at hmove
  cases hmove with
  | refused | overlong | found => exact logs_cork settings true _ rfl
  | kept | dropped => exact logs_cork settings false turn.serve rfl
  | arrived hphase hscan hread | readAgain hphase hscan hread | readBlocked hphase hscan hread
  | readEnded hphase hscan hread => exact logs_read hphase hscan hread
  | wrote hphase hleft hwrite | writeAgain hphase hleft hwrite | writeBlocked hphase hleft hwrite
  | writeEnded hphase hleft hwrite => exact logs_write hphase hleft hwrite
  | named | missed | lapsed | waits | asked | written | closed => exact Or.inl rfl

/-- What was recorded stays. -/
theorem suffix_step (settings : Settings) (turn : Turn) :
    turn.wire.log <:+ (turn.step settings).turn.wire.log := by
  rcases logs_step settings turn with hsame | ⟨call, -, hlog⟩
  · exact ⟨[], hsame.symm⟩
  · exact ⟨[call], hlog.symm⟩

/-- **A call that a step makes** is one of these. -/
theorem makes_of_mem_calls (h : call ∈ turn.calls settings) : turn.Makes call := by
  unfold calls at h
  rcases logs_step settings turn with hsame | ⟨made, hmade, hlog⟩
  · rw [Wire.callsSince_of_eq hsame] at h
    cases h
  · rw [Wire.callsSince_of_cons hlog] at h
    rwa [List.mem_singleton.1 h]

end Turn

end FileServer
