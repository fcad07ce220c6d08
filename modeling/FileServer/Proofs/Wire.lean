import FileServer.Connection.Drive

/-!
# The bytes on a wire

`incoming` is what waits to be read on a wire, without regard to the pieces in which it has arrived,
and `output` what was written. A read takes a front part of the one and leaves the other alone
(`incoming_read`, `output_read`); a write puts a front part of what it was offered behind the other
(`output_write`); corking does neither.
-/

namespace FileServer

/-- The bytes that an arrival brings. -/
def Arrival.piece : Arrival → Bytes
  | .bytes piece => piece
  | .fault _ => []

namespace Wire

variable {wire next : Wire} {bytes : Bytes} {buffers : List Buffer} {offered : Nat}

/-- The bytes that wait to be read. -/
def incoming (wire : Wire) : Bytes := wire.inbound.flatMap Arrival.piece

/-! ## Reading -/

/-- What is received is the front of what waits. -/
theorem piece_receive {inbound rest : List Arrival} {ended : Bool}
    (h : receive inbound ended offered = (.ok bytes, rest)) :
    inbound.flatMap Arrival.piece = bytes ++ rest.flatMap Arrival.piece ∧
      bytes.length ≤ offered := by
  unfold receive at h
  split at h
  · cases ended <;> simp_all
  · cases h
  · rename_i piece more
    split at h
    · rename_i hdrop
      cases h
      exact ⟨rfl, List.drop_eq_nil_iff.1 hdrop⟩
    · cases h
      refine ⟨?_, List.length_take_le _ _⟩
      rw [List.flatMap_cons, List.flatMap_cons, Arrival.piece, Arrival.piece, ← List.append_assoc,
        List.take_append_drop]

/-- A read that fails takes no bytes. -/
theorem piece_receive_of_error {inbound rest : List Arrival} {ended : Bool} {cause : Fault}
    (h : receive inbound ended offered = (.error cause, rest)) :
    rest.flatMap Arrival.piece = inbound.flatMap Arrival.piece := by
  unfold receive at h
  split at h
  · cases ended <;> simp_all
  · cases h
    rfl
  · split at h <;> cases h

/-- Bytes that were read were the first of those that waited, and no more than was offered. -/
theorem incoming_read (h : wire.read offered = (.ok bytes, next)) :
    wire.incoming = bytes ++ next.incoming ∧ bytes.length ≤ offered := by
  unfold read at h
  rcases hreceive : receive wire.inbound wire.ended offered with ⟨outcome, rest⟩
  rw [hreceive] at h
  obtain ⟨rfl, rfl⟩ := Prod.mk.inj h
  exact piece_receive hreceive

/-- A read that fails takes nothing. -/
theorem incoming_read_of_error {cause : Fault} (h : wire.read offered = (.error cause, next)) :
    next.incoming = wire.incoming := by
  unfold read at h
  rcases hreceive : receive wire.inbound wire.ended offered with ⟨outcome, rest⟩
  rw [hreceive] at h
  obtain ⟨rfl, rfl⟩ := Prod.mk.inj h
  exact piece_receive_of_error hreceive

/-- A read leaves the output. -/
@[simp] theorem output_read (wire : Wire) (offered : Nat) :
    (wire.read offered).2.output = wire.output := rfl

/-! ## Writing -/

/-- What a write can take from is the front of what it was offered. -/
theorem joined_reachable (gathers : Bool) (buffers : List Buffer) :
    Buffer.joined (reachable gathers buffers) <+: Buffer.joined buffers := by
  unfold reachable
  cases gathers with
  | true => exact List.prefix_refl _
  | false =>
      rw [if_neg Bool.false_ne_true]
      induction buffers with
      | nil => exact List.prefix_refl _
      | cons buffer buffers ih =>
          rw [List.find?_cons]
          split
          · exact ⟨Buffer.joined buffers, by simp⟩
          · rename_i hempty
            have hnil : buffer.bytes = [] := by
              rw [← List.length_eq_zero_iff, ← buffer.size_eq]
              simpa [Buffer.isEmpty] using hempty
            rw [Buffer.joined_cons, hnil, List.nil_append]
            exact ih

/-- Taking something puts the first bytes that were offered behind what was written. -/
theorem output_take {gathers : Bool} {count taken : Nat}
    (h : wire.take buffers (reachable gathers buffers) count = (.ok taken, next)) :
    next.output = wire.output ++ (Buffer.joined buffers).take taken ∧
      taken ≤ (Buffer.joined buffers).length := by
  obtain ⟨behind, hbehind⟩ := joined_reachable gathers buffers
  have htotal := Buffer.total_eq_length (reachable gathers buffers)
  obtain ⟨hok, rfl⟩ := Prod.mk.inj h
  obtain rfl := Except.ok.inj hok
  constructor
  · simp only [record, output, List.reverse_append, List.reverse_reverse, List.flatten_append,
      Buffer.flatten_pieces]
    rw [← hbehind, List.take_append_of_le_length (by rw [← htotal]; exact Nat.min_le_right _ _)]
  · rw [← hbehind, List.length_append, ← htotal]
    omega

/-- **Writing** puts the first bytes that were offered behind what was written. -/
theorem output_write {taken : Nat} (h : wire.write buffers = (.ok taken, next)) :
    next.output = wire.output ++ (Buffer.joined buffers).take taken ∧
      taken ≤ (Buffer.joined buffers).length := by
  unfold write at h
  simp only at h
  split at h
  · have hnext := output_take h
    exact hnext
  · cases h
  · split at h
    · cases h
    · split at h
      · cases h
      · have hnext := output_take h
        exact hnext

/-- A write that fails leaves what was written. -/
theorem output_write_of_error {cause : Fault} (h : wire.write buffers = (.error cause, next)) :
    next.output = wire.output := by
  unfold write at h
  simp only at h
  split at h
  · cases h
  · cases h
    rfl
  · split at h
    · cases h
      rfl
    · split at h
      · cases h
        rfl
      · cases h

/-- A write leaves what is to be read. -/
@[simp] theorem incoming_write (wire : Wire) (buffers : List Buffer) :
    (wire.write buffers).2.incoming = wire.incoming := by
  rw [incoming, inbound_write, incoming]

/-! ## Corking -/

/-- Corking leaves what is to be read. -/
@[simp] theorem incoming_cork (wire : Wire) (on : Bool) :
    (wire.cork on).2.incoming = wire.incoming := by
  rw [incoming, inbound_cork, incoming]

/-- Corking leaves the output. -/
@[simp] theorem output_cork (wire : Wire) (on : Bool) : (wire.cork on).2.output = wire.output := by
  unfold cork
  split <;> rfl

/-! ## From outside -/

/-- The bytes that a change of a wire brings. -/
def Change.piece : Change → Bytes
  | .arrive arrival => arrival.piece
  | _ => []

/-- What arrives waits behind what waited. -/
theorem incoming_change (wire : Wire) (change : Change) :
    (wire.change change).incoming = wire.incoming ++ change.piece := by
  cases change with
  | arrive arrival => simp [Wire.change, arrive, incoming, Change.piece]
  | _ => exact (List.append_nil _).symm

/-- Nothing that happens to a wire from outside writes to it. -/
@[simp] theorem output_change (wire : Wire) (change : Change) :
    (wire.change change).output = wire.output := by
  cases change <;> rfl

/-! ## The record of calls -/

/-- The last call since an earlier state is the last of all, if there is one since. -/
theorem getLast?_callsSince (earlier later : Wire) :
    (earlier.callsSince later).getLast?
      = if earlier.log.length < later.log.length then later.log.head? else none := by
  rw [callsSince, List.getLast?_reverse]
  split
  · rename_i hlonger
    rw [List.head?_take, if_neg (by omega)]
  · rename_i hnot
    rw [Nat.sub_eq_zero_of_le (Nat.not_lt.1 hnot), List.take_zero, List.head?_nil]

/-- A call behind some others is the last. -/
theorem getLast?_callsSince_of_cons {earlier later : Wire} {call : Call} {log : List Call}
    (hlog : later.log = call :: log) (hearlier : earlier.log.length ≤ log.length) :
    (earlier.callsSince later).getLast? = some call := by
  rw [getLast?_callsSince, hlog, if_pos (by rw [List.length_cons]; omega), List.head?_cons]

/-- Seen from further back, the last call is the same. -/
theorem getLast?_callsSince_of_le {first earlier later : Wire} {call : Call}
    (h : (earlier.callsSince later).getLast? = some call)
    (hlength : first.log.length ≤ earlier.log.length) :
    (first.callsSince later).getLast? = some call := by
  rw [getLast?_callsSince] at h ⊢
  split at h
  · rwa [if_pos (by omega)]
  · cases h

/-- A read is recorded. -/
theorem log_read (wire : Wire) (offered : Nat) :
    (wire.read offered).2.log
      = .read offered ((wire.read offered).1.map List.length) :: wire.log := rfl

/-- A write is recorded with its outcome. -/
theorem log_write (wire : Wire) (buffers : List Buffer) :
    (wire.write buffers).2.log
      = .write (buffers.map Buffer.size) (wire.write buffers).1 :: wire.log := by
  unfold write
  simp only
  split
  · rfl
  · rfl
  · split
    · rfl
    · split <;> rfl

/-- Corking is recorded. -/
theorem log_cork (wire : Wire) (on : Bool) : (wire.cork on).2.log = .cork on :: wire.log := by
  unfold cork
  split <;> rfl

/-- Where nothing was recorded there were no calls. -/
theorem callsSince_of_eq {earlier later : Wire} (h : later.log = earlier.log) :
    earlier.callsSince later = [] := by
  rw [callsSince, h, Nat.sub_self]
  rfl

/-- One more record is one call. -/
theorem callsSince_of_cons {earlier later : Wire} {call : Call}
    (h : later.log = call :: earlier.log) : earlier.callsSince later = [call] := by
  rw [callsSince, h, List.length_cons, Nat.add_sub_cancel_left]
  rfl

/-- The record is what it was, with the calls since then in front. -/
theorem log_eq_of_suffix {earlier later : Wire} (h : earlier.log <:+ later.log) :
    later.log = (earlier.callsSince later).reverse ++ earlier.log := by
  obtain ⟨calls, hcalls⟩ := h
  rw [callsSince, List.reverse_reverse, ← hcalls, List.length_append, Nat.add_sub_cancel,
    List.take_left]

/-- The calls of two stretches are those of the first and then those of the second. -/
theorem callsSince_append {first second third : Wire} (hfirst : first.log <:+ second.log)
    (hsecond : second.log <:+ third.log) :
    first.callsSince third = first.callsSince second ++ second.callsSince third := by
  have hboth := log_eq_of_suffix (hfirst.trans hsecond)
  rw [log_eq_of_suffix hsecond, log_eq_of_suffix hfirst, ← List.append_assoc] at hboth
  have hreverse := congrArg List.reverse (List.append_cancel_right hboth)
  simpa using hreverse.symm

end Wire

end FileServer
