import FileServer.Proofs.Connection.Contract
import FileServer.Proofs.Intake.Scanner
import FileServer.Proofs.Wire

/-!
# Where the cursors stand

The cursors of a read ring run freely, and nothing in the ring itself keeps them small. What does is
that they are tied to the line: all the bytes taken out since the last reset are bytes of the line
that is read, and once it has ended, one more (`Connection.Placed`). A line is no longer than its
limit, so `head` is never above 8193, and since more is read only when all is scanned, `tail` is
never above 9216. The same tie shows that a read always has room to read into, so that reading no
bytes always means that the stream has ended.

`Drives.inBounds` is about every state of every drive of a connection, and about every call in it.
-/

namespace FileServer

/-- What the ring holds lies between its cursors. -/
theorem Ring.head_add_length (ring : Ring) : ring.head + ring.length = ring.tail := by
  have hle := ring.head_le_tail
  rw [length]
  omega

/-- Taking out moves the reading cursor only. -/
theorem Ring.tail_of_pop? {ring rest : Ring} {b : UInt8} (h : ring.pop? = some (b, rest)) :
    rest.tail = ring.tail := by
  unfold pop? at h
  split at h
  · cases h
  · obtain ⟨-, rfl⟩ := Prod.mk.inj (Option.some.inj h)
    rfl

/-- So does scanning. -/
theorem Scanner.tail_scan (scanner : Scanner) (ring : Ring) (count : Nat) :
    (scanner.scan ring count).2.2.tail = ring.tail := by
  induction count generalizing scanner ring with
  | zero => rfl
  | succ count ih =>
    unfold scan
    split
    · rfl
    · rename_i b rest hpop
      have htail := Ring.tail_of_pop? hpop
      split
      · exact htail
      · split
        · exact htail
        · rw [ih, htail]

/-- A scan reads nothing in. -/
theorem Scanner.tail_advance (scanner : Scanner) (ring : Ring) :
    (scanner.advance ring).2.2.tail = ring.tail := by
  unfold advance
  split
  · rfl
  · exact scanner.tail_scan ring ring.length

/-- Of a response that is being written, no more is written than there is. -/
theorem Outgoing.written_add_remaining {out : Outgoing} (h : out.written ≤ out.total) :
    out.written + out.remaining = out.total := by
  rw [out.remaining_eq]
  omega

/-- A write takes no more than what is left. -/
theorem Outgoing.written_advance_le {out : Outgoing} {wire next : Wire} {count : Nat}
    (h : out.written ≤ out.total) (hwrite : wire.write out.buffers = (.ok count, next)) :
    (out.advance count).written ≤ out.total := by
  have htaken := (Wire.output_write hwrite).2
  rw [out.joined_buffers, List.length_drop, List.length_append] at htaken
  change out.written + count ≤ out.total
  rw [total] at h ⊢
  omega

/-- A phase behind a line, in which no more of the response is written than there is. -/
def Phase.Handles : Phase → Prop
  | .reading => False
  | .sending out => out.written ≤ out.total
  | _ => True

/-- Who handles a line does not read one. -/
theorem Phase.Handles.ne_reading {phase : Phase} (h : phase.Handles) : phase ≠ .reading := by
  rintro rfl
  exact h

/-- Nobody has written more than there is to send. -/
theorem Phase.Handles.written {phase : Phase} (h : phase.Handles) :
    ∀ out, phase = .sending out → out.written ≤ out.total := by
  rintro out rfl
  exact h

namespace Connection

variable {conn next : Connection} {scan : Scan} {scanner : Scanner} {ring : Ring}

/-- The cursors of a connection are where its line has put them. -/
structure Placed (conn : Connection) : Prop where
  /-- The line is no longer than it may be. -/
  line : conn.scanner.bytes.length ≤ Scanner.limit
  /-- All that was taken out for a line that is read belongs to it. -/
  reading : conn.phase = .reading →
    conn.scanner.done = false ∧ conn.ring.head = conn.scanner.bytes.length
  /-- What ends a line is taken out and does not belong to it. -/
  handling : conn.phase ≠ .reading → conn.phase ≠ .closed →
    conn.ring.head = conn.scanner.bytes.length + 1
  /-- At the end of a connection either may be the case. -/
  head : conn.ring.head ≤ conn.scanner.bytes.length + 1
  /-- More is put in only when all was taken out. -/
  tail : conn.ring.tail ≤ Scanner.limit + 1024
  /-- No more is written than there is. -/
  written : ∀ out, conn.phase = .sending out → out.written ≤ out.total

/-- A connection that was never driven is well placed. -/
theorem placed_fresh : fresh.Placed := by
  constructor <;> simp [fresh, Scanner.empty, Scanner.bytes, Ring.empty, Scanner.limit]

/-- What scanning does to the cursors: the line lies in front of `head`, with one byte behind it if
it has ended. -/
theorem Placed.advance (h : conn.Placed) (hphase : conn.phase = .reading)
    (hscan : conn.scanner.advance conn.ring = (scan, scanner, ring)) :
    scanner.bytes.length ≤ Scanner.limit ∧ ring.tail = conn.ring.tail ∧
      ring.head = scanner.bytes.length + (if scan = .incomplete then 0 else 1) := by
  obtain ⟨hdone, hhead⟩ := h.reading hphase
  have hsame := conn.scanner.tail_advance conn.ring
  have hscanned := @Scanner.scanned_advance conn.scanner conn.ring hdone h.line
  rw [hscan] at hsame hscanned
  have htail : ring.tail = conn.ring.tail := hsame
  refine ⟨?_, htail, ?_⟩
  · rcases hscanned with ⟨_, _, hlength⟩ | ⟨_, _, hlength⟩ | ⟨_, _, hlength⟩
    · simpa [Scanner.bytes, Scanner.push] using hlength
    · simpa using hlength
    · simpa using Nat.le_of_eq hlength
  · -- As many bytes are gone from the ring as have come to the line, and perhaps one more.
    have hbefore := conn.ring.head_add_length
    have hafter := ring.head_add_length
    rcases hscanned with ⟨hring, _, _⟩ | ⟨hring, _, _⟩ | ⟨hring, _, _⟩
    all_goals
      have hlength := congrArg List.length hring
      simp [Scanner.bytes, Scanner.push] at hlength hhead ⊢
      omega

/-- Where a line goes on, `head` stays behind it, whatever is put into the ring. -/
theorem Placed.read {filled : Ring} (h : conn.Placed) (hphase : conn.phase = .reading)
    (hscan : conn.scanner.advance conn.ring = (.incomplete, scanner, ring))
    (hfilled : filled.head = ring.head) : { conn with scanner, ring := filled }.Placed := by
  obtain ⟨hline, -, hhead⟩ := h.advance hphase hscan
  have hdone := @Turn.done_advance conn.scanner conn.ring
  rw [hscan] at hdone
  have hplace : filled.head = scanner.bytes.length := hfilled.trans hhead
  refine ⟨hline, fun _ => ⟨hdone Scan.noConfusion, hplace⟩, fun hnot => absurd hphase hnot,
    Nat.le_succ_of_le (Nat.le_of_eq hplace), ?_, ?_⟩
  · have hfits := filled.tail_le
    change filled.tail ≤ Scanner.limit + 1024
    omega
  · intro out hsending
    cases hphase.symm.trans hsending

/-- Where a line has ended, or is too long, `head` is one byte further. -/
theorem Placed.ended (h : conn.Placed) (hphase : conn.phase = .reading)
    (hscan : conn.scanner.advance conn.ring = (scan, scanner, ring)) (hends : scan ≠ .incomplete)
    (hscanner : next.scanner = scanner) (hring : next.ring = ring) (hnext : next.phase.Handles) :
    next.Placed := by
  obtain ⟨hline, htail, hhead⟩ := h.advance hphase hscan
  rw [if_neg hends] at hhead
  subst hscanner hring
  exact ⟨hline, fun hreading => absurd hreading hnext.ne_reading, fun _ _ => hhead,
    Nat.le_of_eq hhead, htail ▸ h.tail, hnext.written⟩

/-- While a line is handled, the cursors stay. -/
theorem Placed.later (h : conn.Placed) (hphase : conn.phase ≠ .reading)
    (hopen : conn.phase ≠ .closed) (hscanner : next.scanner = conn.scanner)
    (hring : next.ring = conn.ring) (hnext : next.phase.Handles) : next.Placed := by
  have hhead := h.handling hphase hopen
  rw [← hscanner, ← hring] at hhead
  exact ⟨hscanner ▸ h.line, fun hreading => absurd hreading hnext.ne_reading, fun _ _ => hhead,
    Nat.le_of_eq hhead, hring ▸ h.tail, hnext.written⟩

/-- A connection that is closed keeps its cursors. -/
theorem Placed.close (h : conn.Placed) : { conn with phase := .closed }.Placed :=
  ⟨h.line, Phase.noConfusion, fun _ hopen => absurd rfl hopen, h.head, h.tail,
    fun _ => Phase.noConfusion⟩

/-- For the next line both cursors begin again, around what is left in the ring. -/
theorem placed_restart (conn : Connection) :
    { conn with scanner := .empty, ring := conn.ring.compact, phase := .reading }.Placed := by
  have hlength := conn.ring.length_le
  refine ⟨Nat.zero_le _, fun _ => ⟨rfl, rfl⟩, fun hnot => absurd rfl hnot, Nat.zero_le _, ?_,
    fun _ => Phase.noConfusion⟩
  exact Nat.le_trans hlength (Nat.le_add_left _ _)

end Connection

namespace Turn

variable {settings : Settings} {turn : Turn}

/-- **What every step keeps**: the cursors are in place. -/
theorem placed_step (settings : Settings) (turn : Turn) (h : turn.conn.Placed) :
    (turn.step settings).turn.conn.Placed := by
  have hmove := move_step settings turn
  generalize turn.step settings = progress at hmove
  cases hmove with
  | named hphase hscan => exact h.ended hphase hscan Scan.noConfusion rfl rfl trivial
  | refused hphase hscan | overlong hphase hscan =>
    simp only [Progress.turn, conn_send]
    exact h.ended hphase hscan Scan.noConfusion rfl rfl (Nat.zero_le _)
  | arrived hphase hscan | readAgain hphase hscan | readBlocked hphase hscan =>
    exact h.read hphase hscan rfl
  | readEnded hphase hscan => exact (h.read hphase hscan rfl).close
  | found hphase =>
    simp only [Progress.turn, conn_send]
    exact h.later (by simp [hphase]) (by simp [hphase]) rfl rfl (Nat.zero_le _)
  | missed hphase | lapsed hphase | waits hphase | asked hphase | written hphase =>
    exact h.later (by simp [hphase]) (by simp [hphase]) rfl rfl trivial
  | wrote hphase hleft hwrite =>
    exact h.later (by simp [hphase]) (by simp [hphase]) rfl rfl
      (Outgoing.written_advance_le (h.written _ hphase) hwrite)
  | writeAgain | writeBlocked | closed => exact h
  | writeEnded => exact h.close
  | kept hphase =>
    simp only [Progress.turn, restart, conn_cork]
    exact Connection.placed_restart _
  | dropped hphase =>
    simp only [Progress.turn, enter, conn_cork]
    exact h.later (by simp [hphase]) (by simp [hphase]) rfl rfl trivial

end Turn

/-! ### What can be relied on -/

/-- The bounds that hold of a connection however often it was driven. -/
structure Connection.Bounded (conn : Connection) : Prop where
  /-- Only what was put in is taken out. -/
  ordered : conn.ring.head ≤ conn.ring.tail
  /-- What is unread fits the buffer. -/
  fits : conn.ring.tail ≤ conn.ring.head + 1024
  /-- While a line is read, all that was taken out belongs to it. -/
  reading : conn.phase = .reading → conn.ring.head = conn.scanner.bytes.length
  /-- While it is handled, one byte more was taken out. -/
  handling : conn.phase ≠ .reading → conn.phase ≠ .closed →
    conn.ring.head = conn.scanner.bytes.length + 1
  /-- The reading cursor is bounded. -/
  head : conn.ring.head ≤ 8193
  /-- The writing cursor is bounded. -/
  tail : conn.ring.tail ≤ 9216
  /-- No more of a response is written than there is. -/
  written : ∀ out, conn.phase = .sending out → out.written ≤ out.head.length + out.body.length

/-- Whoever is well placed is within the bounds. -/
theorem Connection.Placed.bounded {conn : Connection} (h : conn.Placed) : conn.Bounded := by
  have hline : conn.scanner.bytes.length ≤ 8192 := h.line
  have htail : conn.ring.tail ≤ 8192 + 1024 := h.tail
  exact {
    ordered := conn.ring.head_le_tail
    fits := conn.ring.tail_le
    reading := fun hphase => (h.reading hphase).2
    handling := h.handling
    head := Nat.le_trans h.head (Nat.succ_le_succ hline)
    tail := htail
    written := h.written }

/-- **Every connection that can come about** is well placed. -/
theorem Connection.placed_of_leads {conn : Connection} (h : fresh.Leads conn) : conn.Placed :=
  h.invariant Turn.placed_step placed_fresh

namespace Turn

variable {settings : Settings} {turn last : Turn} {course : List Turn} {need : Need} {call : Call}

/-- What holds where a call is made. -/
inductive InOrder (turn : Turn) : Call → Prop where
  /-- A read is made when all is scanned, into a region of the buffer that is not empty: if it gives
  nothing, nothing more comes. -/
  | read {scanner : Scanner} {ring : Ring} {offered : Nat} {outcome : Except Fault Nat}
      (hphase : turn.conn.phase = .reading)
      (hscan : turn.conn.scanner.advance turn.conn.ring = (.incomplete, scanner, ring))
      (hbounded : (turn.scanned scanner ring).conn.Bounded) (hempty : ring.isEmpty = true)
      (hpos : 1 ≤ offered) (hle : offered ≤ 1024) (hregion : ring.tail % 1024 + offered ≤ 1024)
      (hend : outcome = .ok 0 → turn.wire.Exhausted) : InOrder turn (.read offered outcome)
  /-- A write offers exactly what is left: of the header block and the whole body, or of the body
  alone. -/
  | write {out : Outgoing} {offered : List Nat} {outcome : Except Fault Nat}
      (hphase : turn.conn.phase = .sending out) (hbounded : turn.conn.Bounded)
      (hslices : out.written < out.head.length ∧
          offered = [out.head.length - out.written, out.body.length] ∨
        out.head.length ≤ out.written ∧ out.written - out.head.length ≤ out.body.length ∧
          offered = [out.body.length - (out.written - out.head.length)])
      (htotal : out.written + out.remaining = out.head.length + out.body.length)
      (hpos : 0 < out.remaining) : InOrder turn (.write offered outcome)
  /-- A wire is corked or uncorked whatever the cursors are. -/
  | cork (on : Bool) : InOrder turn (.cork on)

/-- An empty ring can be read into. -/
theorem writable_of_toList {ring : Ring} (h : ring.toList = []) :
    1 ≤ ring.writable ∧ ring.writable ≤ 1024 ∧ ring.tail % 1024 + ring.writable ≤ 1024 := by
  have hlength := Ring.length_of_toList h
  have hplace := Nat.mod_lt ring.tail (show 0 < 1024 by decide)
  rw [Ring.writable, hlength]
  simp only [Ring.capacity]
  omega

/-- The pieces that a write offers. -/
theorem sizes_buffers (out : Outgoing) (h : out.written ≤ out.total) :
    out.written < out.head.length ∧
        out.buffers.map Buffer.size = [out.head.length - out.written, out.body.length] ∨
      out.head.length ≤ out.written ∧ out.written - out.head.length ≤ out.body.length ∧
        out.buffers.map Buffer.size = [out.body.length - (out.written - out.head.length)] := by
  have hhead := out.size_headLeft
  have hbody := out.size_bodyLeft
  rw [Outgoing.total] at h
  unfold Outgoing.buffers Buffer.isEmpty
  by_cases hinside : out.written < out.head.length
  · refine Or.inl ⟨hinside, ?_⟩
    rw [if_neg (by simp; omega), List.map_cons, List.map_singleton, hhead, hbody]
    simp
    omega
  · refine Or.inr ⟨Nat.le_of_not_lt hinside, by omega, ?_⟩
    rw [if_pos (by simp; omega), List.map_singleton, hbody]

/-- The call that a step makes is in order if the connection is well placed. -/
theorem inOrder_of_makes (h : turn.conn.Placed) (hmakes : turn.Makes call) :
    turn.InOrder call := by
  rcases hmakes with ⟨hphase, hscan⟩ | ⟨hphase, hleft⟩ | on
  · rename_i scanner ring
    have hnone := @Scanner.toList_of_advance turn.conn.scanner turn.conn.ring
    rw [hscan] at hnone
    have hempty : ring.toList = [] := hnone rfl
    obtain ⟨hpos, hle, hregion⟩ := writable_of_toList hempty
    refine .read hphase hscan (h.read hphase hscan rfl).bounded (Ring.isEmpty_of_toList hempty)
      hpos hle hregion ?_
    intro houtcome
    rcases hread : turn.wire.read ring.writable with ⟨_ | bytes, wire⟩
    · rw [hread] at houtcome
      cases houtcome
    · rw [hread] at houtcome
      have hnil : bytes = [] := List.eq_nil_of_length_eq_zero (Except.ok.inj houtcome)
      exact Wire.exhausted_of_read (hnil ▸ hread) hpos
  · rename_i out
    have hwritten := h.written out hphase
    exact .write hphase h.bounded (sizes_buffers out hwritten)
      (Outgoing.written_add_remaining hwritten) (Nat.pos_of_ne_zero hleft)
  · exact .cork on

/-- **The cursors are bounded** in every state of every drive of a connection, however often it was
driven before, and every call in it is in order. -/
theorem Drives.inBounds (h : Drives settings turn course need last)
    (hreached : Connection.fresh.Leads turn.conn) :
    last.conn.Bounded ∧ turn.wire.callsSince last.wire = course.flatMap (calls settings) ∧
      ∀ each ∈ course, each.conn.Bounded ∧ ∀ call ∈ each.calls settings, each.InOrder call := by
  obtain ⟨hcourse, hlast⟩ :=
    h.invariant (placed_step settings) (Connection.placed_of_leads hreached)
  refine ⟨hlast.bounded, h.callsSince_eq, fun each heach => ⟨(hcourse each heach).bounded, ?_⟩⟩
  intro call hcall
  exact inOrder_of_makes (hcourse each heach) (makes_of_mem_calls hcall)

/-- Two requests that arrive together are within the bounds from the first step to the last. -/
theorem Drives.inBounds_pipelined : ∃ course last,
    Drives ⟨[], true, false⟩ pipelined course .input last ∧ course.length = 14 ∧
      Connection.fresh.Leads pipelined.conn ∧ last.conn.Bounded ∧
      ∀ each ∈ course, each.conn.Bounded ∧
        ∀ call ∈ each.calls ⟨[], true, false⟩, each.InOrder call := by
  obtain ⟨course, last, hdrive, hlength, -⟩ := drives_pipelined
  obtain ⟨hlast, -, hcourse⟩ := Drives.inBounds hdrive .refl
  exact ⟨course, last, hdrive, hlength, .refl, hlast, hcourse⟩

end Turn

end FileServer
