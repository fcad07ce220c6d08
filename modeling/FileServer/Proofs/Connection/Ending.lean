import Mathlib.Algebra.BigOperators.Intervals
import Mathlib.Data.Prod.Lex
import FileServer.Proofs.Connection.Books
import FileServer.Proofs.Connection.Bounds

/-!
# The end of a drive

A drive goes from phase to phase, and from the end of one request back to the beginning of the next,
so nothing that a single phase counts down ends it. What does is spent in this order: what the other
side still supplies (bytes that are read, and interruptions), what has been read and is not scanned,
the phases up to the end of the request, and what is left of the response (`spends_step`). `Unfolds`
leaves open what others do to the wire and the hub between two steps; as long as they supply only so
much, the drive comes to an end (`exists_drives`).

How much a drive does is bounded by what it is given: it begins one response for each line feed that
it scans, apart from one that it owes already and one that refuses a line (`Work`).
-/

namespace FileServer

/-- The number of bytes that a call has read. -/
def Call.gain : Call → Nat
  | .read _ (.ok count) => count
  | _ => 0

/-- Whether a call was interrupted. -/
def Call.interrupted : Call → Bool
  | .read _ (.error .interrupted) => true
  | .write _ (.error .interrupted) => true
  | _ => false

namespace Connection

/-- What is read and not handled. A line that has ended counts as one byte. -/
def held (conn : Connection) : Nat :=
  conn.ring.length + (if conn.phase = .reading ∧ conn.scanner.done then 1 else 0)

/-- What a connection still has to do with what it has read: first to scan it, then to come to the
end of the request, and there to write the response. -/
def toDo (conn : Connection) : ℕ ×ₗ ℕ ×ₗ ℕ :=
  toLex (conn.held, toLex (conn.phase.rank, conn.pendingWrite.getD 0))

/-- A connection that begins no more responses: the last one is on its way, or it is closed. -/
def Leaving (conn : Connection) : Prop :=
  (∃ out, conn.phase = .sending out ∧ out.keepAlive = false) ∨ conn.phase = .finishing false ∨
    conn.phase = .closed

end Connection

namespace Turn

variable {settings : Settings} {turn next last : Turn} {course : List Turn} {need : Need}

/-! ### Drives end -/

/-- The number of bytes that a step reads. -/
def gain (settings : Settings) (turn : Turn) : Nat := ((turn.calls settings).map Call.gain).sum

/-- The number of calls of a step that are interrupted. -/
def interruptions (settings : Settings) (turn : Turn) : Nat :=
  (turn.calls settings).countP Call.interrupted

/-- A step that makes a single call. -/
theorem calls_of_log {call : Call} (hstep : turn.step settings = .on next)
    (hlog : next.wire.log = call :: turn.wire.log) : turn.calls settings = [call] := by
  rw [calls, hstep]
  exact Wire.callsSince_of_cons hlog

/-- A step that is given nothing, and is not in the middle of a response, leaves less to do. -/
theorem toDo_lt_of_nearer (h : next.Nearer turn)
    (hinbound : next.wire.inbound = turn.wire.inbound) (hpending : turn.conn.pendingWrite = none) :
    next.conn.toDo < turn.conn.toDo := by
  have hunsent : turn.unsent = 0 := by
    unfold unsent
    unfold Connection.pendingWrite at hpending
    split at hpending <;> simp_all
  have hunused : ∀ each : Turn, each.unused
      = 2 * each.wire.unread + each.wire.inbound.length + each.conn.held := by
    intro each
    rw [unused, Connection.held]
    omega
  have hwire : next.wire.unread = turn.wire.unread := by rw [Wire.unread, hinbound, Wire.unread]
  rw [Nearer, hunused, hunused, hwire, hinbound, hunsent] at h
  rw [Connection.toDo, Connection.toDo, Prod.Lex.toLex_lt_toLex, Prod.Lex.toLex_lt_toLex]
  omega

/-- **What a step spends**: it is given bytes, or is interrupted, or leaves less to do. -/
theorem spends_step (h : turn.step settings = .on next) :
    0 < turn.gain settings ∨ 0 < turn.interruptions settings ∨
      next.conn.toDo < turn.conn.toDo := by
  have hnearer := step_decreases h
  have hcalls := @calls_of_log settings turn next
  have hmove := move_step settings turn
  rw [h] at hmove hcalls
  cases hmove with
  | @arrived scanner ring bytes wire hphase hscan hread hbytes =>
    refine Or.inl ?_
    have hlog := turn.wire.log_read ring.writable
    rw [hread] at hlog
    rw [gain, hcalls rfl hlog]
    simpa [Call.gain, Except.map] using List.length_pos_iff.2 hbytes
  | @readAgain scanner ring wire hphase hscan hread =>
    refine Or.inr (Or.inl ?_)
    have hlog := turn.wire.log_read ring.writable
    rw [hread] at hlog
    rw [interruptions, hcalls rfl hlog]
    exact Nat.zero_lt_one
  | @writeAgain out wire hphase hleft hwrite =>
    refine Or.inr (Or.inl ?_)
    have hlog := turn.wire.log_write out.buffers
    rw [hwrite] at hlog
    rw [interruptions, hcalls rfl hlog]
    exact Nat.zero_lt_one
  | @wrote out count wire hphase hleft hwrite hcount =>
    refine Or.inr (Or.inr ?_)
    have hless := out.remaining_advance count
    simp [Connection.toDo, Connection.held, Connection.pendingWrite, Prod.Lex.toLex_lt_toLex,
      enter, countBytes, hphase, Phase.rank]
    omega
  | written hphase hnone =>
    refine Or.inr (Or.inr ?_)
    simp [Connection.toDo, Connection.held, Prod.Lex.toLex_lt_toLex, enter, hphase, Phase.rank]
  | named hphase | lapsed hphase =>
    have hpending : turn.conn.pendingWrite = none := by rw [Connection.pendingWrite, hphase]
    exact Or.inr (Or.inr (toDo_lt_of_nearer hnearer rfl hpending))
  | refused hphase | overlong hphase | found hphase | missed hphase | kept hphase =>
    have hpending : turn.conn.pendingWrite = none := by rw [Connection.pendingWrite, hphase]
    refine Or.inr (Or.inr (toDo_lt_of_nearer hnearer ?_ hpending))
    simp [send, enter, restart, scanned, serve]

/-- The states of a drive, one step after the other. Between two steps anything may become of what
is shared, and of the wire but for its calls. -/
def Unfolds (settings : Settings) (turns : ℕ → Turn) : Prop :=
  ∀ n next, (turns n).step settings = .on next →
    (turns (n + 1)).conn = next.conn ∧ (turns (n + 1)).wire.log = next.wire.log

/-- As long as the drive goes on, it reads only so many bytes, and only so many of its calls are
interrupted. -/
def Supplied (settings : Settings) (turns : ℕ → Turn) (bytes times : ℕ) : Prop :=
  ∀ n, (∀ m < n, ∃ next, (turns m).step settings = .on next) →
    ∑ m ∈ Finset.range n, (turns m).gain settings ≤ bytes ∧
      ∑ m ∈ Finset.range n, (turns m).interruptions settings ≤ times

/-- What is supplied in the first steps, bytes and interruptions together. -/
def spent (settings : Settings) (turns : ℕ → Turn) (n : ℕ) : ℕ :=
  ∑ m ∈ Finset.range n, ((turns m).gain settings + (turns m).interruptions settings)

variable {turns : ℕ → Turn} {bytes times : ℕ}

/-- What was spent up to a step, and what the step spends. -/
theorem spent_succ (settings : Settings) (turns : ℕ → Turn) (n : ℕ) :
    spent settings turns (n + 1)
      = spent settings turns n + ((turns n).gain settings + (turns n).interruptions settings) :=
  Finset.sum_range_succ _ n

/-- **No more is spent than was supplied**, as long as the drive goes on. -/
theorem Supplied.spent_le {n : ℕ} (h : Supplied settings turns bytes times)
    (hon : ∀ m < n, ∃ next, (turns m).step settings = .on next) :
    spent settings turns n ≤ bytes + times := by
  rw [spent, Finset.sum_add_distrib]
  exact Nat.add_le_add (h n hon).1 (h n hon).2

/-- What is supplied comes to its end, and then there is less to do with every step. -/
theorem exists_rest (hunfolds : Unfolds settings turns)
    (hsupplied : Supplied settings turns bytes times) :
    ∃ n need last, (turns n).step settings = .rest need last ∧
      ∀ m < n, ∃ next, (turns m).step settings = .on next := by
  by_contra hnone
  have hon : ∀ n, ∃ next, (turns n).step settings = .on next := by
    intro n
    induction n using Nat.strong_induction_on with
    | _ n ih =>
      rcases hstep : (turns n).step settings with next | ⟨need, last⟩
      · exact ⟨next, rfl⟩
      · exact absurd ⟨n, need, last, hstep, ih⟩ hnone
  obtain ⟨n, hn⟩ := WellFounded.not_rel_apply_succ (r := (· < ·)) fun n =>
    toLex (bytes + times - spent settings turns n, (turns n).conn.toDo)
  obtain ⟨next, hnext⟩ := hon n
  have hspent := spent_succ settings turns n
  have hmost := hsupplied.spent_le fun m (_ : m < n + 1) => hon m
  refine hn (Prod.Lex.toLex_lt_toLex.2 ?_)
  rw [(hunfolds n next hnext).1]
  by_cases hsame : spent settings turns (n + 1) = spent settings turns n
  · refine Or.inr ⟨by rw [hsame], ?_⟩
    rcases spends_step hnext with hgain | hagain | hless
    · omega
    · omega
    · exact hless
  · exact Or.inl (by omega)

/-- A stretch of steps that ends is a drive. -/
theorem drives_of_unfolds (hunfolds : Unfolds settings turns) {first count : ℕ}
    (hon : ∀ m < count, ∃ next, (turns (first + m)).step settings = .on next)
    (hrest : (turns (first + count)).step settings = .rest need last) :
    Drives settings (turns first) ((List.range' first (count + 1)).map turns) need last := by
  induction count generalizing first with
  | zero => exact .rest hrest
  | succ count ih =>
    obtain ⟨next, hnext⟩ := hon 0 (Nat.succ_pos count)
    obtain ⟨hconn, hlog⟩ := hunfolds first next hnext
    have hlater : Drives settings (turns (first + 1))
        ((List.range' (first + 1) (count + 1)).map turns) need last := by
      refine ih (fun m hm => ?_) ?_
      · rw [Nat.add_right_comm]
        exact hon (m + 1) (Nat.succ_lt_succ hm)
      · rw [Nat.add_right_comm]
        exact hrest
    have hturn : turns (first + 1)
        = ⟨next.conn, (turns (first + 1)).wire, (turns (first + 1)).hub⟩ := by rw [← hconn]
    rw [hturn] at hlater
    rw [List.range'_succ, List.map_cons]
    exact .on hnext hlog hlater

/-- **A drive ends** if no more than a number of bytes is supplied. -/
theorem exists_drives (hunfolds : Unfolds settings turns)
    (hsupplied : Supplied settings turns bytes times) :
    ∃ n need last, Drives settings (turns 0) ((List.range (n + 1)).map turns) need last := by
  obtain ⟨n, need, last, hrest, hon⟩ := exists_rest hunfolds hsupplied
  refine ⟨n, need, last, ?_⟩
  rw [List.range_eq_range']
  exact drives_of_unfolds hunfolds (fun m hm => by rw [Nat.zero_add]; exact hon m hm)
    (by rw [Nat.zero_add]; exact hrest)

/-! ### Drives do no more than they are given -/

/-- Whether a step begins to send a response. -/
def starts (settings : Settings) (turn : Turn) : Bool :=
  !turn.conn.phase.isSending && (turn.step settings).turn.conn.phase.isSending

/-- The bytes that a step takes out of the ring. -/
def consumed (turn : Turn) : Bytes :=
  match turn.conn.phase with
  | .reading =>
    turn.conn.ring.toList.take
      (turn.conn.ring.length - (turn.conn.scanner.advance turn.conn.ring).2.2.length)
  | _ => []

/-- The number of line feeds among them. -/
def lineFeeds (turn : Turn) : Nat := turn.consumed.count Scanner.lineFeed

/-- Whether a step refuses a line because it is too long. -/
def overlong (settings : Settings) (turn : Turn) : Bool :=
  decide (turn.refusal? settings = some 414)

/-- The number of responses that are due: one, if a content is looked for. -/
def due (turn : Turn) : Nat := if turn.conn.phase.wanted?.isSome then 1 else 0

/-- What scanning takes out of the ring was in front of what is left. -/
theorem consumed_append (h : turn.conn.Placed) (hphase : turn.conn.phase = .reading) :
    turn.consumed ++ (turn.conn.scanner.advance turn.conn.ring).2.2.toList
      = turn.conn.ring.toList := by
  obtain ⟨taken, htaken⟩ := (@Scanner.scanned_advance _ turn.conn.ring
    (h.reading hphase).1 h.line).suffix
  have hlength := congrArg List.length htaken
  rw [List.length_append, Ring.length_toList, Ring.length_toList] at hlength
  simp only [consumed, hphase]
  rw [← hlength, Nat.add_sub_cancel, ← htaken, List.take_left]

/-- A line that has ended took its line feed out of the ring. -/
theorem lineFeeds_of_complete {scanner : Scanner} {ring : Ring} (h : turn.conn.Placed)
    (hphase : turn.conn.phase = .reading)
    (hscan : turn.conn.scanner.advance turn.conn.ring = (.complete, scanner, ring)) :
    turn.lineFeeds = 1 := by
  have hscanned := @Scanner.scanned_advance turn.conn.scanner turn.conn.ring
    (h.reading hphase).1 h.line
  have hconsumed := consumed_append h hphase
  rw [hscan] at hscanned hconsumed
  rcases hscanned with @⟨line, _, hring, hline, -⟩
  rw [hring, ← List.singleton_append, ← List.append_assoc] at hconsumed
  rw [lineFeeds, List.append_cancel_right hconsumed, List.count_append,
    List.count_eq_zero_of_not_mem hline]
  rfl

/-- **What a step owes**: a response begins for a line feed, for a line that is too long, or because
its content was looked for. -/
theorem starts_step (settings : Settings) (turn : Turn) (h : turn.conn.Placed) :
    (if turn.starts settings then 1 else 0) + (turn.step settings).turn.due
      ≤ turn.lineFeeds + turn.due + (if turn.overlong settings then 1 else 0) := by
  have hmove := move_step settings turn
  unfold starts
  generalize turn.step settings = progress at hmove
  cases hmove with
  | named hphase hscan =>
    have hfeed := lineFeeds_of_complete h hphase hscan
    simp [Progress.turn, due, enter, Phase.wanted?, Phase.isSending, hfeed, hphase]
  | refused hphase hscan =>
    have hfeed := lineFeeds_of_complete h hphase hscan
    simp [Progress.turn, due, Phase.wanted?, Phase.isSending, hfeed, hphase]
  | overlong hphase hscan =>
    have hover : turn.refusal? settings = some 414 := by simp only [refusal?, hphase, hscan]
    simp [Progress.turn, due, overlong, Phase.wanted?, Phase.isSending, hphase, hover]
  | found hphase | missed hphase | lapsed hphase | waits hphase | asked hphase =>
    simp [Progress.turn, due, enter, Phase.wanted?, Phase.isSending, hphase]
    omega
  | arrived hphase | readAgain hphase | readBlocked hphase | readEnded hphase | written hphase
  | wrote hphase | writeAgain hphase | writeBlocked hphase | writeEnded hphase | kept | dropped
  | closed hphase =>
    simp [Progress.turn, due, enter, scanned, countBytes, restart, serve, Phase.wanted?,
      Phase.isSending, *]

/-- A drive begins no more responses than it scans line feeds, apart from those that are due and
those that refuse a line for its length. -/
theorem Drives.starts_le (h : Drives settings turn course need last) (hplaced : turn.conn.Placed) :
    course.countP (starts settings)
      ≤ (course.map lineFeeds).sum + turn.due + course.countP (overlong settings) := by
  induction h with
  | @rest turn last need hstep =>
    have hstarts := starts_step settings turn hplaced
    simp only [List.countP_cons, List.countP_nil, List.map_cons, List.map_nil, List.sum_cons,
      List.sum_nil]
    omega
  | @on turn next last course need hub wire hstep _ _ ih =>
    have hstarts := starts_step settings turn hplaced
    have hkept := placed_step settings turn hplaced
    rw [hstep] at hstarts hkept
    have hlater := ih hkept
    simp only [List.countP_cons, List.map_cons, List.sum_cons]
    change _ ≤ (course.map lineFeeds).sum + next.due + _ at hlater
    simp only [Progress.turn] at hstarts
    omega

/-! ### The last response -/

/-- A refusal begins a response. -/
theorem starts_of_refusal {status : Http.Status} (h : turn.refusal? settings = some status) :
    turn.starts settings = true := by
  obtain ⟨read, hstep⟩ := step_of_refusal h
  have hphase : turn.conn.phase = .reading := by
    by_contra hother
    rw [refusal?_of_phase_ne hother] at h
    cases h
  simp [starts, hstep, Progress.turn, Phase.isSending, hphase]

/-- A connection that leaves stays so, and begins no response. -/
theorem leaving_step (settings : Settings) (turn : Turn) (h : turn.conn.Leaving) :
    (turn.step settings).turn.conn.Leaving ∧ turn.starts settings = false := by
  have hmove := move_step settings turn
  unfold starts
  generalize turn.step settings = progress at hmove
  cases hmove with
  | @written out hphase =>
    have hlast : out.keepAlive = false := by simpa [Connection.Leaving, hphase] using h
    exact ⟨Or.inr (Or.inl (congrArg Phase.finishing hlast)), by simp [Phase.isSending, hphase]⟩
  | @wrote out count wire hphase =>
    have hlast : out.keepAlive = false := by simpa [Connection.Leaving, hphase] using h
    exact ⟨Or.inl ⟨out.advance count, rfl, hlast⟩, by simp [Phase.isSending, hphase]⟩
  | writeAgain hphase | writeBlocked hphase | closed hphase =>
    exact ⟨h, by simp [Progress.turn, Phase.isSending, hphase]⟩
  | writeEnded | dropped =>
    exact ⟨Or.inr (Or.inr rfl), by simp [Progress.turn, enter, Phase.isSending]⟩
  | named hphase | refused hphase | overlong hphase | arrived hphase | readAgain hphase
  | readBlocked hphase | readEnded hphase | found hphase | missed hphase | lapsed hphase
  | waits hphase | asked hphase | kept hphase => simp [Connection.Leaving, hphase] at h

/-- In the course of a drive, nothing begins behind a refusal. -/
theorem Drives.final (h : Drives settings turn course need last) :
    course.Pairwise fun each later =>
      (each.refusal? settings).isSome = true → later.starts settings = false := by
  induction h with
  | rest => exact List.pairwise_singleton _ _
  | @on turn next last course need hub wire hstep _ hrest ih =>
    refine List.pairwise_cons.2 ⟨fun later hlater hrefusal => ?_, ih⟩
    obtain ⟨status, hstatus⟩ := Option.isSome_iff_exists.1 hrefusal
    obtain ⟨read, hrefuses⟩ := step_of_refusal hstatus
    obtain rfl := Progress.on.inj (hstep.symm.trans hrefuses)
    have hleaving : (read.send settings (.error status false)).conn.Leaving :=
      Or.inl ⟨_, rfl, rfl⟩
    obtain ⟨hcourse, -⟩ :=
      hrest.invariant (fun turn hturn => (leaving_step settings turn hturn).1) hleaving
    exact (leaving_step settings later (hcourse later hlater)).2

/-- So there is one at most. -/
theorem countP_refusal_le
    (h : course.Pairwise fun each later =>
      (each.refusal? settings).isSome = true → later.starts settings = false) :
    course.countP (fun each => (each.refusal? settings).isSome) ≤ 1 := by
  induction course with
  | nil => exact Nat.zero_le 1
  | cons turn course ih =>
    obtain ⟨hturn, hcourse⟩ := List.pairwise_cons.1 h
    rw [List.countP_cons]
    split
    · rename_i hrefusal
      have hnone : course.countP (fun each => (each.refusal? settings).isSome) = 0 := by
        refine List.countP_eq_zero.2 fun later hlater hagain => ?_
        obtain ⟨status, hstatus⟩ := Option.isSome_iff_exists.1 hagain
        have hstarts := starts_of_refusal hstatus
        rw [hturn later hlater hrefusal] at hstarts
        cases hstarts
      rw [hnone]
    · exact ih hcourse

/-! ### Writes -/

/-- What can come of a write: bytes are taken, or the write is made again, or the drive ends. -/
inductive Writes (settings : Settings) (turn : Turn) : Except Fault Nat → Prop where
  /-- At least one byte is taken. -/
  | taken {count : Nat} (hcount : 0 < count) : Writes settings turn (.ok count)
  /-- The write was interrupted, and nothing of the connection has changed. -/
  | again {next : Turn} (hstep : turn.step settings = .on next) (hconn : next.conn = turn.conn) :
      Writes settings turn (.error .interrupted)
  /-- The drive ends here. -/
  | ends {outcome : Except Fault Nat} {need : Need} {last : Turn}
      (hstep : turn.step settings = .rest need last) : Writes settings turn outcome

/-- A write among the calls of a step is its write. -/
theorem writes_of_mem_calls {offered : List Nat} {outcome : Except Fault Nat}
    (h : .write offered outcome ∈ turn.calls settings) : turn.Writes settings outcome := by
  have hmakes := makes_of_mem_calls h
  rcases hmakes with _ | ⟨hphase, hleft⟩ | _
  rename_i out
  have hmove := move_step settings turn
  rcases hstep : turn.step settings with next | ⟨need, last⟩
  · rw [hstep] at hmove
    cases hmove with
    | @wrote other count wire hother hmore hwrite hcount =>
      obtain rfl := Phase.sending.inj (hphase.symm.trans hother)
      rw [hwrite]
      exact .taken (Nat.pos_of_ne_zero hcount)
    | @writeAgain other wire hother hmore hwrite =>
      obtain rfl := Phase.sending.inj (hphase.symm.trans hother)
      rw [hwrite]
      exact .again hstep rfl
    | written hother hnone =>
      obtain rfl := Phase.sending.inj (hphase.symm.trans hother)
      exact absurd hnone hleft
    | named hother | refused hother | overlong hother | arrived hother | readAgain hother
    | found hother | missed hother | lapsed hother | kept hother =>
      cases hphase.symm.trans hother
  · exact .ends hstep

/-! ### What a drive does -/

/-- How much a drive does. -/
structure Work (settings : Settings) (turn : Turn) (course : List Turn) : Prop where
  /-- A response is begun for each line feed, apart from one that was due and one for a line that is
  too long. -/
  starts : course.countP (starts settings)
    ≤ (course.map lineFeeds).sum + turn.due + course.countP (overlong settings)
  /-- At most one line is refused, for its length or for anything else. -/
  refusals : course.countP (overlong settings)
    ≤ course.countP (fun each => (each.refusal? settings).isSome) ∧
      course.countP (fun each => (each.refusal? settings).isSome) ≤ 1
  /-- It is answered with an error, and the connection is not kept. -/
  refused : ∀ each ∈ course, ∀ status, each.refusal? settings = some status →
    ∃ read : Turn, each.step settings = .on (read.send settings (.error status false))
  /-- That is the last response. -/
  final : course.Pairwise fun each later =>
    (each.refusal? settings).isSome = true → later.starts settings = false
  /-- No write is in vain, unless it was interrupted or ends the drive. -/
  writes : ∀ each ∈ course, ∀ offered outcome, .write offered outcome ∈ each.calls settings →
    each.Writes settings outcome

/-- What a drive does is bounded by what was there at its beginning and what came in. -/
theorem Drives.work (h : Drives settings turn course need last) (hplaced : turn.conn.Placed) :
    Work settings turn course where
  starts := h.starts_le hplaced
  refusals := by
    refine ⟨List.countP_mono_left fun each _ hover => ?_, countP_refusal_le h.final⟩
    rw [of_decide_eq_true hover, Option.isSome_some]
  refused := fun _ _ _ hstatus => step_of_refusal hstatus
  final := h.final
  writes := fun _ _ _ _ hcall => writes_of_mem_calls hcall

/-- **Drives end, and do no more than they are given**: a drive of a connection comes to an end
whatever others do in between, if only so many bytes and interruptions are supplied, and begins no
more responses than it scans line feeds, apart from one that is due and one that is the last. -/
theorem ends_of_leads {conn : Connection} (hreached : Connection.fresh.Leads conn)
    (settings : Settings) :
    (∀ (turns : ℕ → Turn) (bytes times : ℕ), (turns 0).conn = conn → Unfolds settings turns →
      Supplied settings turns bytes times →
      ∃ n need last, Drives settings (turns 0) ((List.range (n + 1)).map turns) need last) ∧
    ∀ turn course need last, turn.conn = conn → Drives settings turn course need last →
      Work settings turn course ∧
        turn.wire.callsSince last.wire = course.flatMap (calls settings) := by
  refine ⟨fun turns bytes times _ hunfolds hsupplied => exists_drives hunfolds hsupplied, ?_⟩
  rintro turn course need last rfl hdrive
  exact ⟨hdrive.work (Connection.placed_of_leads hreached), hdrive.callsSince_eq⟩

/-- The turn after some steps, if nothing happens in between. -/
def after (settings : Settings) (turn : Turn) : ℕ → Turn
  | 0 => turn
  | n + 1 => ((turn.after settings n).step settings).turn

/-- Steps that nobody interrupts unfold. -/
theorem unfolds_after (settings : Settings) (turn : Turn) :
    Unfolds settings (turn.after settings) := by
  intro n next hnext
  rw [after, hnext]
  exact ⟨rfl, rfl⟩

/-- What two requests bring that have arrived together. -/
theorem supplied_pipelined :
    Supplied ⟨[], true, false⟩ (pipelined.after ⟨[], true, false⟩) 8 1 := by
  intro n hon
  have hend : ((pipelined.after ⟨[], true, false⟩ 13).step ⟨[], true, false⟩).need?
      = some .input := by
    decide +kernel
  have hshort : n ≤ 13 := by
    by_contra hlong
    obtain ⟨next, hnext⟩ := hon 13 (Nat.lt_of_not_le hlong)
    rw [hnext] at hend
    cases hend
  have hsums : ∀ n < 14,
      ∑ m ∈ Finset.range n, (pipelined.after ⟨[], true, false⟩ m).gain ⟨[], true, false⟩ ≤ 8 ∧
      ∑ m ∈ Finset.range n,
        (pipelined.after ⟨[], true, false⟩ m).interruptions ⟨[], true, false⟩ ≤ 1 := by
    decide +kernel
  exact hsums n (Nat.lt_succ_of_le hshort)

/-- The drive that handles them ends, and what it does is bounded. -/
theorem ends_of_leads_pipelined : ∃ n need last,
    Drives ⟨[], true, false⟩ pipelined
        ((List.range (n + 1)).map (pipelined.after ⟨[], true, false⟩)) need last ∧
      Work ⟨[], true, false⟩ pipelined
        ((List.range (n + 1)).map (pipelined.after ⟨[], true, false⟩)) := by
  have hreached : Connection.fresh.Leads pipelined.conn := .refl
  obtain ⟨hends, hwork⟩ := ends_of_leads hreached ⟨[], true, false⟩
  obtain ⟨n, need, last, hdrive⟩ :=
    hends (pipelined.after _) 8 1 rfl (unfolds_after _ _) supplied_pipelined
  exact ⟨n, need, last, hdrive, (hwork _ _ _ _ rfl hdrive).1⟩

/-- Two line feeds, and two responses. -/
example : (drive? ⟨[], true, false⟩ 14 pipelined).map (fun (course, _) =>
    (course.countP (starts ⟨[], true, false⟩), (course.map lineFeeds).sum)) = some (2, 2) := by
  decide +kernel

end Turn

end FileServer
