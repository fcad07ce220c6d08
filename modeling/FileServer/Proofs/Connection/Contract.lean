import FileServer.Proofs.Connection.Calls
import FileServer.Proofs.Connection.Course
import FileServer.Proofs.Intake.Ring

/-!
# The contract of a drive

A drive ends when the connection needs something, and whoever drives it acts on that: it waits for
input or for room, waits for a load, or closes. `Contract` says what it can rely on. What is needed
names the phase, and the reason is there: a connection that needs input has scanned all it has read
without finding the end of a line, and the last call on its wire was a read that would block; one
that needs room has something left to write, and the last call was a write that would block; one
that waits for a load has a ticket, and its last lookup found nothing.

The disk workers go on while a connection is driven, so `Drives` lets anything become of the cache
and of the queue between two steps, and of the wire too, but for the calls that were made on it.
`Turn.drive` is the drive in which nothing happens in between (`drives_drive`).
-/

namespace FileServer

/-- Scanning the whole of a ring ends a line, refuses it, or leaves nothing. -/
theorem Scanner.toList_of_scan {scanner : Scanner} {ring : Ring} {count : Nat}
    (hcount : ring.length ≤ count) (h : (scanner.scan ring count).1 = .incomplete) :
    (scanner.scan ring count).2.2.toList = [] := by
  induction count generalizing scanner ring with
  | zero =>
      apply List.eq_nil_of_length_eq_zero
      change ring.toList.length = 0
      rw [Ring.length_toList]
      omega
  | succ count ih =>
      unfold scan at h ⊢
      split
      · rename_i hpop
        exact Ring.toList_of_pop?_eq_none hpop
      · rename_i b rest hpop
        have hlength := Ring.length_of_pop? hpop
        rw [hpop] at h
        simp only at h
        split at h
        · cases h
        · rename_i hb
          rw [if_neg hb]
          split at h
          · cases h
          · rename_i hroom
            rw [if_neg hroom]
            exact ih (by omega) h

/-- A line that has not ended has taken all there was. -/
theorem Scanner.toList_of_advance {scanner : Scanner} {ring : Ring}
    (h : (scanner.advance ring).1 = .incomplete) : (scanner.advance ring).2.2.toList = [] := by
  have hdone : scanner.done = false :=
    Turn.done_eq_false_of_advance (by rw [h]; exact Scan.noConfusion)
  rw [Scanner.advance, hdone] at h ⊢
  exact Scanner.toList_of_scan (Nat.le_refl _) h

/-! ### Steps that end a drive -/

namespace Turn

variable {settings : Settings} {turn next last : Turn} {need : Need} {key : String}
  {ticket : Option Ticket} {course : List Turn}

/-- What holds where a drive has ended, seen from an earlier state of the wire. -/
inductive Blocked (earlier : Wire) (turn : Turn) : Need → Prop where
  /-- All that was read is scanned, the line has not ended, and there is nothing to read. -/
  | input {offered : Nat} (hphase : turn.conn.phase = .reading)
      (hring : turn.conn.ring.toList = []) (hdone : turn.conn.scanner.done = false)
      (hcall : (earlier.callsSince turn.wire).getLast?
        = some (.read offered (.error .wouldBlock))) : Blocked earlier turn .input
  /-- Something is left to be written, and there is no room. -/
  | output {out : Outgoing} {offered : List Nat} (hphase : turn.conn.phase = .sending out)
      (hleft : 0 < out.remaining)
      (hcall : (earlier.callsSince turn.wire).getLast?
        = some (.write offered (.error .wouldBlock))) : Blocked earlier turn .output
  /-- A load was asked for. -/
  | disk {key : String} {ticket : Ticket}
      (hphase : turn.conn.phase = .resolving key (some ticket)) : Blocked earlier turn .disk
  /-- Nothing more happens. -/
  | close (hphase : turn.conn.phase = .closed) : Blocked earlier turn .close

/-- Seen from further back, a drive has ended in the same way. -/
theorem Blocked.of_le {first earlier : Wire} (h : turn.Blocked earlier need)
    (hlength : first.log.length ≤ earlier.log.length) : turn.Blocked first need := by
  cases h with
  | input hphase hring hdone hcall =>
      exact .input hphase hring hdone (Wire.getLast?_callsSince_of_le hcall hlength)
  | output hphase hleft hcall =>
      exact .output hphase hleft (Wire.getLast?_callsSince_of_le hcall hlength)
  | disk hphase => exact .disk hphase
  | close hphase => exact .close hphase

/-- **A step that ends a drive** leaves the connection blocked on what it needs. -/
theorem blocked_step (h : turn.step settings = .rest need next) : next.Blocked turn.wire need := by
  have hmove := move_step settings turn
  rw [h] at hmove
  cases hmove with
  | @readBlocked scanner ring wire hphase hscan hread =>
    have hring := @Scanner.toList_of_advance turn.conn.scanner turn.conn.ring
    have hdone := @done_advance turn.conn.scanner turn.conn.ring
    have hlog := turn.wire.log_read ring.writable
    rw [hscan] at hring hdone
    rw [hread] at hlog
    exact .input hphase (hring rfl) (hdone Scan.noConfusion)
      (Wire.getLast?_callsSince_of_cons hlog (Nat.le_refl _))
  | @writeBlocked out wire hphase hleft hwrite =>
    have hlog := turn.wire.log_write out.buffers
    rw [hwrite] at hlog
    exact .output hphase (Nat.pos_of_ne_zero hleft)
      (Wire.getLast?_callsSince_of_cons hlog (Nat.le_refl _))
  | waits | asked => exact .disk rfl
  | readEnded | writeEnded | dropped => exact .close rfl
  | closed hphase => exact .close hphase

/-- A step forgets no call. -/
theorem log_le_step (settings : Settings) (turn : Turn) :
    turn.wire.log.length ≤ (turn.step settings).turn.wire.log.length :=
  (suffix_step settings turn).length_le

/-- Whether the next step looks something up. -/
def looks (turn : Turn) : Bool :=
  match turn.conn.phase with
  | .resolving _ _ => true
  | _ => false

/-- How a drive comes to the two phases between a lookup that finds nothing and the end of the
drive. -/
inductive Goes (turn next : Turn) : Prop where
  /-- A lookup has found nothing. -/
  | missed {key : String} {ticket : Option Ticket}
      (hbefore : turn.conn.phase = .resolving key ticket) (hfinds : turn.finds = false)
      (hphase : next.conn.phase = .missed key ticket)
  /-- A load is to be asked for. -/
  | asking {key : String} {ticket : Option Ticket} (hbefore : turn.conn.phase = .missed key ticket)
      (hphase : next.conn.phase = .asking key)
  /-- The drive is at neither. -/
  | apart (hphase : next.conn.phase = .reading ∨ next.conn.Replying ∨
      ∃ key, next.conn.phase = .resolving key none)

/-- A step that does not end a drive goes one of these ways. -/
theorem goes_of_on (h : turn.step settings = .on next) : turn.Goes next := by
  have hmove := move_step settings turn
  rw [h] at hmove
  cases hmove with
  | @named _ _ key => exact .apart (Or.inr (Or.inr ⟨key, rfl⟩))
  | refused | overlong | found | wrote => exact .apart (Or.inr (Or.inl (Or.inl ⟨_, rfl⟩)))
  | arrived hphase | readAgain hphase => exact .apart (Or.inl hphase)
  | missed hphase hlookup =>
    refine .missed hphase ?_ rfl
    rw [finds, hphase]
    simp only [hlookup, Option.isSome_none]
  | lapsed hphase => exact .asking hphase rfl
  | written => exact .apart (Or.inr (Or.inl (Or.inr (Or.inl ⟨_, rfl⟩))))
  | writeAgain hphase => exact .apart (Or.inr (Or.inl (Or.inl ⟨_, hphase⟩)))
  | kept => exact .apart (Or.inl rfl)

/-- Between a lookup that finds nothing and the end of the drive. -/
def Behind (key : String) (turn : Turn) : Prop :=
  (∃ ticket, turn.conn.phase = .missed key ticket) ∨ turn.conn.phase = .asking key

/-- Behind a lookup there is none. -/
theorem Behind.not_looks (h : turn.Behind key) : turn.looks = false := by
  rcases h with ⟨ticket, hphase⟩ | hphase <;> simp [looks, hphase]

/-- A drive that ends with a load under way ends behind a lookup of its key. -/
theorem behind_of_rest {ticket : Ticket} (h : turn.step settings = .rest .disk next)
    (hnext : next.conn.phase = .resolving key (some ticket)) : turn.Behind key := by
  have hmove := move_step settings turn
  rw [h] at hmove
  cases hmove with
  | waits hphase =>
    obtain ⟨rfl, -⟩ := Phase.resolving.inj hnext
    exact Or.inl ⟨_, hphase⟩
  | asked hphase =>
    obtain ⟨rfl, -⟩ := Phase.resolving.inj hnext
    exact Or.inr hphase

/-! ### Drives -/

/-- A drive while others go on: its course, what the connection needs at its end, and where it ends.
Between two steps anything may become of what is shared, and of the wire but for its calls. -/
inductive Drives (settings : Settings) : Turn → List Turn → Need → Turn → Prop where
  /-- The last step. -/
  | rest {turn last : Turn} {need : Need} (hstep : turn.step settings = .rest need last) :
      Drives settings turn [turn] need last
  /-- A step before others. -/
  | on {turn next last : Turn} {course : List Turn} {need : Need} {hub : Hub} {wire : Wire}
      (hstep : turn.step settings = .on next) (hcalls : wire.log = next.wire.log)
      (hrest : Drives settings ⟨next.conn, wire, hub⟩ course need last) :
      Drives settings turn (turn :: course) need last

/-- A drive in which nothing happens in between. -/
theorem drives_drive (settings : Settings) (turn : Turn) :
    Drives settings turn (turn.course settings) (turn.drive settings).1
      (turn.drive settings).2 := by
  induction turn using drive.induct settings with
  | case1 turn need next hnext =>
      rw [course_of_rest hnext, drive_of_rest hnext]
      exact .rest hnext
  | case2 turn next hnext ih =>
      rw [course_of_on hnext, drive_of_on hnext]
      exact .on hnext rfl ih

/-- A drive of no more than so many steps: its course, what the connection needs, and where it
ends. -/
def drive? (settings : Settings) : Nat → Turn → Option (List Turn × Need × Turn)
  | 0, _ => none
  | count + 1, turn =>
    match turn.step settings with
    | .rest need last => some ([turn], need, last)
    | .on next =>
      (drive? settings count next).map fun (course, need, last) => (turn :: course, need, last)

/-- Such a drive is one of those that others may interrupt. -/
theorem drives_of_drive? {count : Nat}
    (h : drive? settings count turn = some (course, need, last)) :
    Drives settings turn course need last := by
  induction count generalizing turn course with
  | zero => cases h
  | succ count ih =>
      unfold drive? at h
      split at h
      · rename_i hstep
        cases h
        exact .rest hstep
      · rename_i next hstep
        obtain ⟨⟨others, _, _⟩, hnext, hcons⟩ := Option.map_eq_some_iff.1 h
        cases hcons
        exact .on hstep rfl (ih hnext)

/-- Where nothing happens in between, such a drive is the whole one. -/
theorem eq_of_drive? {count : Nat} (h : drive? settings count turn = some (course, need, last)) :
    turn.course settings = course ∧ turn.drive settings = (need, last) := by
  induction count generalizing turn course with
  | zero => cases h
  | succ count ih =>
      unfold drive? at h
      split at h
      · rename_i hstep
        cases h
        exact ⟨course_of_rest hstep, drive_of_rest hstep⟩
      · rename_i next hstep
        obtain ⟨⟨others, _, _⟩, hnext, hcons⟩ := Option.map_eq_some_iff.1 h
        cases hcons
        obtain ⟨hcourse, hdrive⟩ := ih hnext
        exact ⟨by rw [course_of_on hstep, hcourse], by rw [drive_of_on hstep, hdrive]⟩

/-- Two lines and the beginning of a third have arrived together, and the contents that the two name
are there. The first response is taken in two parts, with an interruption between them. -/
def pipelined : Turn where
  conn := .fresh
  wire := { Wire.fresh with
    inbound := [.bytes (Text.encode "/a\n/b\n/c")]
    writes := [.upTo 7, .fail .interrupted] }
  hub := ((Hub.empty 100).store "a" (.file [104])).store "b" (.file [105])

/-- A drive can send several responses. -/
theorem drives_pipelined : ∃ course last,
    Drives ⟨[], true, false⟩ pipelined course .input last ∧ course.length = 14 ∧
      last.conn.served = 2 := by
  have hdrive : (drive? ⟨[], true, false⟩ 14 pipelined).map
      (fun (course, need, last) => (course.length, need, last.conn.served))
        = some (14, .input, 2) := by
    decide +kernel
  obtain ⟨⟨course, need, last⟩, hcourse, hfacts⟩ := Option.map_eq_some_iff.1 hdrive
  simp only [Prod.mk.injEq] at hfacts
  obtain ⟨hlength, rfl, hserved⟩ := hfacts
  exact ⟨course, last, drives_of_drive? hcourse, hlength, hserved⟩

/-- The first step of a drive is in its course. -/
theorem Drives.mem_course (h : Drives settings turn course need last) : turn ∈ course := by
  rcases h with _ | _ <;> exact List.mem_cons_self

/-- No call of a drive is forgotten. -/
theorem Drives.suffix (h : Drives settings turn course need last) :
    turn.wire.log <:+ last.wire.log := by
  induction h with
  | @rest turn last need hstep =>
      have hlog := suffix_step settings turn
      rwa [hstep] at hlog
  | @on turn next last course need hub wire hstep hcalls _ ih =>
      have hlog := suffix_step settings turn
      rw [hstep] at hlog
      exact hlog.trans (hcalls ▸ ih)

/-- The calls of a drive are those of its steps. -/
theorem Drives.callsSince_eq (h : Drives settings turn course need last) :
    turn.wire.callsSince last.wire = course.flatMap (calls settings) := by
  induction h with
  | rest hstep => rw [List.flatMap_singleton, calls, hstep, Progress.turn]
  | @on turn next last course need hub wire hstep hcalls hrest ih =>
      have hlog := suffix_step settings turn
      rw [hstep] at hlog
      have hlater : next.wire.log <:+ last.wire.log := hcalls ▸ hrest.suffix
      have hsince : next.wire.callsSince last.wire = wire.callsSince last.wire := by
        rw [Wire.callsSince, Wire.callsSince, hcalls]
      rw [List.flatMap_cons, calls, hstep, Wire.callsSince_append hlog hlater, ← ih, ← hsince]
      rfl

/-- **A drive ends blocked** on what the connection needs. -/
theorem Drives.blocked (h : Drives settings turn course need last) :
    last.Blocked turn.wire need := by
  induction h with
  | rest hstep => exact blocked_step hstep
  | @on turn next last course need hub wire hstep hcalls _ ih =>
      have hmore := log_le_step settings turn
      rw [hstep] at hmore
      apply ih.of_le
      rw [hcalls]
      exact hmore

/-- What every step keeps of a connection holds along a drive, whatever is done to the wire and the
hub in between. -/
theorem Drives.invariant {motive : Connection → Prop}
    (hstep : ∀ turn : Turn, motive turn.conn → motive (turn.step settings).turn.conn)
    (h : Drives settings turn course need last) (hbefore : motive turn.conn) :
    (∀ each ∈ course, motive each.conn) ∧ motive last.conn := by
  induction h with
  | @rest turn last need hlast =>
      have hkept := hstep turn hbefore
      rw [hlast] at hkept
      exact ⟨fun each heach => by rwa [List.mem_singleton.1 heach], hkept⟩
  | @on turn next last course need hub wire hnext _ _ ih =>
      have hkept := hstep turn hbefore
      rw [hnext] at hkept
      obtain ⟨hcourse, hend⟩ := ih hkept
      refine ⟨?_, hend⟩
      intro each heach
      rcases List.mem_cons.1 heach with rfl | hlater
      · exact hbefore
      · exact hcourse each hlater

/-- Whether the last lookup in a course was for a key and found nothing. -/
def Fruitless (key : String) (course : List Turn) : Prop :=
  ∃ looked ticket, (course.filter looks).getLast? = some looked ∧ looked.finds = false ∧
    looked.conn.phase = .resolving key ticket

/-- What comes before the last lookup does not matter. -/
theorem Fruitless.cons (h : Fruitless key course) (turn : Turn) :
    Fruitless key (turn :: course) := by
  obtain ⟨looked, ticket, hlast, hfinds, hphase⟩ := h
  refine ⟨looked, ticket, ?_, hfinds, hphase⟩
  rw [List.filter_cons]
  split
  · rw [List.getLast?_cons, hlast]
    rfl
  · exact hlast

/-- A drive that ends with a load under way has looked for its content and not found it, unless it
has begun behind that lookup. -/
theorem Drives.fruitless {ticket : Ticket} (h : Drives settings turn course need last)
    (hneed : need = .disk) (hphase : last.conn.phase = .resolving key (some ticket)) :
    Fruitless key course ∨ course.filter looks = [] ∧ turn.Behind key := by
  induction h with
  | rest hstep =>
      subst hneed
      have hbehind := behind_of_rest hstep hphase
      refine Or.inr ⟨?_, hbehind⟩
      rw [List.filter_cons_of_neg (by simp [hbehind.not_looks]), List.filter_nil]
  | @on turn next last course need hub wire hstep hcalls _ ih =>
      rcases ih hneed hphase with hfound | ⟨hnone, hbehind⟩
      · exact Or.inl (hfound.cons turn)
      · -- Behind a lookup one comes only by that lookup, or from behind it.
        have hbehind : next.Behind key := hbehind
        cases goes_of_on hstep with
        | @missed name other hbefore hfinds hmissed =>
            have hname : name = key := by
              rcases hbehind with ⟨_, hsame⟩ | hsame
              · exact (Phase.missed.inj (hmissed.symm.trans hsame)).1
              · cases hmissed.symm.trans hsame
            have hlooks : turn.looks = true := by simp [looks, hbefore]
            refine Or.inl ⟨turn, other, ?_, hfinds, hname ▸ hbefore⟩
            rw [List.filter_cons_of_pos hlooks, hnone, List.getLast?_singleton]
        | @asking name other hbefore hasking =>
            have hname : name = key := by
              rcases hbehind with ⟨_, hsame⟩ | hsame
              · cases hasking.symm.trans hsame
              · exact Phase.asking.inj (hasking.symm.trans hsame)
            have hmissed : turn.Behind key := Or.inl ⟨other, hname ▸ hbefore⟩
            refine Or.inr ⟨?_, hmissed⟩
            rw [List.filter_cons_of_neg (by simp [hmissed.not_looks]), hnone]
        | apart hapart =>
            rcases hbehind with ⟨_, hsame⟩ | hsame <;>
              simp [hsame, Connection.Replying] at hapart

/-- A connection that is closed ends every drive at once, and nothing happens. -/
theorem Drives.of_closed (h : Drives settings turn course need last)
    (hphase : turn.conn.phase = .closed) : course = [turn] ∧ need = .close ∧ last = turn := by
  have hstop : turn.step settings = .rest .close turn := by rw [step, hphase]
  cases h with
  | rest hstep =>
      obtain ⟨rfl, rfl⟩ := Progress.rest.inj (hstep.symm.trans hstop)
      exact ⟨rfl, rfl, rfl⟩
  | on hstep => cases hstep.symm.trans hstop

end Turn

/-! ### Connections that are driven -/

namespace Connection

/-- What drives make of a connection, whatever they are done with. -/
inductive Leads (first : Connection) : Connection → Prop where
  /-- No drive. -/
  | refl : Leads first first
  /-- One more drive. -/
  | drive {conn : Connection} {settings : Settings} {wire : Wire} {hub : Hub} {course : List Turn}
      {need : Need} {last : Turn} (hleads : Leads first conn)
      (hdrive : Turn.Drives settings ⟨conn, wire, hub⟩ course need last) : Leads first last.conn

variable {first conn : Connection}

/-- What every step keeps of a connection holds however often it is driven. -/
theorem Leads.invariant {motive : Connection → Prop}
    (hstep : ∀ (settings : Settings) (turn : Turn),
      motive turn.conn → motive (turn.step settings).turn.conn)
    (h : first.Leads conn) (hfirst : motive first) : motive conn := by
  induction h with
  | refl => exact hfirst
  | @drive conn settings wire hub course need last _ hdrive ih =>
      exact (hdrive.invariant (hstep settings) ih).2

/-- A connection that is closed stays as it is. -/
theorem Leads.of_closed (h : first.Leads conn) (hphase : first.phase = .closed) : conn = first := by
  induction h with
  | refl => rfl
  | drive _ hdrive ih =>
      subst ih
      rw [(hdrive.of_closed hphase).2.2]

/-- Between drives a connection is in one of four phases. -/
def Settled (conn : Connection) : Prop :=
  conn.phase = .reading ∨ (∃ out, conn.phase = .sending out) ∨
    (∃ key ticket, conn.phase = .resolving key (some ticket)) ∨ conn.phase = .closed

/-- A connection that is blocked is in a phase in which drives end. -/
theorem settled_of_blocked {earlier : Wire} {turn : Turn} {need : Need}
    (h : turn.Blocked earlier need) : turn.conn.Settled := by
  cases h with
  | input hphase => exact Or.inl hphase
  | output hphase => exact Or.inr (Or.inl ⟨_, hphase⟩)
  | disk hphase => exact Or.inr (Or.inr (Or.inl ⟨_, _, hphase⟩))
  | close hphase => exact Or.inr (Or.inr (Or.inr hphase))

/-- A connection whose drives have all ended is in a phase in which drives end. -/
theorem settled_of_leads (h : fresh.Leads conn) : conn.Settled := by
  cases h with
  | refl => exact Or.inl rfl
  | drive _ hdrive => exact settled_of_blocked hdrive.blocked

/-- A connection between drives is not behind a lookup. -/
theorem Settled.not_behind {turn : Turn} {key : String} (h : turn.conn.Settled) :
    ¬turn.Behind key := by
  rintro (⟨ticket, hphase⟩ | hphase) <;> simp [Settled, hphase] at h

end Connection

/-! ### The contract -/

namespace Turn

variable {settings : Settings} {turn last : Turn} {course : List Turn} {need : Need}

/-- What a drive of `before` with a given course, need and end can be relied on for. -/
structure Contract (before : Turn) (course : List Turn) (need : Need) (after : Turn) : Prop where
  /-- Input is needed in order to read a line. -/
  input : need = .input ↔ after.conn.phase = .reading
  /-- Then nothing is left to be scanned, no line has ended, and a read would block. -/
  drained : need = .input → after.conn.ring.isEmpty = true ∧ after.conn.scanner.done = false ∧
    ∃ offered, (before.wire.callsSince after.wire).getLast?
      = some (.read offered (.error .wouldBlock))
  /-- Room is needed in order to send a response. -/
  output : need = .output ↔ ∃ out, after.conn.phase = .sending out
  /-- Then something is left to be sent, and a write would block. -/
  stuck : need = .output → (∃ left, after.conn.pendingWrite = some left ∧ 0 < left) ∧
    ∃ offered, (before.wire.callsSince after.wire).getLast?
      = some (.write offered (.error .wouldBlock))
  /-- The disk is needed in order to find a content. -/
  disk : need = .disk ↔ ∃ key, after.conn.phase.wanted? = some key
  /-- Then there is a ticket, and the last lookup has found nothing. -/
  missed : need = .disk → ∃ key ticket, after.conn.phase = .resolving key (some ticket) ∧
    Fruitless key course
  /-- A connection is to be closed when nothing more happens. -/
  close : need = .close ↔ after.conn.phase = .closed
  /-- No drive ends between two responses. -/
  finished : ∀ keepAlive, after.conn.phase ≠ .finishing keepAlive

/-- **The contract is kept** by every drive of a connection that was driven only in this way. -/
theorem Drives.contract (h : Drives settings turn course need last)
    (hreached : Connection.fresh.Leads turn.conn) : Contract turn course need last := by
  have hblocked := h.blocked
  cases hblocked with
  | @input offered hphase hring hdone hcall =>
      have hempty := Ring.isEmpty_of_toList hring
      constructor
      case drained => exact fun _ => ⟨hempty, hdone, offered, hcall⟩
      all_goals simp [hphase, Phase.wanted?]
  | @output out offered hphase hleft hcall =>
      have hpending : last.conn.pendingWrite = some out.remaining := by
        rw [Connection.pendingWrite, hphase]
      constructor
      case stuck => exact fun _ => ⟨⟨out.remaining, hpending, hleft⟩, offered, hcall⟩
      all_goals simp [hphase, Phase.wanted?]
  | @disk key ticket hphase =>
      have hfound : Fruitless key course := by
        rcases h.fruitless rfl hphase with hfound | ⟨-, hbehind⟩
        · exact hfound
        · exact absurd hbehind (Connection.settled_of_leads hreached).not_behind
      constructor
      case missed => exact fun _ => ⟨key, ticket, hphase, hfound⟩
      all_goals simp [hphase, Phase.wanted?]
  | close hphase =>
      constructor
      all_goals simp [hphase, Phase.wanted?]

end Turn

end FileServer
