import FileServer.Proofs.Connection.Resting

/-!
# The course of a drive

`Turn.course` is what a drive goes through, the turn before each of its steps, so that the steps of
a drive can be counted. Requests on one connection are numbered by the responses that were sent to
their end before them. Of the steps of a drive three kinds matter for the request with a number:

- the step that looks for its content for the first time (`begins`);
- a step that puts a load into the queue for it (`asks`);
- the first step of a drive that finds the load that was asked for done, and the content gone
  (`lapsed`).

Towards a request a connection is before it (`Ahead`), waits for a load (`Awaits`), or is behind
this (`Past`), and the three lemmas `course_ahead`, `course_awaits` and `course_past` say what a
drive does for the request from there, and where it ends.
-/

namespace FileServer

namespace Connection

/-- The request with this number has not been read. -/
def Ahead (number : Nat) (conn : Connection) : Prop :=
  conn.served < number ∨ conn.served = number ∧ conn.phase = .reading

/-- The connection waits for a load for the request with this number. -/
def Awaits (number : Nat) (conn : Connection) : Prop :=
  conn.served = number ∧ ∃ key ticket, conn.phase = .resolving key (some ticket)

/-- Whether a response is being sent, or nothing happens any more. -/
def Replying (conn : Connection) : Prop :=
  (∃ out, conn.phase = .sending out) ∨ (∃ keepAlive, conn.phase = .finishing keepAlive) ∨
    conn.phase = .closed

/-- No content is looked for any more for the request with this number. -/
def Past (number : Nat) (conn : Connection) : Prop :=
  number < conn.served ∨ conn.served = number ∧ conn.Replying

end Connection

namespace Turn

variable {settings : Settings} {turn next : Turn} {number : Nat} {key : String}
  {ticket : Option Ticket}

/-- What a drive goes through: the turn before each of its steps. -/
def course (settings : Settings) (turn : Turn) : List Turn :=
  turn :: match _h : turn.step settings with
    | .rest _ _ => []
    | .on next => next.course settings
termination_by (turn.unused, turn.conn.phase.rank, turn.unsent)
decreasing_by exact (step_decreases _h).lex

/-- A drive whose first step ends it goes through one turn. -/
theorem course_of_rest {need : Need} (h : turn.step settings = .rest need next) :
    turn.course settings = [turn] := by
  rw [course]
  split <;> simp_all

/-- A drive whose first step does not end it goes on as the next turn does. -/
theorem course_of_on (h : turn.step settings = .on next) :
    turn.course settings = turn :: next.course settings := by
  rw [course]
  split <;> simp_all

/-- Whether the content that the connection looks for is found. -/
def finds (turn : Turn) : Bool :=
  match turn.conn.phase with
  | .resolving key _ => (turn.hub.lookup key).1.isSome
  | _ => false

/-- Whether the next step is the first lookup for a request. -/
def begins (number : Nat) (turn : Turn) : Bool :=
  match turn.conn.phase with
  | .resolving _ none => turn.conn.served = number
  | _ => false

/-- Whether the next step puts a load for a request into the queue. -/
def asks (settings : Settings) (number : Nat) (turn : Turn) : Bool :=
  turn.conn.served = number ∧
    turn.hub.queue.length < (turn.step settings).turn.hub.queue.length

/-- Whether the load that was asked for a request is done, and the content is not found. -/
def lapsed (number : Nat) (turn : Turn) : Bool :=
  match turn.conn.phase with
  | .resolving _ (some ticket) =>
    turn.conn.served = number ∧ turn.hub.queue.isComplete ticket ∧ turn.finds = false
  | _ => false

/-- The number of loads that are put into the queue for a request. -/
def loads (settings : Settings) (number : Nat) (course : List Turn) : Nat :=
  course.countP (asks settings number)

/-- Whether the first lookup for a request finds the content, if there is a lookup. -/
def hit? (number : Nat) (course : List Turn) : Option Bool :=
  (course.find? (begins number)).map finds

/-- The number of drives that start with a load done and the content gone. -/
def lapses (number : Nat) (drives : List (List Turn)) : Nat :=
  drives.countP fun course => course.head?.any (lapsed number)

/-- A drive begins with the turn that is driven. -/
theorem head?_course (settings : Settings) (turn : Turn) :
    (turn.course settings).head? = some turn := by
  rw [course]
  rfl

/-! ### Steps -/

/-- A content that is found is sent. -/
theorem resolve_of_finds (settings : Settings) (hphase : turn.conn.phase = .resolving key ticket)
    (hfinds : turn.finds = true) : ∃ next, turn.step settings = .on next ∧
      next.conn.served = turn.conn.served ∧ next.conn.Replying := by
  rw [finds, hphase] at hfinds
  obtain ⟨content, hcontent⟩ := Option.isSome_iff_exists.1 hfinds
  rw [step, hphase]
  simp only [Turn.resolve, hcontent]
  exact ⟨_, rfl, by simp [send, enter], Or.inl ⟨_, rfl⟩⟩

/-- A lookup that finds nothing changes nothing in the queue. -/
theorem resolve_of_not_finds (settings : Settings)
    (hphase : turn.conn.phase = .resolving key ticket) (hfinds : turn.finds = false) :
    ∃ next, turn.step settings = .on next ∧
      next.conn.served = turn.conn.served ∧ next.conn.phase = .missed key ticket ∧
      next.hub.queue = turn.hub.queue := by
  rw [finds, hphase] at hfinds
  rw [step, hphase]
  simp only [Turn.resolve, Option.isSome_eq_false_iff, Option.isNone_iff_eq_none] at hfinds ⊢
  rw [hfinds]
  exact ⟨_, rfl, rfl, rfl, rfl⟩

/-- No drive ends where a first lookup is due. -/
theorem not_looking_of_rest {need : Need} (h : turn.step settings = .rest need next) :
    next.conn.phase ≠ .resolving key none := by
  have hfits := fits_step h
  intro hlooking
  rw [hlooking] at hfits
  cases need with
  | input => cases hfits
  | output =>
      obtain ⟨out, hsending⟩ := hfits
      cases hsending
  | disk =>
      obtain ⟨other, ticket, hwaiting⟩ := hfits
      cases hwaiting
  | close =>
      have hclosed := closed_of_rest h
      rw [hlooking] at hclosed
      cases hclosed

/-- Only a connection that is about to ask for a load changes the queue. -/
theorem queue_step (settings : Settings) (turn : Turn)
    (hphase : ∀ key, turn.conn.phase ≠ .asking key) :
    (turn.step settings).turn.hub.queue = turn.hub.queue := by
  unfold step
  split
  · rw [hub_read]
  · rw [hub_resolve]
    rfl
  · rw [hub_miss]
  · rename_i key hasking
    exact absurd hasking (hphase key)
  · exact (alike_write turn _).queue
  · exact (alike_finish settings _ turn).queue
  · rfl

/-- A step counts a response only when it is out, and then the next line is read unless the
connection closes. -/
theorem served_step (settings : Settings) (turn : Turn) :
    (turn.step settings).turn.conn.served = turn.conn.served ∨
      (turn.step settings).turn.conn.served = turn.conn.served + 1 ∧
        ((turn.step settings).turn.conn.phase = .reading ∨
          (turn.step settings).turn.conn.phase = .closed) := by
  have hmove := move_step settings turn
  generalize turn.step settings = progress at hmove
  cases hmove with
  | kept => exact Or.inr ⟨by simp [Progress.turn, restart, serve], Or.inl rfl⟩
  | dropped => exact Or.inr ⟨by simp [Progress.turn, enter, serve], Or.inr rfl⟩
  | refused | overlong | found => exact Or.inl (by simp [Progress.turn, scanned])
  | named | arrived | readAgain | readBlocked | readEnded | missed | lapsed | waits | asked
  | written | wrote | writeAgain | writeBlocked | writeEnded | closed => exact Or.inl rfl

/-- A request that is past stays so. -/
theorem past_step (settings : Settings) (h : turn.conn.Past number) :
    (turn.step settings).turn.conn.Past number := by
  have hcount := served_step settings turn
  rcases h with hlt | ⟨hserved, hreplying⟩
  · refine Or.inl ?_
    rcases hcount with heq | ⟨heq, -⟩ <;> omega
  · have hmove := move_step settings turn
    generalize turn.step settings = progress at hmove hcount
    cases hmove with
    | written => exact Or.inr ⟨hserved, Or.inr (Or.inl ⟨_, rfl⟩)⟩
    | wrote => exact Or.inr ⟨hserved, Or.inl ⟨_, rfl⟩⟩
    | writeAgain | writeBlocked | closed => exact Or.inr ⟨hserved, hreplying⟩
    | writeEnded => exact Or.inr ⟨hserved, Or.inr (Or.inr rfl)⟩
    | kept | dropped =>
      refine Or.inl ?_
      simp [Progress.turn, restart, enter, serve]
      omega
    | named hphase | refused hphase | overlong hphase | arrived hphase | readAgain hphase
    | readBlocked hphase | readEnded hphase | found hphase | missed hphase | lapsed hphase
    | waits hphase | asked hphase => simp [Connection.Replying, hphase] at hreplying

/-- What becomes of a line that is read: it is still read, or refused, or its content is looked
for. -/
theorem reading_step (settings : Settings) (hreading : turn.conn.phase = .reading) :
    (turn.step settings).turn.conn.served = turn.conn.served ∧
      ((turn.step settings).turn.conn.phase = .reading ∨
        (turn.step settings).turn.conn.Replying ∨
        ∃ key, (turn.step settings).turn.conn.phase = .resolving key none) := by
  have hmove := move_step settings turn
  generalize turn.step settings = progress at hmove
  cases hmove with
  | @named _ _ key => exact ⟨rfl, Or.inr (Or.inr ⟨key, rfl⟩)⟩
  | refused | overlong =>
    exact ⟨by simp [Progress.turn, scanned], Or.inr (Or.inl (Or.inl ⟨_, rfl⟩))⟩
  | arrived | readAgain | readBlocked => exact ⟨rfl, Or.inl hreading⟩
  | readEnded => exact ⟨rfl, Or.inr (Or.inl (Or.inr (Or.inr rfl)))⟩
  | found hphase | missed hphase | lapsed hphase | waits hphase | asked hphase | written hphase
  | wrote hphase | writeAgain hphase | writeBlocked hphase | writeEnded hphase | kept hphase
  | dropped hphase | closed hphase => cases hreading.symm.trans hphase

/-- Before a request there is nothing but reading it: it is refused, or its content is looked
for. -/
theorem ahead_step (settings : Settings) (h : turn.conn.Ahead number) :
    (turn.step settings).turn.conn.Ahead number ∨ (turn.step settings).turn.conn.Past number ∨
      (turn.step settings).turn.conn.served = number ∧
        ∃ key, (turn.step settings).turn.conn.phase = .resolving key none := by
  rcases h with hlt | ⟨hserved, hphase⟩
  · rcases served_step settings turn with hsame | ⟨hcounted, hnext⟩
    · exact Or.inl (Or.inl (by omega))
    · by_cases hbefore : turn.conn.served + 1 < number
      · exact Or.inl (Or.inl (by omega))
      · have hnumber : (turn.step settings).turn.conn.served = number := by omega
        rcases hnext with hreading | hclosed
        · exact Or.inl (Or.inr ⟨hnumber, hreading⟩)
        · exact Or.inr (Or.inl (Or.inr ⟨hnumber, Or.inr (Or.inr hclosed)⟩))
  · obtain ⟨hsame, hnext⟩ := reading_step settings hphase
    have hnumber := hsame.trans hserved
    rcases hnext with hreading | hreplying | hlooking
    · exact Or.inl (Or.inr ⟨hnumber, hreading⟩)
    · exact Or.inr (Or.inl (Or.inr ⟨hnumber, hreplying⟩))
    · exact Or.inr (Or.inr ⟨hnumber, hlooking⟩)

/-! ### What steps count for -/

/-- Only a connection that is about to ask asks for a load. -/
theorem asks_eq_false (hphase : ∀ key, turn.conn.phase ≠ .asking key) :
    turn.asks settings number = false := by
  rw [asks, queue_step settings turn hphase]
  simp

/-- A step is of no account for a request if it is neither its first lookup nor asks for a load. -/
def Idle (settings : Settings) (number : Nat) (turn : Turn) : Prop :=
  turn.begins number = false ∧ turn.asks settings number = false

/-- Nothing is done for one request while another one is handled. -/
theorem idle_of_served (h : turn.conn.served ≠ number) : turn.Idle settings number := by
  constructor
  · unfold begins
    split <;> simp [h]
  · simp [asks, h]

/-- Nothing is done for a request that is past. -/
theorem idle_of_past (h : turn.conn.Past number) : turn.Idle settings number := by
  rcases h with hlt | ⟨-, hreplying⟩
  · exact idle_of_served (by omega)
  · rcases hreplying with ⟨out, hphase⟩ | ⟨keepAlive, hphase⟩ | hphase <;>
      exact ⟨by simp [begins, hphase], asks_eq_false (by simp [hphase])⟩

/-- Nothing is done for a request that is still ahead. -/
theorem idle_of_ahead (h : turn.conn.Ahead number) : turn.Idle settings number := by
  rcases h with hlt | ⟨-, hphase⟩
  · exact idle_of_served (by omega)
  · exact ⟨by simp [begins, hphase], asks_eq_false (by simp [hphase])⟩

/-- Between the lookup and the load nothing is counted. -/
theorem idle_of_missed (hphase : turn.conn.phase = .missed key ticket) :
    turn.Idle settings number :=
  ⟨by simp [begins, hphase], asks_eq_false (by simp [hphase])⟩

/-! ### What a drive does for a request -/

/-- What a drive does for a request: whether its first lookup is in the drive and finds the content,
how many loads it asks for, and where it leaves the connection. -/
structure Does (settings : Settings) (number : Nat) (turn : Turn) (first : Option Bool)
    (count : Nat) (leaves : Nat → Connection → Prop) : Prop where
  /-- The outcome of the first lookup. -/
  hit : hit? number (turn.course settings) = first
  /-- The loads that are asked for. -/
  loads : loads settings number (turn.course settings) = count
  /-- Where the drive ends. -/
  ends : leaves number (turn.drive settings).2.conn

variable {first : Option Bool} {count : Nat} {leaves : Nat → Connection → Prop}

/-- A step of no account may be left out. -/
theorem Does.of_on (h : turn.step settings = .on next) (hidle : turn.Idle settings number)
    (hnext : next.Does settings number first count leaves) :
    turn.Does settings number first count leaves where
  hit := by
    rw [course_of_on h, hit?, List.find?_cons_of_neg (by simp [hidle.1])]
    exact hnext.hit
  loads := by
    rw [course_of_on h, Turn.loads, List.countP_cons_of_neg (by simp [hidle.2])]
    exact hnext.loads
  ends := by
    rw [drive_of_on h]
    exact hnext.ends

/-- A drive of one step of no account. -/
theorem Does.of_rest {need : Need} (h : turn.step settings = .rest need next)
    (hidle : turn.Idle settings number) (hnext : leaves number next.conn) :
    turn.Does settings number none 0 leaves where
  hit := by
    rw [course_of_rest h, hit?, List.find?_cons_of_neg (by simp [hidle.1])]
    rfl
  loads := by
    rw [course_of_rest h, Turn.loads, List.countP_cons_of_neg (by simp [hidle.2])]
    rfl
  ends := by
    rw [drive_of_rest h]
    exact hnext

/-- **Behind a request** nothing is done for it. -/
theorem course_past (settings : Settings) (turn : Turn) (h : turn.conn.Past number) :
    turn.Does settings number none 0 Connection.Past := by
  induction turn using drive.induct settings with
  | case1 turn need next hnext =>
      have hkept := past_step settings h
      rw [hnext] at hkept
      exact .of_rest hnext (idle_of_past h) hkept
  | case2 turn next hnext ih =>
      have hkept := past_step settings h
      rw [hnext] at hkept
      exact .of_on hnext (idle_of_past h) (ih hkept)

/-- A load that is asked for is awaited. -/
theorem course_asking (hphase : turn.conn.phase = .asking key)
    (hserved : turn.conn.served = number) :
    turn.Does settings number none 1 Connection.Awaits := by
  have hstep : turn.step settings = turn.ask key := by rw [step, hphase]
  have hasks : turn.asks settings number = true := by
    rw [asks, hstep]
    simp [ask, Progress.turn, enter, hserved, Hub.request, LoadQueue.length, LoadQueue.request]
  constructor
  · rw [course_of_rest hstep, hit?, List.find?_cons_of_neg (by simp [begins, hphase])]
    rfl
  · rw [course_of_rest hstep, Turn.loads, List.countP_cons_of_pos hasks]
    rfl
  · rw [drive_of_rest hstep]
    exact ⟨hserved, _, _, rfl⟩

/-- Content that is not found and that nobody has asked for is asked for. -/
theorem course_missed_none (hphase : turn.conn.phase = .missed key none)
    (hserved : turn.conn.served = number) :
    turn.Does settings number none 1 Connection.Awaits := by
  have hstep : turn.step settings = .on (turn.enter (.asking key)) := by
    rw [step, hphase]
    rfl
  exact .of_on hstep (idle_of_missed hphase) (course_asking rfl hserved)

/-- Content that is not found is waited for until the load that was asked for is done, and then
asked for again. -/
theorem course_missed_some {ticket : Ticket} (hphase : turn.conn.phase = .missed key (some ticket))
    (hserved : turn.conn.served = number) :
    turn.Does settings number none (if turn.hub.queue.isComplete ticket then 1 else 0)
      Connection.Awaits := by
  have hidle : turn.Idle settings number := idle_of_missed hphase
  by_cases hcomplete : turn.hub.queue.isComplete ticket
  · have hstep : turn.step settings = .on (turn.enter (.asking key)) := by
      rw [step, hphase]
      exact if_pos hcomplete
    rw [if_pos hcomplete]
    exact .of_on hstep hidle (course_asking rfl hserved)
  · have hstep : turn.step settings =
        .rest .disk (turn.enter (.resolving key (some ticket))) := by
      rw [step, hphase]
      exact if_neg hcomplete
    rw [if_neg hcomplete]
    exact .of_rest hstep hidle ⟨hserved, key, ticket, rfl⟩

/-- **The first lookup** for a request: content that is not found is asked for. -/
theorem course_begins (hphase : turn.conn.phase = .resolving key none)
    (hserved : turn.conn.served = number) :
    turn.Does settings number (some true) 0 Connection.Past ∨
      turn.Does settings number (some false) 1 Connection.Awaits := by
  have hbegins : turn.begins number = true := by simp [begins, hphase, hserved]
  have hasks : turn.asks settings number = false := asks_eq_false (by simp [hphase])
  -- The outcome is seen at this step, and all else in the rest of the drive.
  have hrest : ∀ {next : Turn} {count : Nat} {leaves : Nat → Connection → Prop},
      turn.step settings = .on next → next.Does settings number none count leaves →
      turn.Does settings number (some turn.finds) count leaves := by
    intro next count leaves hstep hnext
    constructor
    · rw [course_of_on hstep, hit?, List.find?_cons_of_pos hbegins]
      rfl
    · rw [course_of_on hstep, Turn.loads, List.countP_cons_of_neg (by simp [hasks])]
      exact hnext.loads
    · rw [drive_of_on hstep]
      exact hnext.ends
  cases hfinds : turn.finds with
  | true =>
      obtain ⟨next, hstep, hsame, hreplying⟩ := resolve_of_finds settings hphase hfinds
      refine Or.inl (hfinds ▸ hrest hstep (course_past settings next ?_))
      exact Or.inr ⟨hsame.trans hserved, hreplying⟩
  | false =>
      obtain ⟨next, hstep, hsame, hmissed, -⟩ :=
        resolve_of_not_finds settings hphase hfinds
      exact Or.inr (hfinds ▸ hrest hstep (course_missed_none hmissed (hsame.trans hserved)))

/-- **Before a request** a drive may come to its first lookup, and asks for a load if that finds
nothing. -/
theorem course_ahead (settings : Settings) (turn : Turn) (h : turn.conn.Ahead number) :
    turn.Does settings number none 0 Connection.Ahead ∨
      turn.Does settings number none 0 Connection.Past ∨
      turn.Does settings number (some true) 0 Connection.Past ∨
      turn.Does settings number (some false) 1 Connection.Awaits := by
  have hidle : turn.Idle settings number := idle_of_ahead h
  induction turn using drive.induct settings with
  | case1 turn need next hnext =>
      have hstands := ahead_step settings h
      rw [hnext] at hstands
      rcases hstands with hahead | hpast | ⟨-, key, hphase⟩
      · exact Or.inl (.of_rest hnext hidle hahead)
      · exact Or.inr (Or.inl (.of_rest hnext hidle hpast))
      · exact absurd hphase (not_looking_of_rest hnext)
  | case2 turn next hnext ih =>
      have hstands := ahead_step settings h
      rw [hnext] at hstands
      rcases hstands with hahead | hpast | ⟨hserved, key, hphase⟩
      · rcases ih hahead (idle_of_ahead hahead) with hon | hon | hon | hon
        · exact Or.inl (hon.of_on hnext hidle)
        · exact Or.inr (Or.inl (hon.of_on hnext hidle))
        · exact Or.inr (Or.inr (Or.inl (hon.of_on hnext hidle)))
        · exact Or.inr (Or.inr (Or.inr (hon.of_on hnext hidle)))
      · exact Or.inr (Or.inl (.of_on hnext hidle (course_past settings next hpast)))
      · rcases course_begins hphase hserved with hon | hon
        · exact Or.inr (Or.inr (Or.inl (.of_on hnext hidle hon)))
        · exact Or.inr (Or.inr (Or.inr (.of_on hnext hidle hon)))

/-- **Waiting for a load** a drive asks for another one if the load is done and the content is not
found. -/
theorem course_awaits (settings : Settings) (turn : Turn) (h : turn.conn.Awaits number) :
    turn.Does settings number none 0 Connection.Past ∧ turn.lapsed number = false ∨
      turn.Does settings number none (if turn.lapsed number then 1 else 0) Connection.Awaits := by
  obtain ⟨hserved, key, ticket, hphase⟩ := h
  have hidle : turn.Idle settings number :=
    ⟨by simp [begins, hphase], asks_eq_false (by simp [hphase])⟩
  cases hfinds : turn.finds with
  | true =>
      obtain ⟨next, hstep, hsame, hreplying⟩ := resolve_of_finds settings hphase hfinds
      have hpast : next.conn.Past number := Or.inr ⟨hsame.trans hserved, hreplying⟩
      refine Or.inl ⟨.of_on hstep hidle (course_past settings next hpast), ?_⟩
      simp [lapsed, hphase, hfinds]
  | false =>
      obtain ⟨next, hstep, hsame, hmissed, hqueue⟩ :=
        resolve_of_not_finds settings hphase hfinds
      have hlapsed : turn.lapsed number = turn.hub.queue.isComplete ticket := by
        simp [lapsed, hphase, hfinds, hserved]
      rw [hlapsed, ← hqueue]
      exact Or.inr (.of_on hstep hidle (course_missed_some hmissed (hsame.trans hserved)))

end Turn

namespace Connection

variable {settings : Settings} {number : Nat} {conn : Connection} {drives : List (List Turn)}
  {first : Option Bool} {asked lapses : Nat}

/-- A connection is driven again and again, whatever happens to its wire and to the hub between its
drives. -/
inductive Driven (settings : Settings) : Connection → List (List Turn) → Prop where
  /-- No drive. -/
  | nil (conn : Connection) : Driven settings conn []
  /-- A drive, and others from where it ends. -/
  | cons (turn : Turn) {drives : List (List Turn)} :
      Driven settings (turn.drive settings).2.conn drives →
      Driven settings turn.conn (turn.course settings :: drives)

/-- What drives have done for a request: whether its first lookup has found the content, how many
loads were asked for, and how many drives found a load done and the content gone. -/
structure Tally (settings : Settings) (number : Nat) (drives : List (List Turn))
    (first : Option Bool) (asked lapses : Nat) : Prop where
  /-- The outcome of the first lookup. -/
  hit : Turn.hit? number drives.flatten = first
  /-- The loads that were asked for. -/
  loads : Turn.loads settings number drives.flatten = asked
  /-- The drives that found a load done and the content gone. -/
  lapses : Turn.lapses number drives = lapses

/-- Without drives there is nothing to count. -/
theorem tally_nil : Tally settings number [] none 0 0 := ⟨rfl, rfl, rfl⟩

/-- One more drive in front of others. -/
theorem Tally.cons (h : Tally settings number drives first asked lapses) {turn : Turn}
    {found : Option Bool} {count lapse : Nat} {leaves : Nat → Connection → Prop}
    (hdoes : turn.Does settings number found count leaves)
    (hlapse : (if turn.lapsed number then 1 else 0) = lapse) :
    Tally settings number (turn.course settings :: drives) (found.or first) (count + asked)
      (lapse + lapses) where
  hit := by
    rw [List.flatten_cons, Turn.hit?, List.find?_append, Option.map_or, ← Turn.hit?, ← Turn.hit?,
      hdoes.hit, h.hit]
  loads := by
    rw [List.flatten_cons, Turn.loads, List.countP_append, ← Turn.loads, ← Turn.loads,
      hdoes.loads, h.loads]
  lapses := by
    rw [Turn.lapses, List.countP_cons, ← Turn.lapses, h.lapses, Turn.head?_course, Nat.add_comm]
    exact congrArg (· + lapses) hlapse

/-- A drive that starts with a load done waits for it. -/
theorem awaits_of_lapsed {turn : Turn} (h : turn.lapsed number = true) :
    turn.conn.Awaits number := by
  unfold Turn.lapsed at h
  split at h
  · rename_i hphase
    exact ⟨by simp_all, _, _, hphase⟩
  · cases h

/-- A request that is past is not waited for. -/
theorem not_awaits_of_past (h : conn.Past number) : ¬conn.Awaits number := by
  rintro ⟨hserved, key, ticket, hphase⟩
  rcases h with hlt | ⟨-, hreplying⟩
  · omega
  · simp [Replying, hphase] at hreplying

/-- A request that is ahead is not waited for. -/
theorem not_awaits_of_ahead (h : conn.Ahead number) : ¬conn.Awaits number := by
  rintro ⟨hserved, key, ticket, hphase⟩
  rcases h with hlt | ⟨-, hreading⟩
  · omega
  · rw [hphase] at hreading
    cases hreading

/-- No load lapses for a request that is not waited for. -/
theorem lapse_eq_zero {turn : Turn} (h : ¬turn.conn.Awaits number) :
    (if turn.lapsed number then 1 else 0) = 0 :=
  if_neg fun hlapsed => h (awaits_of_lapsed hlapsed)

/-- Behind a request nothing is done for it any more. -/
theorem Driven.tally_past (h : conn.Driven settings drives) (hpast : conn.Past number) :
    Tally settings number drives none 0 0 := by
  induction h with
  | nil => exact tally_nil
  | cons turn _ ih =>
      have hdoes := Turn.course_past settings turn hpast
      exact (ih hdoes.ends).cons hdoes (lapse_eq_zero (not_awaits_of_past hpast))

/-- Waiting for a load, one more is asked for at each drive that finds it done and the content
gone. -/
theorem Driven.tally_awaits (h : conn.Driven settings drives) (hawaits : conn.Awaits number) :
    ∃ count, Tally settings number drives none count count := by
  induction h with
  | nil => exact ⟨0, tally_nil⟩
  | cons turn hrest ih =>
      rcases Turn.course_awaits settings turn hawaits with ⟨hdoes, hlapsed⟩ | hdoes
      · have hbehind := hrest.tally_past hdoes.ends
        exact ⟨0, hbehind.cons hdoes (by simp [hlapsed])⟩
      · obtain ⟨count, hlater⟩ := ih hdoes.ends
        exact ⟨_, hlater.cons hdoes rfl⟩

/-- **The loads of a request**: none if its first lookup finds the content, and otherwise one, and
one more for each drive that finds its load done and the content gone. -/
theorem Driven.loads_eq (h : conn.Driven settings drives) (hahead : conn.Ahead number) :
    Turn.loads settings number drives.flatten =
      if Turn.hit? number drives.flatten = some false then 1 + Turn.lapses number drives
      else 0 := by
  induction h with
  | nil => rfl
  | @cons turn drives hrest ih =>
      have hnot := lapse_eq_zero (not_awaits_of_ahead hahead)
      rcases Turn.course_ahead settings turn hahead with hdoes | hdoes | hdoes | hdoes
      · -- The first lookup is in a later drive.
        have hlater : Tally settings number drives _ _ _ := ⟨rfl, rfl, rfl⟩
        have htally := hlater.cons hdoes hnot
        rw [htally.loads, htally.hit, htally.lapses, Nat.zero_add, Nat.zero_add]
        exact ih hdoes.ends
      · have htally := (hrest.tally_past hdoes.ends).cons hdoes hnot
        rw [htally.loads, htally.hit]
        rfl
      · have htally := (hrest.tally_past hdoes.ends).cons hdoes hnot
        rw [htally.loads, htally.hit]
        rfl
      · obtain ⟨count, hbehind⟩ := hrest.tally_awaits hdoes.ends
        have htally := hbehind.cons hdoes hnot
        rw [htally.loads, htally.hit, htally.lapses, Nat.zero_add]
        rfl

end Connection

end FileServer
