import FileServer.Connection.Traffic
import FileServer.Proofs.Connection.Contract
import FileServer.Proofs.Connection.Stream
import FileServer.Proofs.Loads

/-!
# Tickets in a run

Connections that share a hub wait for loads, and disk workers take the loads off the queue and mark
their tickets, in any order. The account of tickets (`LoadQueue.Accounted`) is kept by every action
of a run: a drive keeps it because each of its steps does (`Turn.accounted_step`), and what the disk
side does only moves a load or ends it.

`account_of_run` says what follows for a run. No two connections wait with one ticket, and what is
waited for is carried by one load or was marked. A connection that is driven while its load is under
way and its content is not there changes nothing. And the loads that are asked for on behalf of one
request are counted: none, if its first lookup finds the content, and otherwise one, and one more
for each later drive that finds its load done and the content gone.
-/

namespace FileServer

namespace Turn

variable {turn : Turn} {others : List (String × Ticket)} {held : Nat → Option (String × Ticket)}
  {member : Nat}

/-- The account of one connection among others, and of loads that are in hand. -/
def Accounted (others : List (String × Ticket)) (held : Nat → Option (String × Ticket))
    (member : Nat) (turn : Turn) : Prop :=
  turn.hub.queue.Accounted (turn.hub.queue.loads ++ others) fun other =>
    if other = member then turn.conn.phase.load? else held other

/-- It is the account of all where the connection is one of them. -/
theorem accounted_of_held (h : turn.hub.queue.Accounted (turn.hub.queue.loads ++ others) held)
    (hself : held member = turn.conn.phase.load?) : turn.Accounted others held member := by
  refine h.release fun other load hheld => ?_
  by_cases heq : other = member
  · rw [if_pos heq] at hheld
    rwa [heq, hself]
  · rwa [if_neg heq] at hheld

/-- **A step** keeps the account. -/
theorem accounted_step (settings : Settings) (turn : Turn)
    (h : turn.Accounted others held member) :
    (turn.step settings).turn.Accounted others held member := by
  unfold Accounted at h ⊢
  cases asks_step settings turn with
  | idle hqueue hload =>
      rw [hqueue]
      refine h.release fun other load hheld => ?_
      by_cases heq : other = member
      · rw [if_pos heq, hload] at hheld
        cases hheld
      · rwa [if_neg heq] at hheld ⊢
  | waiting key ticket hqueue hbefore hload =>
      rw [hqueue, hload, ← hbefore]
      exact h
  | asked key hqueue hphase =>
      have hasked := (h.request member key).perm List.perm_middle.symm
      rw [hqueue, hphase, LoadQueue.loads_request, List.append_assoc]
      refine hasked.release fun other load hheld => ?_
      by_cases heq : other = member
      · rwa [if_pos heq] at hheld ⊢
      · rw [if_neg heq] at hheld ⊢
        rwa [if_neg heq]

/-- While a load is under way and its content is not there, a drive changes nothing. -/
theorem drive_of_open {settings : Settings} {key : String} {ticket : Ticket}
    (hphase : turn.conn.phase = .resolving key (some ticket))
    (hopen : turn.hub.queue.isComplete ticket = false)
    (habsent : turn.hub.cache.contains key = false) : turn.drive settings = (.disk, turn) := by
  have hlookup := Hub.lookup_of_absent habsent
  have hresolve : turn.step settings = .on (turn.enter (.missed key (some ticket))) := by
    rw [step, hphase]
    simp only [Turn.resolve, hlookup]
  have hmiss : (turn.enter (.missed key (some ticket))).step settings = .rest .disk turn := by
    simp only [step, enter, Turn.miss, hopen]
    rw [← hphase]
    rfl
  rw [drive_of_on hresolve, drive_of_rest hmiss]

end Turn

/-- The load that is under way. -/
def Errand.load (errand : Errand) : String × Ticket := (errand.key, errand.ticket)

namespace Traffic

variable {traffic : Traffic} {member : Nat} {key : String} {ticket : Ticket}

/-- The loads that are queued or under way. -/
def carried (traffic : Traffic) : List (String × Ticket) :=
  traffic.hub.queue.loads ++ traffic.errands.map Errand.load

/-- The load that a connection waits for. -/
def held (traffic : Traffic) (member : Nat) : Option (String × Ticket) :=
  traffic.members[member]?.bind fun pair => pair.1.phase.load?

/-- The account of all connections, and of the loads that are queued or under way. -/
def Accounted (traffic : Traffic) : Prop := traffic.hub.queue.Accounted traffic.carried traffic.held

/-- A connection waits for a load. -/
def Waits (traffic : Traffic) (member : Nat) (key : String) (ticket : Ticket) : Prop :=
  ∃ conn wire, traffic.members[member]? = some (conn, wire) ∧
    conn.phase = .resolving key (some ticket)

/-- Who is to be sent a content that is under way waits for it. -/
theorem waits_of_phase (h : (traffic.members[member]?.map fun pair => pair.1.phase)
    = some (.resolving key (some ticket))) : traffic.Waits member key ticket := by
  obtain ⟨⟨conn, wire⟩, hmember, hphase⟩ := Option.map_eq_some_iff.1 h
  exact ⟨conn, wire, hmember, hphase⟩

/-- Who waits for a load holds its ticket. -/
theorem Waits.held (h : traffic.Waits member key ticket) :
    traffic.held member = some (key, ticket) := by
  obtain ⟨conn, wire, hmember, hphase⟩ := h
  rw [Traffic.held, hmember, Option.bind_some, hphase]
  rfl

/-- Where nobody has asked, the account is right. -/
theorem accounted_start (settings : Settings) (budget : Nat) :
    (start settings budget).Accounted :=
  LoadQueue.Accounted.empty.release fun who load hheld => by
    simp [Traffic.held, start] at hheld

namespace Accounted

/-- A connection that is opened waits for nothing. -/
theorem «open» (h : traffic.Accounted) (gathers corkFails : Bool) :
    (traffic.act (.open gathers corkFails)).Accounted := by
  refine h.release fun who load hheld => ?_
  rw [Traffic.held, act, Array.getElem?_push] at hheld
  by_cases heq : who = traffic.members.size
  · rw [if_pos heq] at hheld
    cases hheld
  · rwa [if_neg heq] at hheld

/-- What happens on a wire changes no connection. -/
theorem wire (h : traffic.Accounted) (number : Nat) (change : Wire.Change) :
    (traffic.act (.wire number change)).Accounted := by
  refine h.release fun who load hheld => ?_
  rw [Traffic.held, act, Array.getElem?_modify] at hheld
  rw [Traffic.held]
  split at hheld
  · rwa [Option.bind_map] at hheld
  · exact hheld

/-- A drive is made of steps. -/
theorem drive (h : traffic.Accounted) (member : Nat) :
    (traffic.act (.drive member)).Accounted := by
  rw [act, drive?]
  rcases hmember : traffic.members[member]? with _ | ⟨conn, wire⟩
  · exact h
  · have hself : traffic.held member = conn.phase.load? := by
      rw [Traffic.held, hmember]
      rfl
    have hturn : Turn.Accounted (traffic.errands.map Errand.load) traffic.held member
        ⟨conn, wire.renew, traffic.hub⟩ := Turn.accounted_of_held h hself
    have hdriven := Turn.invariant_drive
      (fun turn => Turn.accounted_step traffic.settings turn) _ hturn
    refine hdriven.release fun who load hheld => ?_
    simp only [Traffic.held, Option.map_some, Option.getD_some] at hheld
    by_cases heq : who = member
    · rw [if_pos heq]
      rw [heq, Array.getElem?_setIfInBounds_self, if_pos (Array.getElem?_eq_some_iff.1 hmember).1]
        at hheld
      exact hheld
    · rw [if_neg heq]
      rwa [Array.getElem?_setIfInBounds_ne (Ne.symm heq)] at hheld

/-- A load that is taken off the queue is under way. -/
theorem take (h : traffic.Accounted) : (traffic.act .take).Accounted := by
  rw [act, Traffic.take]
  rcases htake : traffic.hub.queue.take? with _ | ⟨task, queue⟩
  · exact h
  · have htaken := LoadQueue.Accounted.take h htake
    cases task with
    | stop => exact htaken
    | load key ticket =>
        refine htaken.perm (List.Perm.append_left queue.loads ?_)
        rw [List.map_append]
        exact List.perm_append_comm

/-- Publishing ends no load. -/
theorem publish (h : traffic.Accounted) (number : Nat) (content : Content) :
    (traffic.act (.publish number content)).Accounted := by
  rw [act, Traffic.publish]
  split
  · exact h
  · exact h

/-- A load that is marked is over. -/
theorem complete (h : traffic.Accounted) (number : Nat) :
    (traffic.act (.complete number)).Accounted := by
  rw [act, Traffic.complete]
  split
  · exact h
  · rename_i errand herrand
    obtain ⟨hlt, hget⟩ := List.getElem?_eq_some_iff.1 herrand
    -- The load that is marked comes first.
    have hperm : traffic.carried.Perm (errand.load ::
        (traffic.hub.queue.loads ++
          (traffic.errands.eraseIdx number).map Errand.load)) := by
      have hhand := (List.getElem_cons_eraseIdx_perm hlt).symm.map Errand.load
      rw [hget, List.map_cons] at hhand
      exact (hhand.append_left traffic.hub.queue.loads).trans List.perm_middle
    exact LoadQueue.Accounted.complete (h.perm hperm)

/-- **An action** keeps the account. -/
theorem act (h : traffic.Accounted) (action : Action) : (traffic.act action).Accounted := by
  cases action with
  | «open» gathers corkFails => exact h.open gathers corkFails
  | wire number change => exact h.wire number change
  | drive member => exact h.drive member
  | take => exact h.take
  | publish number content => exact h.publish number content
  | complete number => exact h.complete number

/-- A run keeps the account. -/
theorem run (h : traffic.Accounted) (actions : List Action) : (traffic.run actions).Accounted := by
  induction actions generalizing traffic with
  | nil => exact h
  | cons action actions ih => exact ih (h.act action)

end Accounted

/-! ### Drives that change nothing -/

/-- A connection whose load is under way, and whose content is not there, waits on. -/
theorem Waits.drive (h : traffic.Waits member key ticket)
    (hopen : traffic.hub.queue.isComplete ticket = false)
    (habsent : traffic.hub.cache.contains key = false) :
    (traffic.act (.drive member)).hub = traffic.hub ∧
      (traffic.act (.drive member)).Waits member key ticket := by
  obtain ⟨conn, wire, hmember, hphase⟩ := h
  have hturn : Turn.drive traffic.settings ⟨conn, wire.renew, traffic.hub⟩
      = (.disk, ⟨conn, wire.renew, traffic.hub⟩) := Turn.drive_of_open hphase hopen habsent
  have hlt := (Array.getElem?_eq_some_iff.1 hmember).1
  have hnext : traffic.act (.drive member) = { traffic with
      members := traffic.members.setIfInBounds member (conn, wire.renew) } := by
    rw [act, drive?, hmember, Option.map_some, Option.map_some, Option.getD_some]
    simp only [hturn]
  rw [hnext]
  refine ⟨rfl, conn, wire.renew, ?_, hphase⟩
  rw [Array.getElem?_setIfInBounds_self, if_pos hlt]

/-- Any number of drives of such a connection change nothing that is shared. -/
theorem Waits.hub_run (h : traffic.Waits member key ticket)
    (hopen : traffic.hub.queue.isComplete ticket = false)
    (habsent : traffic.hub.cache.contains key = false) (count : Nat) :
    (traffic.run (List.replicate count (.drive member))).hub = traffic.hub := by
  induction count generalizing traffic with
  | zero => rfl
  | succ count ih =>
      obtain ⟨hhub, hwaits⟩ := h.drive hopen habsent
      rw [List.replicate_succ, run_cons, ih hwaits (hhub ▸ hopen) (hhub ▸ habsent), hhub]

/-! ### Counting the loads of a request -/

/-- The connection under a number. -/
def conn? (traffic : Traffic) (member : Nat) : Option Connection :=
  traffic.members[member]?.map Prod.fst

/-- The course of the drive, if an action drives the connection. -/
def courses (traffic : Traffic) (member : Nat) : Action → List (List Turn)
  | .drive number =>
    if number = member then
      (traffic.members[member]?.map fun (conn, wire) =>
        Turn.course traffic.settings ⟨conn, wire.renew, traffic.hub⟩).toList
    else []
  | _ => []

/-- The drives of a connection in a run, each as its course. -/
def drives (traffic : Traffic) (member : Nat) : List Action → List (List Turn)
  | [] => []
  | action :: actions =>
    traffic.courses member action ++ (traffic.act action).drives member actions

/-- What an action is to a connection. -/
inductive Meets (traffic : Traffic) (member : Nat) (action : Action) : Prop where
  /-- The connection is driven. -/
  | driven (turn : Turn) (hbefore : traffic.conn? member = some turn.conn)
      (hcourses : traffic.courses member action = [turn.course traffic.settings])
      (hafter : (traffic.act action).conn? member = some (turn.drive traffic.settings).2.conn)
  /-- The connection is not touched. -/
  | kept (hcourses : traffic.courses member action = [])
      (hafter : (traffic.act action).conn? member = traffic.conn? member)
  /-- The connection is opened. -/
  | opened (hcourses : traffic.courses member action = [])
      (hbefore : traffic.conn? member = none)
      (hafter : (traffic.act action).conn? member = some .fresh)

/-- Opening a connection leaves the others. -/
theorem meets_open (traffic : Traffic) (member : Nat) (gathers corkFails : Bool) :
    traffic.Meets member (.open gathers corkFails) := by
  by_cases heq : member = traffic.members.size
  · refine .opened rfl ?_ ?_
    · simp [conn?, heq]
    · rw [conn?, act, Array.getElem?_push, if_pos heq]
      rfl
  · refine .kept rfl ?_
    rw [conn?, act, Array.getElem?_push, if_neg heq]
    rfl

/-- What happens on a wire leaves all connections. -/
theorem meets_wire (traffic : Traffic) (member number : Nat) (change : Wire.Change) :
    traffic.Meets member (.wire number change) := by
  refine .kept rfl ?_
  rw [conn?, act, Array.getElem?_modify]
  split
  · rw [Option.map_map]
    rfl
  · rfl

/-- Driving a connection leaves the others. -/
theorem meets_drive (traffic : Traffic) (member number : Nat) :
    traffic.Meets member (.drive number) := by
  by_cases heq : number = member
  · subst heq
    rcases hmember : traffic.members[number]? with _ | ⟨conn, wire⟩
    · refine .kept ?_ ?_
      · simp [courses, hmember]
      · simp [conn?, act, drive?, hmember]
    · have hlt := (Array.getElem?_eq_some_iff.1 hmember).1
      refine .driven ⟨conn, wire.renew, traffic.hub⟩ ?_ ?_ ?_
      · simp [conn?, hmember]
      · simp [courses, hmember]
      · rw [conn?, act, drive?, hmember, Option.map_some, Option.map_some, Option.getD_some,
          Array.getElem?_setIfInBounds_self, if_pos hlt]
        rfl
  · refine .kept (if_neg heq) ?_
    rw [conn?, act]
    rcases hdriven : traffic.drive? number with _ | ⟨need, next⟩
    · rfl
    · rw [Option.map_some, Option.getD_some, members_drive? hdriven (Ne.symm heq)]
      rfl

/-- **What an action is** to a connection. -/
theorem meets_act (traffic : Traffic) (member : Nat) (action : Action) :
    traffic.Meets member action := by
  cases action with
  | «open» gathers corkFails => exact meets_open traffic member gathers corkFails
  | wire number change => exact meets_wire traffic member number change
  | drive number => exact meets_drive traffic member number
  | take =>
      refine .kept rfl ?_
      rw [conn?, act, take]
      split <;> rfl
  | publish number content =>
      refine .kept rfl ?_
      rw [conn?, act, publish]
      split <;> rfl
  | complete number =>
      refine .kept rfl ?_
      rw [conn?, act, complete]
      split <;> rfl

/-- In a run a connection is driven from where its last drive has left it. -/
theorem driven_drives (traffic : Traffic) (member : Nat) (actions : List Action) :
    ((traffic.conn? member).getD .fresh).Driven traffic.settings
      (traffic.drives member actions) := by
  induction actions generalizing traffic with
  | nil => exact .nil _
  | cons action actions ih =>
      have hrest := ih (traffic.act action)
      rw [show (traffic.act action).settings = traffic.settings from
        settings_happen traffic (.act action)] at hrest
      rw [drives]
      cases traffic.meets_act member action with
      | driven turn hbefore hcourses hafter =>
          rw [hafter, Option.getD_some] at hrest
          rw [hcourses, hbefore]
          exact .cons turn hrest
      | kept hcourses hafter =>
          rw [hafter] at hrest
          rwa [hcourses]
      | opened hcourses hbefore hafter =>
          rw [hafter] at hrest
          rwa [hcourses, hbefore]

/-- An action in which a drive has no more than so many steps: the course of the drive, if it is one
of the connection, and what the action leads to. -/
def act? (count member : Nat) (traffic : Traffic) : Action → Option (List (List Turn) × Traffic)
  | .drive number =>
    match traffic.members[number]? with
    | none => some ([], traffic)
    | some (conn, wire) =>
      (Turn.drive? traffic.settings count ⟨conn, wire.renew, traffic.hub⟩).map
        fun (course, _, turn) =>
          (if number = member then [course] else [],
            { traffic with
              hub := turn.hub
              members := traffic.members.setIfInBounds number (turn.conn, turn.wire) })
  | action => some ([], traffic.act action)

/-- A run of such actions. -/
def run? (count member : Nat) : List Action → Traffic → Option (List (List Turn) × Traffic)
  | [], traffic => some ([], traffic)
  | action :: actions, traffic =>
    (traffic.act? count member action).bind fun (first, next) =>
      (run? count member actions next).map fun (rest, last) => (first ++ rest, last)

/-- Such an action is the whole one. -/
theorem eq_of_act? {count : Nat} {action : Action} {courses : List (List Turn)} {next : Traffic}
    (h : traffic.act? count member action = some (courses, next)) :
    traffic.courses member action = courses ∧ traffic.act action = next := by
  cases action with
  | drive number =>
      rw [act, Traffic.drive?, Traffic.courses]
      rw [act?] at h
      rcases hmember : traffic.members[number]? with _ | ⟨conn, wire⟩
      · rw [hmember] at h
        obtain ⟨rfl, rfl⟩ := Prod.mk.inj (Option.some.inj h)
        refine ⟨?_, rfl⟩
        split
        · rename_i heq
          rw [← heq, hmember]
          rfl
        · rfl
      · rw [hmember] at h
        obtain ⟨⟨course, need, last⟩, hcourse, heq⟩ := Option.map_eq_some_iff.1 h
        obtain ⟨hsame, hdrive⟩ := Turn.eq_of_drive? hcourse
        obtain ⟨rfl, rfl⟩ := Prod.mk.inj heq
        refine ⟨?_, ?_⟩
        · split
          · rename_i heq
            rw [← heq, hmember]
            exact congrArg (fun found => [found]) hsame
          · rfl
        · simp only [Option.map_some, Option.getD_some, hdrive]
  | _ =>
      obtain ⟨rfl, rfl⟩ := Prod.mk.inj (Option.some.inj h)
      exact ⟨rfl, rfl⟩

/-- Such a run is the whole run. -/
theorem eq_of_run? {count : Nat} {actions : List Action} {courses : List (List Turn)}
    {last : Traffic} (h : run? count member actions traffic = some (courses, last)) :
    traffic.drives member actions = courses ∧ traffic.run actions = last := by
  induction actions generalizing traffic courses with
  | nil =>
      obtain ⟨rfl, rfl⟩ := Prod.mk.inj (Option.some.inj h)
      exact ⟨rfl, rfl⟩
  | cons action actions ih =>
      obtain ⟨⟨first, next⟩, hfirst, hothers⟩ := Option.bind_eq_some_iff.1 h
      obtain ⟨⟨rest, _⟩, hrest, heq⟩ := Option.map_eq_some_iff.1 hothers
      obtain ⟨rfl, rfl⟩ := Prod.mk.inj heq
      obtain ⟨hcourses, rfl⟩ := eq_of_act? hfirst
      obtain ⟨hdrives, hlast⟩ := ih hrest
      exact ⟨by rw [drives, hcourses, hdrives], hlast⟩

/-- **The account of a run.** In every state that a run leads to, no two connections wait with one
ticket. A ticket that is waited for is carried by one load, for the same key, that is queued or
under way, unless it is complete, and then by none. While it is not complete and the content is not
there, drives of the connection change nothing that is shared. And for a request, no load is ever
asked for if its first lookup finds the content; otherwise one is, and one more by each later drive
that finds the load done and the content gone. -/
theorem account_of_run (settings : Settings) (budget : Nat) (actions : List Action) :
    let traffic := (start settings budget).run actions
    (∀ member other key name ticket, traffic.Waits member key ticket →
      traffic.Waits other name ticket → member = other) ∧
    (∀ member key ticket, traffic.Waits member key ticket →
      (traffic.hub.queue.isComplete ticket = false →
        (traffic.carried.filter fun load => load.2 = ticket) = [(key, ticket)]) ∧
      (traffic.hub.queue.isComplete ticket = true →
        (traffic.carried.filter fun load => load.2 = ticket) = []) ∧
      (traffic.hub.queue.isComplete ticket = false → traffic.hub.cache.contains key = false →
        ∀ count, (traffic.run (List.replicate count (.drive member))).hub = traffic.hub)) ∧
    ∀ member number,
      let drives := (start settings budget).drives member actions
      Turn.loads settings number drives.flatten =
        if Turn.hit? number drives.flatten = some false then 1 + Turn.lapses number drives
        else 0 := by
  have haccount := (accounted_start settings budget).run actions
  refine ⟨?_, ?_, ?_⟩
  · intro member other key name ticket hone htwo
    exact haccount.held_distinct member other _ _ hone.held htwo.held rfl
  · intro member key ticket hwaits
    refine ⟨haccount.carried_once hwaits.held, haccount.carried_none, ?_⟩
    intro hopen habsent count
    exact hwaits.hub_run hopen habsent count
  · intro member number
    have hdriven := driven_drives (start settings budget) member actions
    exact hdriven.loads_eq (by simp [conn?, start, Connection.Ahead, Connection.fresh]; omega)

/-- Two connections ask for the same content. The load of the first is marked and nothing was
published, so that it asks again. -/
def rivals : List Action :=
  [.open true false, .open true false,
   .wire 0 (.arrive (.bytes (Text.encode "/a\n"))), .wire 1 (.arrive (.bytes (Text.encode "/a\n"))),
   .drive 0, .drive 1, .take, .complete 0, .drive 0]

/-- The first connection has asked twice, as its first load has lapsed, and its second load is the
only one that carries its ticket. -/
theorem account_of_run_rivals :
    let traffic := (start ⟨[], true, false⟩ 100).run rivals
    traffic.Waits 0 "a" ⟨2⟩ ∧ traffic.Waits 1 "a" ⟨1⟩ ∧
      (traffic.carried.filter fun load => load.2 = ⟨2⟩) = [("a", ⟨2⟩)] ∧
      Turn.loads ⟨[], true, false⟩ 0
        ((start ⟨[], true, false⟩ 100).drives 0 rivals).flatten = 2 := by
  have hrun : (run? 5 0 rivals (start ⟨[], true, false⟩ 100)).map
      (fun (courses, last) => (last.members[0]?.map fun pair => pair.1.phase,
        last.members[1]?.map fun pair => pair.1.phase, last.hub.queue.isComplete ⟨2⟩,
        Turn.hit? 0 courses.flatten, Turn.lapses 0 courses))
        = some (some (.resolving "a" (some ⟨2⟩)), some (.resolving "a" (some ⟨1⟩)), false,
          some false, 1) := by
    decide +kernel
  obtain ⟨⟨courses, last⟩, hwhole, hfacts⟩ := Option.map_eq_some_iff.1 hrun
  simp only [Prod.mk.injEq] at hfacts
  obtain ⟨hone, htwo, hopen, hhit, hlapses⟩ := hfacts
  obtain ⟨rfl, rfl⟩ := eq_of_run? hwhole
  obtain ⟨-, hcarried, hloads⟩ := account_of_run ⟨[], true, false⟩ 100 rivals
  have hwaits := waits_of_phase hone
  refine ⟨hwaits, waits_of_phase htwo, (hcarried 0 "a" ⟨2⟩ hwaits).1 hopen, ?_⟩
  rw [hloads 0 0, hhit, hlapses, if_pos rfl]

end Traffic

end FileServer
