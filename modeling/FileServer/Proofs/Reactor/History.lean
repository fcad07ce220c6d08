import FileServer.Proofs.Connection.Books
import FileServer.Proofs.Reactor.Past
import FileServer.Proofs.Reactor.Routing

/-!
# What happens along a run

`History` is what can be read off the strokes of a run: the connections that came in and those that
were closed, the targets that were refused and the loads that were put into the queue.

Nobody is lost in between. The connections that are open and those that were closed stand on the
sockets of those that came in, each on its own, and on no other socket was anything done
(`attended_history`). A client that was dismissed is among none of them, and neither is one that
waits still.
-/

namespace FileServer

/-- A connection that was closed. -/
structure Departure where
  /-- The connection as it was before. -/
  found : Connection
  /-- The number of its socket. -/
  socket : Nat
  /-- What its last drive ended with; nothing if it was closed for an error event. -/
  ending : Option (Need × Turn)

namespace Departure

/-- The connection as it was when it was closed. -/
def last (departure : Departure) : Connection :=
  (departure.ending.map fun ending => ending.2.conn).getD departure.found

/-- A response was being sent. -/
def cutsOff (departure : Departure) : Bool := departure.found.phase.isSending

/-- How a connection can be closed that is sending a response, where `refusals` says which watches
cannot be armed. -/
inductive Cause (refusals : List Bool) : Departure → Prop where
  /-- For an error event. -/
  | event (found : Connection) (socket : Nat) : Cause refusals ⟨found, socket, none⟩
  /-- A write has failed or taken nothing. -/
  | write {found : Connection} {socket : Nat} {turn : Turn} {call : Call} {earlier : List Call}
      (hfatal : Turn.Fatal call) (hlog : turn.wire.log = call :: earlier) :
      Cause refusals ⟨found, socket, some (.close, turn)⟩
  /-- There is no room, and the watch for it cannot be armed. -/
  | watch {found : Connection} {socket : Nat} {turn : Turn} (hrefused : true ∈ refusals) :
      Cause refusals ⟨found, socket, some (.output, turn)⟩

/-- What is caused by a refusal is so where more is refused. -/
theorem Cause.mono {departure : Departure} {refusals others : List Bool}
    (h : departure.Cause refusals) (hsubset : refusals ⊆ others) : departure.Cause others := by
  cases h with
  | event found socket => exact .event found socket
  | write hfatal hlog => exact .write hfatal hlog
  | watch hrefused => exact .watch (hsubset hrefused)

end Departure

/-- What has happened in the course of a run. -/
@[ext]
structure History where
  /-- The sockets of the connections that came in. -/
  accepted : List Nat := []
  /-- The connections that were closed. -/
  departed : List Departure := []
  /-- The targets that were refused, with the status that this was answered with. -/
  refused : List Http.Status := []
  /-- The loads that were put into the queue. -/
  asked : List (String × Ticket) := []

instance : Append History where
  append past more :=
    ⟨past.accepted ++ more.accepted, past.departed ++ more.departed,
      past.refused ++ more.refused, past.asked ++ more.asked⟩

namespace History

/-- What happens first does not matter for what happens in all. -/
theorem append_assoc (past more last : History) :
    past ++ more ++ last = past ++ (more ++ last) := by
  apply History.ext <;> exact List.append_assoc _ _ _

/-- Where nothing happens any more, it stays at what has happened. -/
theorem append_empty (past : History) : past ++ {} = past := by
  apply History.ext <;> exact List.append_nil _

end History

namespace Threads

variable {initial state next : Threads} {past : History} {action : Action} {key socket : Nat}
  {slot : Slot}

/-! ### What is read off a stroke -/

/-- What the drive of a connection ends with in the next stroke. -/
def ending? (state : Threads) (key : Nat) (slot : Slot) : Option (Need × Turn) :=
  if state.thread.driven? = some key then
    match (state.reactor.turn slot).step state.reactor.settings with
    | .on _ => none
    | .rest need turn => some (need, turn)
  else none

/-- The sockets of the connections that come in with a stroke. -/
def arrivals (state next : Threads) : List Nat :=
  ((next.reactor.conns.keysBeside state.reactor.conns).filterMap next.reactor.conns.get?).map
    Slot.socket

/-- The connections that are closed in a stroke. -/
def departures (state next : Threads) : List Departure :=
  (state.reactor.conns.keysBeside next.reactor.conns).filterMap fun key =>
    (state.reactor.conns.get? key).map fun slot => ⟨slot.conn, slot.socket, state.ending? key slot⟩

/-- The refusal of a target that begins in a stroke. -/
def refusal? (state : Threads) : Action → Option Http.Status
  | .reactor _ => state.thread.driven?.bind fun key =>
    (state.reactor.conns.get? key).bind fun slot =>
      (state.reactor.turn slot).refusal? state.reactor.settings
  | _ => none

/-- What happens in a stroke. The loads that are put into the queue stand behind those that were
there. -/
def record (state : Threads) (action : Action) (next : Threads) : History where
  accepted := state.arrivals next
  departed := state.departures next
  refused := (state.refusal? action).toList
  asked := next.reactor.shop.hub.queue.loads.drop state.reactor.shop.hub.queue.loads.length

/-- What happens along a sequence of strokes. -/
def history (state : Threads) : List Action → History
  | [] => {}
  | action :: actions =>
    match state.act action with
    | none => {}
    | some next => state.record action next ++ next.history actions

/-- The connections that are closed leave their sockets. -/
theorem map_socket_departures (state next : Threads) :
    (state.departures next).map Departure.socket
      = ((state.reactor.conns.keysBeside next.reactor.conns).filterMap
          state.reactor.conns.get?).map Slot.socket := by
  rw [departures, List.map_filterMap, List.map_filterMap]
  refine List.filterMap_congr fun key _ => ?_
  cases state.reactor.conns.get? key <;> rfl

/-- The socket of a connection that comes in. -/
theorem mem_arrivals : socket ∈ state.arrivals next ↔ ∃ key slot,
    state.reactor.conns.get? key = none ∧ next.reactor.conns.get? key = some slot ∧
      slot.socket = socket := by
  rw [arrivals, List.map_filterMap, List.mem_filterMap]
  constructor
  · rintro ⟨key, hkey, hsome⟩
    obtain ⟨slot, hslot, hsocket⟩ := Option.map_eq_some_iff.1 hsome
    exact ⟨key, slot, (Slab.mem_keysBeside.1 hkey).2, hslot, hsocket⟩
  · rintro ⟨key, slot, hnone, hslot, hsocket⟩
    refine ⟨key, Slab.mem_keysBeside.2 ⟨by rw [hslot]; rfl, hnone⟩, ?_⟩
    rw [hslot, Option.map_some, hsocket]

/-- No two connections come in on one socket. -/
theorem nodup_arrivals (howned : next.Owned) : (state.arrivals next).Nodup := by
  rw [arrivals, List.map_filterMap, List.Nodup, List.pairwise_filterMap]
  refine (Slab.nodup_keysBeside _ _).imp fun {key other} hne => ?_
  rintro socket hsocket _ hother rfl
  obtain ⟨slot, hslot, hsame⟩ := Option.map_eq_some_iff.1 hsocket
  obtain ⟨rival, hrival, hrest⟩ := Option.map_eq_some_iff.1 hother
  exact hne (howned.distinct key other slot rival hslot hrival (hsame.trans hrest.symm))

/-- **Whoever is there or has gone** in a stroke was there before or has come in. -/
theorem sockets_perm (hmoved : Moved state next) :
    (next.reactor.conns.values.map Slot.socket
        ++ (state.departures next).map Departure.socket).Perm
      (state.reactor.conns.values.map Slot.socket ++ state.arrivals next) := by
  rw [map_socket_departures]
  exact Slab.values_append_perm _ _ Slot.socket hmoved.socket

/-! ### What is done on a socket -/

/-- One step in the drive of a connection does something on its socket alone. -/
theorem past_stepDrive (state : Threads) (key : Nat) (again after : Thread) :
    (state.stepDrive key again after).reactor.past = state.reactor.past ∨
      ∃ other slot done, state.reactor.conns.get? other = some slot ∧
        (state.stepDrive key again after).reactor.past
          = state.reactor.past.modify slot.socket fun _ => done := by
  rcases hslot : state.reactor.conns.get? key with _ | slot
  · rw [stepDrive, hslot]
    exact Or.inl rfl
  · have hdriven := driven_stepDrive hslot again after
    generalize state.stepDrive key again after = next at hdriven ⊢
    refine Or.inr ⟨key, slot, ?_⟩
    cases hdriven with
    | on => exact ⟨_, hslot, Reactor.past_putBack state.reactor key slot _⟩
    | rest => exact ⟨_, hslot, Reactor.past_conclude state.reactor key slot _ _⟩

/-- A stroke of the reactor does something on the socket of one connection at most. -/
theorem past_struck (h : Struck state next) : next.reactor.past = state.reactor.past ∨
    ∃ key slot done, state.reactor.conns.get? key = some slot ∧
      next.reactor.past = state.reactor.past.modify slot.socket fun _ => done := by
  cases h with
  | accept => exact Or.inl state.reactor.accepted_acceptAll.past
  | @fail event batch signalled key => exact Or.inl (Reactor.past_close state.reactor key)
  | @begin event batch signalled key slot => exact Or.inl (Reactor.past_renew state.reactor slot)
  | revive => exact Or.inl (Reactor.past_renew _ _)
  | serve => exact past_stepDrive state _ _ _
  | reviving => exact past_stepDrive state _ _ _
  | check | wait | handled | hear | skip | drain | revived | pass => exact Or.inl rfl

/-- What is done on a socket is done for the connection that stands on it. -/
theorem past_act {done : List Call × Bytes} (h : state.act action = some next)
    (hdone : next.reactor.past[socket]? = some done)
    (hnobody : ∀ key slot, state.reactor.conns.get? key = some slot → slot.socket ≠ socket) :
    state.reactor.past[socket]? = some done ∨ done = ([], []) := by
  have hreactor : Struck state next → state.reactor.past[socket]? = some done := by
    intro hstruck
    rcases past_struck hstruck with hsame | ⟨key, slot, _, hslot, hmodify⟩
    · rwa [← hsame]
    · rwa [hmodify, List.getElem?_modify_ne _ _ (hnobody key slot hslot)] at hdone
  cases action with
  | reactor most => exact Or.inl (hreactor (struck_of_strike h))
  | interrupt most => exact Or.inl (hreactor (struck_of_interrupt h))
  | worker number content =>
      obtain ⟨_, -, rfl⟩ := Option.map_eq_some_iff.1 h
      exact Or.inl hdone
  | connect =>
      obtain rfl := Option.some.inj h
      rw [Reactor.past_connect, List.getElem?_append] at hdone
      split at hdone
      · exact Or.inl hdone
      · exact Or.inr (List.mem_singleton.1 (List.mem_of_getElem? hdone))
  | client number act =>
      obtain rfl := Option.some.inj h
      rw [Reactor.past_client] at hdone
      exact Or.inl hdone
  | setFlag =>
      obtain rfl := Option.some.inj h
      exact Or.inl hdone
  | signal =>
      obtain ⟨-, hnext⟩ := Option.ite_none_right_eq_some.1 h
      obtain rfl := Option.some.inj hnext
      exact Or.inl hdone

/-! ### Runs -/

/-- Everybody is accounted for after what has happened. -/
structure Attended (state : Threads) (past : History) : Prop where
  /-- Whoever came in is there or has gone. -/
  perm : (state.reactor.conns.values.map Slot.socket ++ past.departed.map Departure.socket).Perm
    past.accepted
  /-- Nobody came in twice. -/
  nodup : past.accepted.Nodup
  /-- Whoever came in does not wait to be accepted. -/
  settled : ∀ socket ∈ past.accepted, state.reactor.Settled socket
  /-- On all other sockets nothing was done. -/
  untouched : ∀ socket done, socket ∉ past.accepted → state.reactor.past[socket]? = some done →
    done = ([], [])

/-- **A stroke** leaves everybody accounted for. -/
theorem Attended.act (h : state.Attended past) (howned : state.Owned)
    (hact : state.act action = some next) : next.Attended (past ++ state.record action next) := by
  have hmoved := moved_of_step (howned.step hact)
  have hnext := howned.act hact
  constructor
  case perm =>
    show (next.reactor.conns.values.map Slot.socket
        ++ (past.departed ++ state.departures next).map Departure.socket).Perm
      (past.accepted ++ state.arrivals next)
    have hstroke := (sockets_perm hmoved).append_right (past.departed.map Departure.socket)
    rw [List.append_assoc, List.append_assoc] at hstroke
    rw [List.map_append]
    refine (List.perm_append_comm.append_left _).trans (hstroke.trans ?_)
    refine (List.perm_append_comm.append_left _).trans ?_
    rw [← List.append_assoc]
    exact h.perm.append_right _
  case nodup =>
    refine List.nodup_append.2 ⟨h.nodup, nodup_arrivals hnext, ?_⟩
    rintro socket hold _ hnew rfl
    obtain ⟨key, slot, hnone, hslot, rfl⟩ := mem_arrivals.1 hnew
    exact (h.settled _ hold).2 (hmoved.fresh key slot hnone hslot)
  case settled =>
    intro socket hmem
    rcases List.mem_append.1 hmem with hold | hnew
    · exact hmoved.settled socket (h.settled socket hold)
    · obtain ⟨key, slot, -, hslot, rfl⟩ := mem_arrivals.1 hnew
      exact hnext.accepted key slot hslot
  case untouched =>
    intro socket done hnot hdone
    have hold : socket ∉ past.accepted := fun hmem => hnot (List.mem_append_left _ hmem)
    refine (past_act hact hdone ?_).elim (h.untouched socket done hold) id
    rintro key slot hslot rfl
    refine hold (h.perm.subset (List.mem_append_left _ (List.mem_map_of_mem ?_)))
    exact List.mem_filterMap.2 ⟨key, Slab.mem_keys.2 (by rw [hslot]; rfl), hslot⟩

/-- **Along a run** everybody is accounted for. -/
theorem Attended.follow {actions : List Action} (h : state.Attended past) (howned : state.Owned)
    (hfollow : state.follow actions = some next) :
    next.Attended (past ++ state.history actions) := by
  induction actions generalizing state past with
  | nil =>
      obtain rfl := Option.some.inj hfollow
      rwa [history, History.append_empty]
  | cons action actions ih =>
      obtain ⟨middle, hact, hrest⟩ := Option.bind_eq_some_iff.1 hfollow
      rw [history, hact]
      have hlast := ih (h.act howned hact) (howned.act hact) hrest
      rwa [History.append_assoc] at hlast

end Threads

end FileServer
