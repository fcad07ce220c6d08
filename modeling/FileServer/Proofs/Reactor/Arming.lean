import FileServer.Proofs.Connection.Contract
import FileServer.Proofs.Reactor.Owners
import FileServer.Proofs.Reactor.Past

/-!
# What watches are armed for

A connection that is not being driven is as its last drive has left it, or was never driven. So it
is blocked on what its phase needs (`Turn.Rests`), whatever has become of its watch. As an armed
watch waits for just that, the reactor never waits for input of a connection that has any left to
handle, nor for room on one that was not refused it (`contract_kept`).
-/

namespace FileServer

/-- What a connection needs if it is watched for this. -/
def Interest.need : Interest → Need
  | .readable => .input
  | .writable => .output

namespace Turn

variable {turn next : Turn} {earlier : Wire} {need : Need}

/-- Only the connection and the calls on its wire matter. -/
theorem Blocked.congr (h : turn.Blocked earlier need) (hconn : next.conn = turn.conn)
    (hcalls : next.wire.log = turn.wire.log) : next.Blocked earlier need := by
  have hsince : earlier.callsSince next.wire = earlier.callsSince turn.wire := by
    rw [Wire.callsSince, Wire.callsSince, hcalls]
  cases h with
  | input hphase hring hdone hcall =>
      rw [← hconn] at hphase hring hdone
      exact .input hphase hring hdone (hsince ▸ hcall)
  | output hphase hleft hcall =>
      rw [← hconn] at hphase
      exact .output hphase hleft (hsince ▸ hcall)
  | disk hphase => exact .disk (hconn ▸ hphase)
  | close hphase => exact .close (hconn ▸ hphase)

/-- The connection was never driven, or it is blocked on something. -/
def Rests (turn : Turn) : Prop :=
  turn.conn = .fresh ∧ turn.wire.log = [] ∨ ∃ need, need ≠ .close ∧ turn.Blocked .fresh need

/-- Only the connection and the calls on its wire matter. -/
theorem Rests.congr (h : turn.Rests) (hconn : next.conn = turn.conn)
    (hcalls : next.wire.log = turn.wire.log) : next.Rests := by
  rcases h with ⟨hfresh, hnone⟩ | ⟨need, hopen, hblocked⟩
  · exact Or.inl ⟨hconn.trans hfresh, hcalls.trans hnone⟩
  · exact Or.inr ⟨need, hopen, hblocked.congr hconn hcalls⟩

/-- A connection at rest is in a phase in which drives end. -/
theorem Rests.settled (h : turn.Rests) : turn.conn.Settled := by
  rcases h with ⟨hfresh, -⟩ | ⟨need, -, hblocked⟩
  · rw [hfresh]
    exact Or.inl rfl
  · exact Connection.settled_of_blocked hblocked

/-- A connection at rest that is watched for what its phase needs is blocked on it. -/
theorem Rests.blocked {interest : Interest} (h : turn.Rests)
    (hfits : interest.Fits turn.conn.phase) :
    turn.conn = .fresh ∧ turn.wire.log = [] ∨ turn.Blocked .fresh interest.need := by
  rcases h with hfresh | ⟨need, hopen, hblocked⟩
  · exact Or.inl hfresh
  · refine Or.inr ?_
    cases interest with
    | readable =>
        have hreading : turn.conn.phase = .reading := hfits
        cases hblocked with
        | input hphase hring hdone hcall => exact .input hphase hring hdone hcall
        | output hphase => cases hphase.symm.trans hreading
        | disk hphase => cases hphase.symm.trans hreading
        | close => exact absurd rfl hopen
    | writable =>
        obtain ⟨out, hsending⟩ := hfits
        cases hblocked with
        | input hphase => cases hphase.symm.trans hsending
        | output hphase hleft hcall => exact .output hphase hleft hcall
        | disk hphase => cases hphase.symm.trans hsending
        | close => exact absurd rfl hopen

end Turn

namespace Reactor

variable {reactor next : Reactor} {key other : Nat} {slot after : Slot} {need : Need}

/-- The calls in which a drive begins are the last that were made on the socket. -/
theorem log_turn (reactor : Reactor) (slot : Slot) :
    (reactor.turn slot).wire.log = (reactor.past[slot.socket]?.map Prod.fst).getD [] := by
  by_cases hlt : slot.socket < reactor.network.sockets.size
  · rw [past_turn hlt]
    rfl
  · have hnone : reactor.network.sockets[slot.socket]? = none :=
      Array.getElem?_eq_none (Nat.not_lt.1 hlt)
    rw [turn, past, List.getElem?_map, Array.getElem?_toList, hnone]
    rfl

/-- Where a connection has neither changed nor made a call it rests as before. -/
theorem rests_of_eq (h : (reactor.turn slot).Rests) (hconn : after.conn = slot.conn)
    (hsocket : after.socket = slot.socket)
    (hpast : next.past[slot.socket]? = reactor.past[slot.socket]?) :
    (next.turn after).Rests := by
  refine h.congr hconn ?_
  rw [log_turn, log_turn, hsocket, hpast]

/-- A connection that is open after its watch was to be armed is as before. -/
theorem conns_watch (reactor : Reactor) (slot : Slot) (interest : Interest)
    (hafter : (reactor.watch key slot interest).conns.get? key = some after) :
    reactor.conns.get? key = some after := by
  unfold watch at hafter
  simp only at hafter
  split at hafter
  · exact hafter
  · rw [get?_close, if_pos rfl] at hafter
    cases hafter

/-- A connection that gets what it needs is the same after it, and open if it is not to be
closed. -/
theorem conn_provide (hafter : (reactor.provide key need).conns.get? key = some after) :
    need ≠ .close ∧ ∃ slot, reactor.conns.get? key = some slot ∧ after.conn = slot.conn ∧
      after.socket = slot.socket := by
  unfold provide at hafter
  rcases hslot : reactor.conns.get? key with _ | slot
  · rw [hslot] at hafter
    cases hslot.symm.trans hafter
  · rw [hslot] at hafter
    cases need with
    | input =>
        obtain rfl := Option.some.inj
          (hslot.symm.trans (conns_watch reactor slot .readable hafter))
        exact ⟨Need.noConfusion, slot, rfl, rfl, rfl⟩
    | output =>
        obtain rfl := Option.some.inj
          (hslot.symm.trans (conns_watch reactor slot .writable hafter))
        exact ⟨Need.noConfusion, slot, rfl, rfl, rfl⟩
    | disk =>
        have hself := (Slab.get?_modify_of_get? hslot ({ · with parked := true }) key).symm.trans
          hafter
        rw [if_pos rfl] at hself
        obtain rfl := Option.some.inj hself
        exact ⟨Need.noConfusion, slot, rfl, rfl, rfl⟩
    | close =>
        have hnone := get?_close reactor key key
        rw [if_pos rfl] at hnone
        cases hnone.symm.trans hafter

/-- A connection that is open after its drive is as the drive has left it. -/
theorem conn_conclude {turn : Turn} (hslot : reactor.conns.get? key = some slot)
    (hafter : (reactor.conclude key slot need turn).conns.get? key = some after) :
    need ≠ .close ∧ after.conn = turn.conn ∧ after.socket = slot.socket := by
  obtain ⟨hopen, before, hbefore, hconn, hsocket⟩ := conn_provide hafter
  have hself := (Slab.get?_modify_of_get? hslot ({ · with conn := turn.conn }) key).symm.trans
    hbefore
  rw [if_pos rfl] at hself
  obtain rfl := Option.some.inj hself
  exact ⟨hopen, hconn, hsocket⟩

end Reactor

namespace Threads

variable {initial state next : Threads} {key : Nat} {slot : Slot}

/-- Every connection that is not being driven is at rest, and nothing was done for a client that is
not accepted. -/
structure Rested (state : Threads) : Prop where
  /-- Connections that are not being driven are at rest. -/
  rests : ∀ key slot, state.reactor.conns.get? key = some slot →
    state.thread.driven? ≠ some key → (state.reactor.turn slot).Rests
  /-- Nothing was done on the sockets in the backlog. -/
  backlog : ∀ socket ∈ state.reactor.network.backlog,
    state.reactor.past[socket]? = some ([], [])

/-- At first there is no connection. -/
theorem rested_opening (settings : Settings) (noDelay : Bool) (hub : Hub) (refusals : Refusals)
    (workers : Nat) : (opening settings noDelay hub refusals workers).Rested where
  rests key slot hslot := by
    rw [show (opening settings noDelay hub refusals workers).reactor.conns = .empty from rfl,
      Slab.get?_empty] at hslot
    cases hslot
  backlog _ hmem := absurd hmem List.not_mem_nil

/-- A stroke in which no connection changes and no call is made. -/
theorem Rested.still (h : state.Rested)
    (hconns : ∀ key after, next.reactor.conns.get? key = some after →
      ∃ slot, state.reactor.conns.get? key = some slot ∧ after.conn = slot.conn ∧
        after.socket = slot.socket)
    (hpast : next.reactor.past = state.reactor.past)
    (hbacklog : next.reactor.network.backlog = state.reactor.network.backlog)
    (hdriving : ∀ key, next.thread.driven? ≠ some key → state.thread.driven? ≠ some key) :
    next.Rested where
  rests key after hafter hnot := by
    obtain ⟨slot, hslot, hconn, hsocket⟩ := hconns key after hafter
    exact Reactor.rests_of_eq (h.rests key slot hslot (hdriving key hnot)) hconn hsocket
      (by rw [hpast])
  backlog := by
    rw [hpast, hbacklog]
    exact h.backlog

/-- A stroke that leaves the connections as they are. -/
theorem Rested.of_eq (h : state.Rested) (hconns : next.reactor.conns = state.reactor.conns)
    (hpast : next.reactor.past = state.reactor.past)
    (hbacklog : next.reactor.network.backlog = state.reactor.network.backlog)
    (hdriving : ∀ key, next.thread.driven? ≠ some key → state.thread.driven? ≠ some key) :
    next.Rested :=
  h.still (fun _ after hafter => ⟨after, hconns ▸ hafter, rfl, rfl⟩) hpast hbacklog hdriving

/-- Where no connection is driven, none can be. -/
theorem not_driving {thread : Thread} (hthread : state.thread = thread)
    (hnone : thread.driven? = none) (key : Nat) : state.thread.driven? ≠ some key := by
  rw [hthread, hnone]
  exact (Option.some_ne_none key).symm

/-- A stroke in the drive of a connection, which leaves the others and their sockets. -/
theorem Rested.driven {held parked : List Nat} (turn : Turn) (h : state.Rested)
    (howned : state.reactor.Owned held parked) (hslot : state.reactor.conns.get? key = some slot)
    (hdriving : state.thread.driven? = some key)
    (hothers : ∀ other, other ≠ key →
      next.reactor.conns.get? other = state.reactor.conns.get? other)
    (hpast : next.reactor.past
      = state.reactor.past.modify slot.socket fun _ => (turn.wire.log, turn.wire.output))
    (hbacklog : next.reactor.network.backlog = state.reactor.network.backlog)
    (hself : ∀ after, next.reactor.conns.get? key = some after →
      next.thread.driven? ≠ some key → (next.reactor.turn after).Rests) : next.Rested := by
  have hapart : ∀ socket, socket ≠ slot.socket →
      next.reactor.past[socket]? = state.reactor.past[socket]? := by
    intro socket hne
    rw [hpast, List.getElem?_modify_ne _ _ (Ne.symm hne)]
  constructor
  · intro other after hafter hnot
    by_cases hother : other = key
    · subst hother
      exact hself after hafter hnot
    · have hbefore := (hothers other hother).symm.trans hafter
      have hne : after.socket ≠ slot.socket := by
        intro hsame
        exact hother (howned.distinct other key after slot hbefore hslot hsame)
      have hidle : state.thread.driven? ≠ some other := by
        rw [hdriving]
        intro hsame
        exact hother (Option.some.inj hsame).symm
      exact Reactor.rests_of_eq (h.rests other after hbefore hidle) rfl rfl (hapart _ hne)
  · intro socket hmem
    rw [hbacklog] at hmem
    have hne : socket ≠ slot.socket := by
      rintro rfl
      exact (howned.accepted key slot hslot).2 hmem
    rw [hapart socket hne]
    exact h.backlog socket hmem

/-- One step in the drive of a connection. -/
theorem Rested.stepDrive {held parked : List Nat} {again after : Thread} (h : state.Rested)
    (howned : state.reactor.Owned held parked) (hkey : key ∈ held)
    (hdriving : state.thread.driven? = some key) (hagain : again.driven? = some key) :
    (state.stepDrive key again after).Rested := by
  obtain ⟨slot, hslot⟩ := Option.isSome_iff_exists.1 (howned.held_open key hkey)
  have hlt := (howned.accepted key slot hslot).1
  have hdriven := driven_stepDrive hslot again after
  generalize state.stepDrive key again after = next at hdriven ⊢
  cases hdriven with
  | @on turn hstep =>
      have hacted := Reactor.acted_putBack hslot turn
      refine h.driven turn howned hslot hdriving hacted.others
        (Reactor.past_putBack state.reactor key slot turn) hacted.backlog ?_
      intro _ _ hnot
      exact absurd hagain hnot
  | @rest need turn hstep =>
      have hacted := Reactor.acted_conclude hslot need turn
      have hpast := Reactor.past_conclude state.reactor key slot need turn
      refine h.driven turn howned hslot hdriving hacted.others hpast hacted.backlog ?_
      intro after hafter _
      obtain ⟨hopen, hconn, hsocket⟩ := Reactor.conn_conclude hslot hafter
      have hblocked : turn.Blocked .fresh need :=
        (Turn.blocked_step hstep).of_le (Nat.zero_le _)
      refine Or.inr ⟨need, hopen, hblocked.congr hconn ?_⟩
      rw [Reactor.log_turn, hsocket]
      simp only
      rw [hpast, List.getElem?_modify_eq, Reactor.past_turn hlt]
      rfl

/-- Accepting leaves all connections at rest. -/
theorem Rested.accept {thread : Thread} (h : state.Rested)
    (hidle : ∀ key, state.thread.driven? ≠ some key) :
    { state with reactor := state.reactor.acceptAll, thread }.Rested := by
  have haccepted := state.reactor.accepted_acceptAll
  constructor
  · intro key after hafter _
    rcases haccepted.conns key with hsame | ⟨-, socket, hmem, hnew⟩
    · exact Reactor.rests_of_eq (h.rests key after (hsame.symm.trans hafter) (hidle key)) rfl rfl
        (by rw [haccepted.past])
    · obtain rfl := Option.some.inj (hnew.symm.trans hafter)
      refine Or.inl ⟨rfl, ?_⟩
      rw [Reactor.log_turn, haccepted.past, h.backlog socket hmem]
      rfl
  · intro socket hmem
    rw [haccepted.past]
    exact h.backlog socket (haccepted.backlog_subset hmem)

/-- A client that connects leaves all connections at rest. -/
theorem Rested.connect {held parked : List Nat} (h : state.Rested)
    (howned : state.reactor.Owned held parked) :
    { state with reactor := state.reactor.connect.2 }.Rested := by
  have hlength : state.reactor.past.length = state.reactor.network.sockets.size := by
    rw [Reactor.past, List.length_map, Array.length_toList]
  have hold : ∀ socket, socket < state.reactor.network.sockets.size →
      state.reactor.connect.2.past[socket]? = state.reactor.past[socket]? := by
    intro socket hlt
    rw [Reactor.past_connect, List.getElem?_append_left (by omega)]
  constructor
  · intro key slot hslot hidle
    exact Reactor.rests_of_eq (h.rests key slot hslot hidle) rfl rfl
      (hold _ (howned.accepted key slot hslot).1)
  · intro socket hmem
    rcases List.mem_append.1 hmem with hwaits | hnew
    · rw [hold socket (howned.backlog_lt socket hwaits)]
      exact h.backlog socket hwaits
    · rw [Reactor.past_connect, List.mem_singleton.1 hnew, ← hlength, List.getElem?_concat_length]

/-- **A stroke of the reactor** leaves at rest what it does not drive. -/
theorem Rested.struck (h : state.Rested) (howned : state.Owned) (hstruck : Struck state next) :
    next.Rested := by
  rw [Owned] at howned
  cases hstruck with
  | check hthread => exact h.of_eq rfl rfl rfl fun key _ => not_driving hthread rfl key
  | wait hthread => exact h.of_eq rfl rfl rfl fun key _ => not_driving hthread rfl key
  | handled hthread => exact h.of_eq rfl rfl rfl fun key _ => not_driving hthread rfl key
  | accept hthread => exact h.accept (not_driving hthread rfl)
  | hear hthread => exact h.of_eq rfl rfl rfl fun key _ => not_driving hthread rfl key
  | @fail event batch signalled key hthread =>
      have hacted := Reactor.acted_close state.reactor key
      refine h.still ?_ (Reactor.past_close _ key) hacted.backlog
        fun key _ => not_driving hthread rfl key
      intro other after hafter
      rw [Reactor.get?_close] at hafter
      split at hafter
      · cases hafter
      · exact ⟨after, hafter, rfl, rfl⟩
  | skip hthread => exact h.of_eq rfl rfl rfl fun key _ => not_driving hthread rfl key
  | begin hthread =>
      exact h.of_eq rfl (Reactor.past_renew _ _) rfl fun key _ => not_driving hthread rfl key
  | serve hthread =>
      rw [hthread] at howned
      exact h.stepDrive howned List.mem_cons_self (by rw [hthread]; rfl) rfl
  | drain hthread => exact h.of_eq rfl rfl rfl fun key _ => not_driving hthread rfl key
  | revived hthread => exact h.of_eq rfl rfl rfl fun key _ => not_driving hthread rfl key
  | pass hthread => exact h.of_eq rfl rfl rfl fun key _ => not_driving hthread rfl key
  | @revive key keys slot hthread hslot =>
      refine h.still ?_ (Reactor.past_renew _ slot) rfl fun key _ => not_driving hthread rfl key
      intro other after hafter
      have hget := (Slab.get?_modify_of_get? hslot ({ · with parked := false }) other).symm.trans
        hafter
      split at hget
      · rename_i hother
        obtain rfl := Option.some.inj hget
        exact ⟨slot, hother ▸ hslot, rfl, rfl⟩
      · exact ⟨after, hget, rfl, rfl⟩
  | reviving hthread =>
      rw [hthread] at howned
      exact h.stepDrive howned List.mem_cons_self (by rw [hthread]; rfl) rfl

/-- **Every stroke** leaves at rest what it does not drive. -/
theorem Rested.act {action : Action} (h : state.Rested) (howned : state.Owned)
    (hnext : state.act action = some next) : next.Rested := by
  cases action with
  | reactor most => exact h.struck howned (struck_of_strike hnext)
  | interrupt most => exact h.struck howned (struck_of_interrupt hnext)
  | worker number content =>
      obtain ⟨⟨hand, shop⟩, -, rfl⟩ := Option.map_eq_some_iff.1 hnext
      exact h.of_eq rfl rfl rfl fun _ hnot => hnot
  | connect =>
      obtain rfl := Option.some.inj hnext
      exact h.connect howned
  | client number act =>
      obtain rfl := Option.some.inj hnext
      exact h.of_eq rfl (Reactor.past_client _ number act) rfl fun _ hnot => hnot
  | setFlag =>
      obtain rfl := Option.some.inj hnext
      exact h.of_eq rfl rfl rfl fun _ hnot => hnot
  | signal =>
      rw [Threads.act] at hnext
      split at hnext
      · obtain rfl := Option.some.inj hnext
        exact h.of_eq rfl rfl rfl fun _ hnot => hnot
      · cases hnext

/-- **Whatever comes about**, connections that are not being driven are at rest. -/
theorem rested_of_reachable (hinitial : initial.Rested) (howned : initial.Owned)
    (h : Reachable initial state) : state.Rested := by
  induction h with
  | refl => exact hinitial
  | act action hbefore hnext ih => exact ih.act (owned_of_reachable howned hbefore) hnext

/-- A connection is watched only for what it is blocked on, unless it was never driven. -/
theorem Rested.blocked_of_armed {watch : Watch} (h : state.Rested) (howned : state.Owned)
    (hslot : state.reactor.conns.get? key = some slot)
    (hwatch : state.reactor.poller.watch? (.socket slot.socket) = some watch)
    (harmed : watch.armed = true) :
    slot.conn = .fresh ∧ (state.reactor.turn slot).wire.log = [] ∨
      (state.reactor.turn slot).Blocked .fresh watch.interest.need := by
  cases howned.owner key slot hslot with
  | poller interest hsome hfits _ hheld =>
      obtain rfl := Option.some.inj (hwatch.symm.trans hsome)
      have hidle : state.thread.driven? ≠ some key := by
        intro hdriving
        apply hheld
        rcases hthread : state.thread with _ | _ | _ | ⟨other, batch, signalled⟩ | _ | _ |
          ⟨other, keys⟩ | _ <;> rw [hthread] at hdriving <;> cases hdriving <;>
          exact List.mem_cons_self
      exact (h.rests key slot hslot hidle).blocked hfits
  | reactor interest hsome =>
      obtain rfl := Option.some.inj (hwatch.symm.trans hsome)
      cases harmed
  | load interest hsome =>
      obtain rfl := Option.some.inj (hwatch.symm.trans hsome)
      cases harmed

/-- **The contract of drives.** Every drive of a connection that was only ever driven keeps it,
whether others go on in the meantime or not; once a connection is closed its drives do nothing; and
in whatever can come about, every armed watch waits for what its connection is blocked on, unless
the connection was never driven. -/
theorem contract_kept :
    (∀ conn, Connection.fresh.Leads conn → ∀ settings wire hub,
      Turn.Contract ⟨conn, wire, hub⟩ (Turn.course settings ⟨conn, wire, hub⟩)
          (Turn.drive settings ⟨conn, wire, hub⟩).1 (Turn.drive settings ⟨conn, wire, hub⟩).2 ∧
        ∀ course need last, Turn.Drives settings ⟨conn, wire, hub⟩ course need last →
          Turn.Contract ⟨conn, wire, hub⟩ course need last) ∧
    (∀ conn later : Connection, conn.phase = .closed → conn.Leads later →
      ∀ settings wire hub course need last,
        Turn.Drives settings ⟨later, wire, hub⟩ course need last →
        need = .close ∧ last = ⟨conn, wire, hub⟩ ∧ ∀ turn ∈ course, turn.looks = false) ∧
    (∀ settings noDelay hub refusals workers state,
      Reachable (opening settings noDelay hub refusals workers) state →
      ∀ key slot watch, state.reactor.conns.get? key = some slot →
        state.reactor.poller.watch? (.socket slot.socket) = some watch → watch.armed = true →
        slot.conn = .fresh ∧ (state.reactor.turn slot).wire.log = [] ∨
          (state.reactor.turn slot).Blocked .fresh watch.interest.need) := by
  refine ⟨?_, ?_, ?_⟩
  · intro conn hreached settings wire hub
    have hkept : ∀ course need last, Turn.Drives settings ⟨conn, wire, hub⟩ course need last →
        Turn.Contract ⟨conn, wire, hub⟩ course need last :=
      fun course need last hdrive => hdrive.contract hreached
    exact ⟨hkept _ _ _ (Turn.drives_drive settings ⟨conn, wire, hub⟩), hkept⟩
  · intro conn later hclosed hleads settings wire hub course need last hdrive
    obtain rfl := hleads.of_closed hclosed
    obtain ⟨rfl, rfl, rfl⟩ := hdrive.of_closed hclosed
    refine ⟨rfl, rfl, ?_⟩
    intro turn hmem
    rw [List.mem_singleton.1 hmem, Turn.looks, hclosed]
  · intro settings noDelay hub refusals workers state hreach key slot watch hslot hwatch harmed
    have hinitial := owned_opening settings noDelay hub refusals workers
    have hrested := rested_of_reachable (rested_opening settings noDelay hub refusals workers)
      hinitial hreach
    exact hrested.blocked_of_armed (owned_of_reachable hinitial hreach) hslot hwatch harmed

/-- A client connects and sends a part of a line, and the reactor does two rounds. -/
def halting : List Action :=
  [.connect, .client 0 (.send (Text.encode "GET /a"))] ++ List.replicate 10 (.reactor 8)

/-- A client that has sent half a line leaves its connection blocked on input. -/
theorem contract_kept_halting : ∃ state slot,
    (opening ⟨[], true, false⟩ false (.empty 100) {} 1).follow halting = some state ∧
      state.reactor.conns.get? 0 = some slot ∧
      (state.reactor.turn slot).Blocked .fresh .input ∧
      Turn.Contract ⟨.fresh, .fresh, .empty 100⟩
        (Turn.course ⟨[], true, false⟩ ⟨.fresh, .fresh, .empty 100⟩)
        (Turn.drive ⟨[], true, false⟩ ⟨.fresh, .fresh, .empty 100⟩).1
        (Turn.drive ⟨[], true, false⟩ ⟨.fresh, .fresh, .empty 100⟩).2 := by
  obtain ⟨hcontract, -, harmed⟩ := contract_kept
  have hrun : ((opening ⟨[], true, false⟩ false (.empty 100) {} 1).follow halting).bind
      (fun state => (state.reactor.conns.get? 0).bind fun slot =>
        (state.reactor.poller.watch? (.socket slot.socket)).map fun watch =>
          ((watch.armed, watch.interest), (state.reactor.turn slot).wire.log.length))
      = some ((true, .readable), 2) := by
    decide +kernel
  obtain ⟨state, hfollow, hstate⟩ := Option.bind_eq_some_iff.1 hrun
  obtain ⟨slot, hslot, hsome⟩ := Option.bind_eq_some_iff.1 hstate
  obtain ⟨watch, hwatch, heq⟩ := Option.map_eq_some_iff.1 hsome
  obtain ⟨hboth, hlength⟩ := Prod.mk.inj heq
  obtain ⟨htrue, hinterest⟩ := Prod.mk.inj hboth
  refine ⟨state, slot, hfollow, hslot, ?_, (hcontract .fresh .refl _ _ _).1⟩
  rcases harmed _ _ _ _ _ state (reachable_follow .refl hfollow) 0 slot watch hslot hwatch htrue
    with ⟨-, hnone⟩ | hblocked
  · rw [hnone] at hlength
    cases hlength
  · rwa [hinterest] at hblocked

end Threads

end FileServer
