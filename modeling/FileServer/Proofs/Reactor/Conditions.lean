import Mathlib.Logic.Basic
import FileServer.Proofs.Disk
import FileServer.Proofs.Reactor.Owners

/-!
# The two conditions of a connection

Between two rounds the reactor has nothing in hand, and what is parked is what is listed. So the
one owner of a connection is the poller, which reports it for what its phase needs, or the list of
those that wait for a load (`one_condition`).

The gauge shows the length of that list from the first time it is set on. A stroke sets it, or
leaves both alone, or takes the list for a revival, at whose end it is set (`recount_act`).
-/

namespace FileServer

namespace Reactor

/-- The watch of a connection is armed for what its phase needs, and it waits for no load. -/
def Watched (reactor : Reactor) (key : Nat) (slot : Slot) : Prop :=
  (∃ interest, reactor.poller.watch? (.socket slot.socket)
      = some (slot.watch key interest true) ∧ interest.Fits slot.conn.phase) ∧
    slot.parked = false ∧ key ∉ reactor.waiting

/-- The watch of a connection is disarmed, and it is listed once as waiting for its load. -/
def Parked (reactor : Reactor) (key : Nat) (slot : Slot) : Prop :=
  (∃ interest, reactor.poller.watch? (.socket slot.socket)
      = some (slot.watch key interest false)) ∧
    slot.conn.phase.Parks ∧ slot.parked = true ∧ reactor.waiting.count key = 1

variable {reactor : Reactor} {key : Nat} {slot : Slot}

/-- Where nothing is in hand, a connection is watched or parked, and not both. -/
theorem Owned.condition (h : reactor.Owned [] reactor.waiting)
    (hslot : reactor.conns.get? key = some slot) :
    Xor (reactor.Watched key slot) (reactor.Parked key slot) := by
  cases h.owner key slot hslot with
  | poller interest hwatch hfits hflag _ hparked =>
      refine Or.inl ⟨⟨⟨interest, hwatch, hfits⟩, hflag, hparked⟩, fun hboth => ?_⟩
      cases hflag.symm.trans hboth.2.2.1
  | reactor _ _ _ hheld => cases hheld
  | load interest hwatch hphase hflag _ hparked =>
      refine Or.inr ⟨⟨⟨interest, hwatch⟩, hphase, hflag, ?_⟩, fun hboth => ?_⟩
      · exact List.count_eq_one_of_mem h.parked_nodup hparked
      · exact hboth.2.2 hparked

/-- Where nothing is in hand, what is listed is parked. -/
theorem Owned.parked_of_mem (h : reactor.Owned [] reactor.waiting) (hkey : key ∈ reactor.waiting) :
    ∃ slot, reactor.conns.get? key = some slot ∧ reactor.Parked key slot := by
  obtain ⟨slot, hslot⟩ := Option.isSome_iff_exists.1 (h.parked_open key hkey)
  refine ⟨slot, hslot, ?_⟩
  rcases h.condition hslot with ⟨hwatched, -⟩ | ⟨hparked, -⟩
  · exact absurd hkey hwatched.2.2
  · exact hparked

/-- Where nothing is in hand, a socket is watched for its connection alone. -/
theorem Owned.watch_of_socket {held parked : List Nat} {socket : Nat} {watch : Watch}
    (h : reactor.Owned held parked)
    (hwatch : reactor.poller.watch? (.socket socket) = some watch) :
    ∃ key slot, reactor.conns.get? key = some slot ∧ slot.socket = socket ∧
      ∃ interest armed, watch = slot.watch key interest armed := by
  obtain ⟨key, slot, hslot, rfl⟩ := h.watched socket watch hwatch
  refine ⟨key, slot, hslot, rfl, ?_⟩
  cases h.owner key slot hslot with
  | poller interest hsome =>
      exact ⟨interest, true, Option.some.inj (hwatch.symm.trans hsome)⟩
  | reactor interest hsome =>
      exact ⟨interest, false, Option.some.inj (hwatch.symm.trans hsome)⟩
  | load interest hsome =>
      exact ⟨interest, false, Option.some.inj (hwatch.symm.trans hsome)⟩

/-! ### The gauge -/

/-- What a connection gets leaves the list and the gauge, or both are set. -/
theorem gauge_provide (reactor : Reactor) (key : Nat) (need : Need) :
    (reactor.provide key need).gauge = (reactor.provide key need).waiting.length ∨
      (reactor.provide key need).gauge = reactor.gauge ∧
        (reactor.provide key need).waiting = reactor.waiting := by
  by_cases hneed : need = .disk
  · subst hneed
    unfold provide
    split
    · exact Or.inr ⟨rfl, rfl⟩
    · exact Or.inl rfl
  · have hstill := still_provide reactor key hneed
    exact Or.inr ⟨hstill.gauge, hstill.waiting⟩

end Reactor

namespace Threads

variable {state next : Threads} {initial : Threads}

/-- The reactor is in the middle of a revival. -/
def Reviving : Thread → Prop
  | .revive _ => True
  | .reviving _ _ => True
  | _ => False

/-- What a stroke makes of the list of parked connections and of its gauge. -/
inductive Recount (state next : Threads) : Prop where
  /-- The gauge shows the length of the list. -/
  | shown (hgauge : next.reactor.gauge = next.reactor.waiting.length)
  /-- Both stay as they are. -/
  | kept (hgauge : next.reactor.gauge = state.reactor.gauge)
      (hwaiting : next.reactor.waiting = state.reactor.waiting)
      (hreviving : Reviving state.thread → Reviving next.thread)
  /-- The list is taken for a revival. -/
  | taken (hwaiting : next.reactor.waiting = []) (hreviving : Reviving next.thread)

/-- A step in the drive of a connection sets the gauge if it parks it. -/
theorem recount_stepDrive {key : Nat} {again after : Thread}
    (hagain : Reviving state.thread → Reviving again)
    (hafter : Reviving state.thread → Reviving after) :
    Recount state (state.stepDrive key again after) := by
  cases hslot : state.reactor.conns.get? key with
  | none =>
      unfold stepDrive
      rw [hslot]
      exact .kept rfl rfl hafter
  | some slot =>
      have hgauge := Turn.waiting_step state.reactor.settings (state.reactor.turn slot)
      have hdriven := driven_stepDrive hslot again after
      generalize state.stepDrive key again after = next at hdriven ⊢
      cases hdriven with
      | @on turn hstep =>
          rw [hstep] at hgauge
          exact .kept hgauge rfl hagain
      | @rest need turn hstep =>
          rw [hstep] at hgauge
          rcases Reactor.gauge_provide ((state.reactor.putBack key slot turn).answer slot) key
            need with hshown | ⟨hsame, hwaiting⟩
          · exact .shown hshown
          · exact .kept (hsame.trans hgauge) hwaiting hafter

/-- Outside of revivals, list and gauge can stay as they are. -/
theorem Recount.still (hgauge : next.reactor.gauge = state.reactor.gauge)
    (hwaiting : next.reactor.waiting = state.reactor.waiting) (hnot : ¬Reviving state.thread) :
    Recount state next :=
  .kept hgauge hwaiting fun hreviving => absurd hreviving hnot

/-- A stroke of the reactor. -/
theorem recount_struck (hstruck : Struck state next) : Recount state next := by
  cases hstruck with
  | check hthread => exact .still rfl rfl (by simp [hthread, Reviving])
  | wait hthread => exact .still rfl rfl (by simp [hthread, Reviving])
  | handled hthread => exact .still rfl rfl (by simp [hthread, Reviving])
  | accept hthread =>
      have hstill := Reactor.still_acceptAll state.reactor
      exact .still hstill.gauge hstill.waiting (by simp [hthread, Reviving])
  | hear hthread => exact .still rfl rfl (by simp [hthread, Reviving])
  | @fail event batch signalled key hthread =>
      have hstill := Reactor.still_close state.reactor key
      exact .still hstill.gauge hstill.waiting (by simp [hthread, Reviving])
  | skip hthread => exact .still rfl rfl (by simp [hthread, Reviving])
  | begin hthread => exact .still rfl rfl (by simp [hthread, Reviving])
  | serve hthread =>
      have hnot : ¬Reviving state.thread := by simp [hthread, Reviving]
      apply recount_stepDrive
      · intro hreviving
        exact absurd hreviving hnot
      · intro hreviving
        exact absurd hreviving hnot
  | drain => exact .taken rfl trivial
  | revived => exact .shown rfl
  | pass => exact .kept rfl rfl fun _ => trivial
  | revive => exact .kept rfl rfl fun _ => trivial
  | reviving =>
      apply recount_stepDrive
      · exact fun _ => trivial
      · exact fun _ => trivial

/-- **Every stroke** sets the gauge, leaves it and the list alone, or takes the list. -/
theorem recount_act {action : Action} (hnext : state.act action = some next) :
    Recount state next := by
  cases action with
  | reactor most => exact recount_struck (struck_of_strike hnext)
  | interrupt most => exact recount_struck (struck_of_interrupt hnext)
  | worker number content =>
      obtain ⟨⟨hand, shop⟩, hbound, rfl⟩ := Option.map_eq_some_iff.1 hnext
      obtain ⟨before, -, hact⟩ := Option.bind_eq_some_iff.1 hbound
      exact .kept (Hand.waiting_act hact) rfl id
  | connect =>
      obtain rfl := Option.some.inj hnext
      exact .kept rfl rfl id
  | client number act =>
      obtain rfl := Option.some.inj hnext
      exact .kept rfl rfl id
  | setFlag =>
      obtain rfl := Option.some.inj hnext
      exact .kept rfl rfl id
  | signal =>
      rw [act] at hnext
      split at hnext
      · obtain rfl := Option.some.inj hnext
        exact .kept rfl rfl id
      · cases hnext

/-- The gauge is right, unless a revival is under way, at whose end it is set. -/
def Gauged (state : Threads) : Prop :=
  Reviving state.thread ∨ state.reactor.gauge = state.reactor.waiting.length

/-- Every action leaves the gauge right, if it was. -/
theorem Gauged.act {action : Action} (h : state.Gauged) (hnext : state.act action = some next) :
    next.Gauged := by
  cases recount_act hnext with
  | shown hgauge => exact Or.inr hgauge
  | kept hgauge hwaiting hreviving =>
      rcases h with hyes | hright
      · exact Or.inl (hreviving hyes)
      · exact Or.inr (by rw [hgauge, hwaiting, hright])
  | taken _ hreviving => exact Or.inl hreviving

/-- The reactor has set the gauge: it has ended a revival, or it has parked a connection. -/
inductive Shown (initial : Threads) : Threads → Prop where
  /-- A revival ends. -/
  | revived {state next : Threads} {most : Nat} (hreach : Reachable initial state)
      (hthread : state.thread = .revive []) (hnext : state.strike most = some next) :
      Shown initial next
  /-- A connection is parked. -/
  | parked {state next : Threads} {action : Action} (hreach : Reachable initial state)
      (hnext : state.act action = some next)
      (hlonger : state.reactor.waiting.length < next.reactor.waiting.length) : Shown initial next
  /-- It was set before. -/
  | later {state next : Threads} {action : Action} (hshown : Shown initial state)
      (hnext : state.act action = some next) : Shown initial next

/-- Once it is set, the gauge stays right. -/
theorem gauged_of_shown (h : Shown initial state) : state.Gauged := by
  induction h with
  | @revived state next most _ hthread hnext =>
      rw [strike, hthread] at hnext
      obtain rfl := Option.some.inj hnext
      exact Or.inr rfl
  | @parked state next action _ hnext hlonger =>
      cases recount_act hnext with
      | shown hgauge => exact Or.inr hgauge
      | kept _ hwaiting =>
          rw [hwaiting] at hlonger
          omega
      | taken _ hreviving => exact Or.inl hreviving
  | later _ hnext ih => exact ih.act hnext

/-- The gauge stays right outside of a revival. -/
theorem gauged_of_reachable (hinitial : initial.Gauged) (h : Reachable initial state) :
    state.Gauged := by
  induction h with
  | refl => exact hinitial
  | act action _ hnext ih => exact ih.act hnext

/-! ### Between two rounds -/

/-- **Every connection has exactly one owner between two rounds**: either its watch is armed for
what its phase needs, or it is parked and listed once. Nothing else is listed or watched, so a
client that was dismissed has left nothing behind, and the gauge shows the length of the list if it
did at first or was set since. Requests for clients, options and watches may fail at any point. -/
theorem one_condition (settings : Settings) (noDelay : Bool) (hub : Hub) (refusals : Refusals)
    (workers : Nat) (hreach : Reachable (opening settings noDelay hub refusals workers) state)
    (hcheck : state.thread = .check) :
    (∀ key slot, state.reactor.conns.get? key = some slot →
      Xor (state.reactor.Watched key slot) (state.reactor.Parked key slot)) ∧
    (∀ key ∈ state.reactor.waiting, ∃ slot,
      state.reactor.conns.get? key = some slot ∧ state.reactor.Parked key slot) ∧
    (∀ socket watch, state.reactor.poller.watch? (.socket socket) = some watch →
      ∃ key slot, state.reactor.conns.get? key = some slot ∧ slot.socket = socket ∧
        ∃ interest armed, watch = slot.watch key interest armed) ∧
    (hub.counters.waiting = 0 ∨ Shown (opening settings noDelay hub refusals workers) state →
      state.reactor.gauge = state.reactor.waiting.length) := by
  have howned := owned_of_reachable (owned_opening settings noDelay hub refusals workers) hreach
  rw [Owned, hcheck] at howned
  refine ⟨fun key slot hslot => howned.condition hslot, fun key hkey => howned.parked_of_mem hkey,
    fun socket watch hwatch => howned.watch_of_socket hwatch, fun hset => ?_⟩
  have hgauged : state.Gauged := by
    rcases hset with hzero | hshown
    · have hopening : (opening settings noDelay hub refusals workers).Gauged := Or.inr hzero
      exact gauged_of_reachable hopening hreach
    · exact gauged_of_shown hshown
  rcases hgauged with hreviving | hright
  · rw [hcheck] at hreviving
    cases hreviving
  · exact hright

/-- Two clients connect, and the second asks for a file. The wait is interrupted, and then the
reactor does two rounds. -/
def dismissing : List Action :=
  [.connect, .connect, .client 1 (.send (Text.encode "GET /a HTTP/1.1\n")),
    .reactor 8, .interrupt 0] ++ List.replicate 14 (.reactor 8)

/-- The first request for a client is interrupted and the first watch of a client is refused, so the
second client gets the first key, and is parked. -/
theorem one_condition_dismissing : ∃ state,
    Reachable (opening ⟨[], true, false⟩ true (.empty 100)
      { clients := [some .interrupted], watches := [true] } 1) state ∧
      state.thread = .check ∧ state.reactor.waiting = [0] ∧
      (∃ slot, state.reactor.conns.get? 0 = some slot ∧ state.reactor.Parked 0 slot) ∧
      state.reactor.poller.watch? (.socket 0) = none ∧ state.reactor.gauge = 1 := by
  have hrun : ((opening ⟨[], true, false⟩ true (.empty 100)
      { clients := [some .interrupted], watches := [true] } 1).follow dismissing).map
        (fun state => (state.thread, state.reactor.waiting,
          (state.reactor.conns.get? 0).map Slot.socket, state.reactor.conns.keys))
      = some (.check, [0], some 1, [0]) := by
    decide +kernel
  obtain ⟨state, hfollow, heq⟩ := Option.map_eq_some_iff.1 hrun
  obtain ⟨hcheck, heq⟩ := Prod.mk.inj heq
  obtain ⟨hwaiting, heq⟩ := Prod.mk.inj heq
  obtain ⟨hsocket, hkeys⟩ := Prod.mk.inj heq
  have hreach := reachable_follow .refl hfollow
  obtain ⟨-, hlisted, hwatched, hgauge⟩ := one_condition _ _ _ _ _ hreach hcheck
  have hparked := hlisted 0 (by rw [hwaiting]; exact List.mem_singleton.2 rfl)
  have hnone : state.reactor.poller.watch? (.socket 0) = none := by
    rw [Option.eq_none_iff_forall_ne_some]
    intro watch hwatch
    obtain ⟨key, slot, hslot, hzero, -⟩ := hwatched 0 watch hwatch
    have hkey : key ∈ state.reactor.conns.keys := Slab.mem_keys.2 (by rw [hslot]; rfl)
    rw [hkeys, List.mem_singleton] at hkey
    rw [← hkey, hslot, Option.map_some, hzero] at hsocket
    cases hsocket
  have hright := hgauge (Or.inl rfl)
  rw [hwaiting] at hright
  exact ⟨state, hreach, hcheck, hwaiting, hparked, hnone, hright⟩

end Threads

end FileServer
