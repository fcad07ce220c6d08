import FileServer.Proofs.Disk
import FileServer.Proofs.Reactor.Owners

/-!
# No wakeup is lost

A connection that waits for a load holds its ticket. Until the ticket is complete the load is open
(`Awake.loads`); and if the connection is listed as parked, the load is under way or there is a
signal that has not been drained (`Awake.woken`). A signal that is there makes the notifier
pending, or the reactor has heard of it in the batch that it handles (`Heeded`).

Draining is the one stroke that takes signals away, and it comes when every parked connection is
about to be driven again. One that is driven in a revival and still finds its ticket not complete
has an open load at that moment, so that the signal for it is yet to come. Hence in every state in
which the reactor is about to wait, a wakeup is outstanding for every parked connection
(`wakeup_outstanding`), and one that is there ends the wait (`wakes`).
-/

namespace FileServer

namespace Reactor

variable {reactor next : Reactor} {hands : List Hand} {key : Nat} {slot : Slot}

/-- Connections wait only for loads that will be done, and parked ones for such as will be
signalled. -/
structure Awake (hands : List Hand) (reactor : Reactor) : Prop where
  /-- A ticket that a connection holds was issued, and is complete or its load is open. -/
  loads : ∀ key slot name ticket, reactor.conns.get? key = some slot →
    slot.conn.phase.load? = some (name, ticket) →
    ticket.number < reactor.shop.hub.queue.tickets.size ∧
      (reactor.shop.hub.queue.Open hands name ticket ∨
        reactor.shop.hub.queue.isComplete ticket = true)
  /-- The load of a parked connection is under way, or there is a signal. -/
  woken : ∀ key ∈ reactor.waiting, ∀ slot name ticket, reactor.conns.get? key = some slot →
    slot.conn.phase.load? = some (name, ticket) →
    reactor.shop.hub.queue.UnderWay hands name ticket ∨ 0 < reactor.shop.notifier.count

namespace Awake

/-- What leaves queue, workers and signals leaves the wakeups. -/
theorem still (h : reactor.Awake hands) (hstill : reactor.Still next) : next.Awake hands where
  loads key slot name ticket hslot hload := by
    obtain ⟨old, hold, hbefore⟩ := hstill.conns key slot name ticket hslot hload
    rw [hstill.queue]
    exact h.loads key old name ticket hold hbefore
  woken key hkey slot name ticket hslot hload := by
    obtain ⟨old, hold, hbefore⟩ := hstill.conns key slot name ticket hslot hload
    rw [hstill.queue, hstill.notifier]
    exact h.woken key (hstill.waiting ▸ hkey) old name ticket hold hbefore

/-- **A stroke of a worker** loses no load and no signal. -/
theorem worker {number : Nat} {hand after : Hand} {shop : Workshop} {poller : Poller}
    (h : reactor.Awake hands) (hhand : hands[number]? = some hand)
    (hstroke : hand.Stroke after reactor.shop shop) :
    Awake (hands.set number after) { reactor with shop, poller } where
  loads key slot name ticket hslot hload := by
    obtain ⟨hissued, hopen⟩ := h.loads key slot name ticket hslot hload
    refine ⟨hstroke.size_tickets ▸ hissued, ?_⟩
    rcases hopen with hopen | hcomplete
    · exact hstroke.of_open hhand hopen hissued
    · exact Or.inr (hstroke.isComplete hcomplete)
  woken key hkey slot name ticket hslot hload := by
    rcases h.woken key hkey slot name ticket hslot hload with hway | hsignal
    · exact hstroke.of_underWay hhand hway
    · exact Or.inr (hstroke.count_pos hsignal)

/-- The loads of other connections do not suffer from what is asked for. -/
theorem loads_of_asked {queue : LoadQueue} (h : reactor.Awake hands)
    (hqueue : queue = reactor.shop.hub.queue ∨
      ∃ asked, queue = reactor.shop.hub.queue.request asked)
    {name : String} {ticket : Ticket} (hslot : reactor.conns.get? key = some slot)
    (hload : slot.conn.phase.load? = some (name, ticket)) :
    ticket.number < queue.tickets.size ∧
      (queue.Open hands name ticket ∨ queue.isComplete ticket = true) := by
  obtain ⟨hissued, hopen⟩ := h.loads key slot name ticket hslot hload
  rcases hqueue with rfl | ⟨asked, rfl⟩
  · exact ⟨hissued, hopen⟩
  · have hsize : (reactor.shop.hub.queue.request asked).tickets.size
        = reactor.shop.hub.queue.tickets.size + 1 := Array.size_push _
    refine ⟨by omega, ?_⟩
    rw [LoadQueue.isComplete_request]
    exact hopen.imp_left fun hopen => hopen.request asked

/-- **A step in the drive** of a connection that is not listed. -/
theorem putBack {turn : Turn} (h : reactor.Awake hands) (hslot : reactor.conns.get? key = some slot)
    (hunlisted : key ∉ reactor.waiting) (hasks : (reactor.turn slot).Asks turn) :
    (reactor.putBack key slot turn).Awake hands := by
  have hconns : ∀ other, (reactor.putBack key slot turn).conns.get? other
      = if other = key then some { slot with conn := turn.conn } else reactor.conns.get? other :=
    fun other => Slab.get?_modify_of_get? hslot _ other
  have hqueue : (reactor.putBack key slot turn).shop.hub.queue = reactor.shop.hub.queue ∨
      ∃ asked, (reactor.putBack key slot turn).shop.hub.queue
        = reactor.shop.hub.queue.request asked := hasks.queue
  constructor
  · intro other rival name ticket hrival hload
    rw [hconns] at hrival
    split at hrival
    · obtain rfl := Option.some.inj hrival
      have hload' : turn.conn.phase.load? = some (name, ticket) := hload
      cases hasks with
      | idle _ hnone =>
          rw [hnone] at hload'
          cases hload'
      | waiting key' ticket' _ hbefore hafter =>
          obtain ⟨rfl, rfl⟩ := Prod.mk.inj (Option.some.inj (hafter.symm.trans hload'))
          exact h.loads_of_asked hqueue hslot hbefore
      | asked key' hrequest hphase =>
          rw [hphase] at hload'
          obtain ⟨rfl, rfl⟩ := Prod.mk.inj (Option.some.inj hload')
          have hnew : (reactor.putBack key slot turn).shop.hub.queue
              = reactor.shop.hub.queue.request key' := hrequest
          rw [hnew]
          refine ⟨?_, Or.inl (LoadQueue.open_request _ _ _)⟩
          have hsize : (reactor.shop.hub.queue.request key').tickets.size
              = reactor.shop.hub.queue.tickets.size + 1 := Array.size_push _
          rw [hsize]
          exact Nat.lt_succ_self _
    · exact h.loads_of_asked hqueue hrival hload
  · intro other hother rival name ticket hrival hload
    have hne : other ≠ key := fun heq => hunlisted (heq ▸ hother)
    rw [hconns, if_neg hne] at hrival
    rcases h.woken other hother rival name ticket hrival hload with hway | hsignal
    · rcases hqueue with hsame | ⟨asked, hrequest⟩
      · rw [hsame]
        exact Or.inl hway
      · rw [hrequest]
        exact Or.inl (hway.request asked)
    · exact Or.inr hsignal

/-- **A connection that rests for the disk** has an open load. -/
theorem open_of_rest {turn : Turn} (h : reactor.Awake hands)
    (hslot : reactor.conns.get? key = some slot)
    (hstep : (reactor.turn slot).step reactor.settings = .rest .disk turn) {name : String}
    {ticket : Ticket} (hload : turn.conn.phase.load? = some (name, ticket)) :
    turn.hub.queue.Open hands name ticket := by
  have hasks := Turn.asks_step reactor.settings (reactor.turn slot)
  rw [hstep] at hasks
  obtain ⟨name', ticket', hphase⟩ := Turn.fits_step hstep
  rw [hphase] at hload
  obtain ⟨rfl, rfl⟩ := Prod.mk.inj (Option.some.inj hload)
  cases hasks with
  | idle _ hnone =>
      have hload' : turn.conn.phase.load? = none := hnone
      rw [hphase] at hload'
      cases hload'
  | waiting name ticket hqueue hbefore hafter hopen =>
      have hload' : turn.conn.phase.load? = some (name, ticket) := hafter
      rw [hphase] at hload'
      obtain ⟨rfl, rfl⟩ := Prod.mk.inj (Option.some.inj hload')
      have hrest : turn.hub.queue = reactor.shop.hub.queue := hqueue
      have hmissing : reactor.shop.hub.queue.isComplete ticket' = false := hopen hphase
      rw [hrest]
      refine (h.loads key slot name' ticket' hslot hbefore).2.resolve_right ?_
      rw [hmissing]
      exact Bool.false_ne_true
  | asked name hqueue hnew =>
      have hload' : turn.conn.phase = .resolving name (some reactor.shop.hub.queue.nextTicket) :=
        hnew
      rw [hphase] at hload'
      obtain ⟨rfl, hticket⟩ := Phase.resolving.inj hload'
      obtain rfl := Option.some.inj hticket
      have hrest : turn.hub.queue = reactor.shop.hub.queue.request name' := hqueue
      rw [hrest]
      exact LoadQueue.open_request _ _ _

/-- **Parking** a connection whose load is under way. -/
theorem park (h : reactor.Awake hands)
    (hway : ∀ slot name ticket, reactor.conns.get? key = some slot →
      slot.conn.phase.load? = some (name, ticket) →
      reactor.shop.hub.queue.UnderWay hands name ticket) :
    (reactor.park key).Awake hands := by
  have hflag := still_flag reactor key true
  refine ⟨(h.still hflag).loads, ?_⟩
  intro other hother rival name ticket hrival hload
  obtain ⟨old, hold, hbefore⟩ := hflag.conns other rival name ticket hrival hload
  have hmem : other ∈ reactor.waiting ++ [key] := hother
  rcases List.mem_append.1 hmem with hlisted | hnew
  · exact h.woken other hlisted old name ticket hold hbefore
  · obtain rfl := List.mem_singleton.1 hnew
    exact Or.inl (hway old name ticket hold hbefore)

/-- A connection that rests gets what it needs. -/
theorem provide {need : Need} (h : reactor.Awake hands)
    (hslot : reactor.conns.get? key = some slot)
    (hway : need = .disk → ∀ name ticket, slot.conn.phase.load? = some (name, ticket) →
      reactor.shop.hub.queue.UnderWay hands name ticket) :
    (reactor.provide key need).Awake hands := by
  by_cases hneed : need = .disk
  · subst hneed
    unfold Reactor.provide
    rw [hslot]
    apply h.park
    intro other name ticket hother hload
    obtain rfl := Option.some.inj (hslot.symm.trans hother)
    exact hway rfl name ticket hload
  · exact h.still (still_provide reactor key hneed)

end Awake

end Reactor

namespace Thread

/-- The reactor has heard of a signal that it has not drained. -/
def Heard : Thread → Prop
  | .dispatch batch signalled => signalled = true ∨ ∃ event ∈ batch, event.token = .notifier
  | .serve _ batch signalled => signalled = true ∨ ∃ event ∈ batch, event.token = .notifier
  | .drain => True
  | _ => False

/-- An event of anything else takes nothing away from what was heard. -/
theorem heard_of_cons {event : Event} {batch : List Event} {signalled : Bool}
    (hne : event.token ≠ .notifier) (h : (Thread.dispatch (event :: batch) signalled).Heard) :
    (Thread.dispatch batch signalled).Heard := by
  rcases h with hsignalled | ⟨other, hother, htoken⟩
  · exact Or.inl hsignalled
  · rcases List.mem_cons.1 hother with rfl | hrest
    · exact absurd htoken hne
    · exact Or.inr ⟨other, hrest, htoken⟩

end Thread

namespace Threads

variable {state next : Threads} {initial : Threads} {key : Nat} {slot : Slot}

/-- A signal that is there is pending, or the reactor has heard of it. -/
def Heeded (state : Threads) : Prop :=
  0 < state.reactor.shop.notifier.count →
    .notifier ∈ state.reactor.poller.pending ∨ state.thread.Heard

/-- Nobody waits in vain. -/
structure Awake (state : Threads) : Prop where
  /-- Every connection has one owner. -/
  owned : state.Owned
  /-- Loads and signals are where they should be. -/
  loads : state.reactor.Awake state.hands
  /-- Signals are heeded. -/
  heeded : state.Heeded

/-- At first nobody is parked. -/
theorem awake_opening (settings : Settings) (noDelay : Bool) (hub : Hub) (refusals : Refusals)
    (workers : Nat) : (opening settings noDelay hub refusals workers).Awake := by
  refine ⟨owned_opening settings noDelay hub refusals workers, ⟨?_, ?_⟩, ?_⟩
  · intro key slot name ticket hslot
    cases (Slab.get?_empty key).symm.trans hslot
  · intro key hkey
    cases hkey
  · intro hcount
    cases hcount

/-- A stroke that leaves the work of the disk alone and forgets no signal. -/
theorem Awake.still (h : state.Awake) (howned : next.Owned) (hhands : next.hands = state.hands)
    (hstill : state.reactor.Still next.reactor) (hheard : state.thread.Heard → next.thread.Heard) :
    next.Awake := by
  refine ⟨howned, hhands ▸ h.loads.still hstill, ?_⟩
  intro hcount
  rw [hstill.notifier] at hcount
  exact (h.heeded hcount).imp hstill.pending hheard

/-- What a connection gets takes no signal away. -/
theorem heeded_provide (reactor : Reactor) (key : Nat) (need : Need) :
    (reactor.provide key need).shop.notifier = reactor.shop.notifier ∧
      (.notifier ∈ reactor.poller.pending →
        .notifier ∈ (reactor.provide key need).poller.pending) := by
  by_cases hneed : need = .disk
  · subst hneed
    unfold Reactor.provide
    split
    · exact ⟨rfl, id⟩
    · exact ⟨rfl, id⟩
  · have hstill := Reactor.still_provide reactor key hneed
    exact ⟨hstill.notifier, hstill.pending⟩

/-- **Driving a connection in hand** leaves nobody waiting in vain. -/
theorem Awake.stepDrive {again after : Thread} {held due : List Nat} (h : state.Awake)
    (hbefore : state.reactor.Owned (key :: held) (due ++ state.reactor.waiting))
    (howned : (state.stepDrive key again after).Owned)
    (hagain : state.thread.Heard → again.Heard) (hafter : state.thread.Heard → after.Heard) :
    (state.stepDrive key again after).Awake := by
  obtain ⟨slot, hslot⟩ := Option.isSome_iff_exists.1 (hbefore.held_open key List.mem_cons_self)
  have hunlisted : key ∉ state.reactor.waiting := by
    obtain ⟨-, hnot, -⟩ := hbefore.of_held hslot List.mem_cons_self
    intro hmem
    exact hnot (List.mem_append_right _ hmem)
  have hasks := Turn.asks_step state.reactor.settings (state.reactor.turn slot)
  have hdriven := driven_stepDrive hslot again after
  generalize state.stepDrive key again after = next at howned hdriven ⊢
  cases hdriven with
  | @on turn hstep =>
      rw [hstep] at hasks
      refine ⟨howned, h.loads.putBack hslot hunlisted hasks, ?_⟩
      intro hcount
      exact (h.heeded hcount).imp_right hagain
  | @rest need turn hstep =>
      rw [hstep] at hasks
      have hback := (h.loads.putBack hslot hunlisted hasks).still (Reactor.still_answer _ slot)
      have hself : ((state.reactor.putBack key slot turn).answer slot).conns.get? key
          = some { slot with conn := turn.conn } :=
        (Slab.get?_modify_of_get? hslot _ key).trans (if_pos rfl)
      refine ⟨howned, hback.provide hself fun hdisk name ticket hload => ?_, fun hcount => ?_⟩
      · subst hdisk
        exact (h.loads.open_of_rest hslot hstep hload).underWay
      · obtain ⟨hnotifier, hpending⟩ :=
          heeded_provide ((state.reactor.putBack key slot turn).answer slot) key need
        rw [Reactor.conclude, hnotifier] at hcount
        exact (h.heeded hcount).imp hpending hafter

/-- **Waiting** takes what is pending of the notifier only by reporting it. -/
theorem heeded_wait {most : Nat} {batch : List Event} {poller : Poller} (h : state.Awake)
    (hthread : state.thread = .wait)
    (hwait : state.reactor.poller.wait most state.reactor.ready = (batch, poller))
    (hcount : 0 < state.reactor.shop.notifier.count) :
    (∃ event ∈ batch, event.token = .notifier) ∨ .notifier ∈ poller.pending := by
  have hpending : .notifier ∈ state.reactor.poller.pending := by
    rcases h.heeded hcount with hpending | hheard
    · exact hpending
    · rw [hthread] at hheard
      cases hheard
  have hready : ((state.reactor.ready .notifier).restrict .readable).isSome = true := by
    simp [Reactor.ready, Readiness.restrict, Readiness.isSome, Notifier.isReady, hcount]
  exact Poller.heard_wait hwait hpending h.owned.notifier rfl hready

/-- **A stroke of the reactor** leaves nobody waiting in vain. -/
theorem Awake.struck (h : state.Awake) (hstruck : Struck state next) : next.Awake := by
  have howned := h.owned.struck hstruck
  -- Where the reactor stands outside of the handling of a batch, it has heard of nothing.
  have hunheard : ∀ {thread : Thread}, ¬state.thread.Heard → state.thread.Heard → thread.Heard :=
    fun hnot hheard => absurd hheard hnot
  cases hstruck with
  | check hthread =>
      exact h.still howned rfl (.refl _) (hunheard (by simp [hthread, Thread.Heard]))
  | wait hthread hwait =>
      refine ⟨howned, ⟨h.loads.loads, h.loads.woken⟩, ?_⟩
      intro hcount
      rcases heeded_wait h hthread hwait hcount with hevent | hpending
      · exact Or.inr (Or.inr hevent)
      · exact Or.inl hpending
  | handled hthread =>
      apply h.still howned rfl (.refl _)
      intro hheard
      rw [hthread] at hheard
      rcases hheard with rfl | ⟨event, hevent, -⟩
      · trivial
      · cases hevent
  | accept hthread htoken =>
      apply h.still howned rfl (Reactor.still_acceptAll _)
      intro hheard
      exact Thread.heard_of_cons (by simp [htoken]) (hthread ▸ hheard)
  | hear => exact h.still howned rfl (.refl _) fun _ => Or.inl rfl
  | fail hthread htoken =>
      apply h.still howned rfl (Reactor.still_close _ _)
      intro hheard
      exact Thread.heard_of_cons (by simp [htoken]) (hthread ▸ hheard)
  | skip hthread htoken =>
      apply h.still howned rfl (.refl _)
      intro hheard
      exact Thread.heard_of_cons (by simp [htoken]) (hthread ▸ hheard)
  | begin hthread htoken =>
      apply h.still howned rfl (Reactor.still_renew _ _)
      intro hheard
      exact Thread.heard_of_cons (by simp [htoken]) (hthread ▸ hheard)
  | @serve key batch signalled hthread =>
      have hbefore := h.owned
      rw [Owned, hthread] at hbefore
      have hheard : state.thread.Heard → (Thread.serve key batch signalled).Heard :=
        fun hheard => hthread ▸ hheard
      exact h.stepDrive hbefore howned hheard hheard
  | drain =>
      refine ⟨howned, ⟨h.loads.loads, fun key hkey => ?_⟩, fun hcount => ?_⟩
      · cases hkey
      · cases hcount
  | revived hthread =>
      refine ⟨howned, ⟨h.loads.loads, h.loads.woken⟩, ?_⟩
      intro hcount
      exact (h.heeded hcount).imp_right (hunheard (by simp [hthread, Thread.Heard]))
  | pass hthread =>
      exact h.still howned rfl (.refl _) (hunheard (by simp [hthread, Thread.Heard]))
  | @revive key keys slot hthread =>
      have hflag := Reactor.still_flag state.reactor key false
      have hrenewed := hflag.trans (Reactor.still_renew _ slot)
      exact h.still howned rfl hrenewed (hunheard (by simp [hthread, Thread.Heard]))
  | reviving hthread =>
      have hbefore := h.owned
      rw [Owned, hthread] at hbefore
      have hnot : ¬state.thread.Heard := by simp [hthread, Thread.Heard]
      exact h.stepDrive hbefore howned (hunheard hnot) (hunheard hnot)

/-! ### Everybody else -/

/-- A signal is pending once it is there. -/
theorem heeded_raise {poller : Poller}
    (hwatch : poller.watch? .notifier = some ⟨.notifier, .notifier, .readable, false, true⟩) :
    .notifier ∈ (poller.raise .notifier { Readiness.none with readable := true }).pending :=
  Poller.mem_pending_raise_self hwatch rfl rfl

/-- What somebody shares with the reactor is heeded if it is a signal. -/
theorem Heeded.share {hands : List Hand} {stopping stopped : Nat} (h : state.Heeded)
    (howned : state.Owned) (shop : Workshop) :
    Heeded ⟨state.reactor.share shop, state.thread, hands, stopping, stopped⟩ := by
  intro hcount
  unfold Reactor.share
  simp only
  split
  · rename_i hsame
    refine h ?_
    rw [← hsame]
    exact hcount
  · exact Or.inl (heeded_raise howned.notifier)

/-- **A worker** leaves nobody waiting in vain. -/
theorem Awake.worker {number : Nat} {hand after : Hand} {shop : Workshop} (h : state.Awake)
    (howned : Owned { state with
      reactor := state.reactor.share shop
      hands := state.hands.set number after })
    (hhand : state.hands[number]? = some hand)
    (hstroke : hand.Stroke after state.reactor.shop shop) :
    Awake { state with
      reactor := state.reactor.share shop
      hands := state.hands.set number after } :=
  ⟨howned, h.loads.worker hhand hstroke, h.heeded.share h.owned shop⟩

/-- **Every stroke** leaves nobody waiting in vain. -/
theorem Awake.act {action : Action} (h : state.Awake) (hnext : state.act action = some next) :
    next.Awake := by
  have howned := h.owned.act hnext
  cases action with
  | reactor most => exact h.struck (struck_of_strike hnext)
  | interrupt most => exact h.struck (struck_of_interrupt hnext)
  | worker number content =>
      obtain ⟨⟨after, shop⟩, hbound, rfl⟩ := Option.map_eq_some_iff.1 hnext
      obtain ⟨hand, hhand, hact⟩ := Option.bind_eq_some_iff.1 hbound
      exact h.worker howned hhand (Hand.stroke_act hact)
  | connect =>
      obtain rfl := Option.some.inj hnext
      exact h.still howned rfl (Reactor.still_of_eq rfl rfl rfl rfl Poller.mem_pending_raise) id
  | client number act =>
      obtain rfl := Option.some.inj hnext
      exact h.still howned rfl (Reactor.still_of_eq rfl rfl rfl rfl Poller.mem_pending_raise) id
  | setFlag =>
      obtain rfl := Option.some.inj hnext
      exact ⟨howned, ⟨h.loads.loads, h.loads.woken⟩, h.heeded⟩
  | signal =>
      rw [Threads.act] at hnext
      split at hnext
      · obtain rfl := Option.some.inj hnext
        refine ⟨howned, ⟨h.loads.loads, ?_⟩, h.heeded.share h.owned _⟩
        intro key hkey slot name ticket hslot hload
        have hsignal : 0 < state.reactor.shop.notifier.signal.count := by
          simpa [Notifier.isReady] using Notifier.isReady_signal state.reactor.shop.notifier
        exact Or.inr hsignal
      · cases hnext

/-- **Whatever comes about**, a wakeup is outstanding for whoever is parked. -/
theorem awake_of_reachable (hinitial : initial.Awake) (h : Reachable initial state) :
    state.Awake := by
  induction h with
  | refl => exact hinitial
  | act action _ hnext ih => exact ih.act hnext

/-! ### Before a wait -/

/-- **A wakeup is outstanding** for every parked connection when the reactor is about to wait: its
load is in the queue, or a worker has it and has not signalled, or there is a signal and the
notifier is pending. -/
theorem wakeup_outstanding (settings : Settings) (noDelay : Bool) (hub : Hub)
    (refusals : Refusals) (workers : Nat)
    (hreach : Reachable (opening settings noDelay hub refusals workers) state)
    (hwait : state.thread = .wait) (hslot : state.reactor.conns.get? key = some slot)
    (hparked : slot.parked = true) :
    ∃ name ticket, slot.conn.phase = .resolving name (some ticket) ∧
      (.load name ticket ∈ state.reactor.shop.hub.queue.tasks ∨
        (∃ hand ∈ state.hands, hand.Carries name ticket) ∨
        0 < state.reactor.shop.notifier.count ∧ .notifier ∈ state.reactor.poller.pending) := by
  have h := awake_of_reachable (awake_opening settings noDelay hub refusals workers) hreach
  have howned := h.owned
  rw [Owned, hwait] at howned
  cases howned.owner key slot hslot with
  | poller _ _ _ hflag => cases hflag.symm.trans hparked
  | reactor _ _ hflag => cases hflag.symm.trans hparked
  | load interest _ hphase _ _ hlisted =>
      obtain ⟨name, ticket, hphase⟩ := hphase
      refine ⟨name, ticket, hphase, ?_⟩
      have hload : slot.conn.phase.load? = some (name, ticket) := by rw [hphase]; rfl
      rcases h.loads.woken key hlisted slot name ticket hslot hload
        with (hqueued | hcarried) | hcount
      · exact Or.inl hqueued
      · exact Or.inr (Or.inl hcarried)
      · refine Or.inr (Or.inr ⟨hcount, ?_⟩)
        apply (h.heeded hcount).resolve_right
        intro hheard
        rw [hwait] at hheard
        cases hheard

/-- A client asks for a file, a worker loads it, and the reactor is about to wait. -/
def loaded : List Action :=
  asking ++ List.replicate 4 (.worker 0 (.file [104, 105])) ++ [.reactor 8]

/-- A load is done while the reactor waits, and its signal is outstanding. -/
theorem wakeup_outstanding_loaded : ∃ state slot,
    Reachable (opening ⟨[], true, false⟩ false (.empty 100) {} 1) state ∧ state.thread = .wait ∧
      state.reactor.conns.get? 0 = some slot ∧ slot.parked = true ∧
      ∃ name ticket, slot.conn.phase = .resolving name (some ticket) ∧
        (.load name ticket ∈ state.reactor.shop.hub.queue.tasks ∨
          (∃ hand ∈ state.hands, hand.Carries name ticket) ∨
          0 < state.reactor.shop.notifier.count ∧ .notifier ∈ state.reactor.poller.pending) := by
  have hrun : ((opening ⟨[], true, false⟩ false (.empty 100) {} 1).follow loaded).map
      (fun state => (state.thread, (state.reactor.conns.get? 0).map Slot.parked))
        = some (.wait, some true) := by
    decide +kernel
  obtain ⟨state, hfollow, heq⟩ := Option.map_eq_some_iff.1 hrun
  obtain ⟨hwait, hslot⟩ := Prod.mk.inj heq
  obtain ⟨slot, hslot, hparked⟩ := Option.map_eq_some_iff.1 hslot
  have hreach := reachable_follow .refl hfollow
  exact ⟨state, slot, hreach, hwait, hslot, hparked,
    wakeup_outstanding _ _ _ _ _ hreach hwait hslot hparked⟩

/-- **A wakeup that is there** ends the wait. -/
theorem wakes {most : Nat} (hmost : 0 < most) (h : state.Owned) (hwait : state.thread = .wait)
    (hcount : 0 < state.reactor.shop.notifier.count)
    (hpending : .notifier ∈ state.reactor.poller.pending) : (state.strike most).isSome := by
  obtain ⟨fewer, rfl⟩ := Nat.exists_eq_add_of_lt hmost
  rw [Nat.zero_add] at *
  rcases htaken : state.reactor.poller.wait (fewer + 1) state.reactor.ready with ⟨batch, poller⟩
  have hready : ((state.reactor.ready .notifier).restrict .readable).isSome = true := by
    simp [Reactor.ready, Readiness.restrict, Readiness.isSome, Notifier.isReady, hcount]
  have hheard := Poller.heard_wait htaken hpending h.notifier rfl hready
  cases batch with
  | nil =>
      have hnone : (state.reactor.poller.wait (fewer + 1) state.reactor.ready).1 = [] := by
        rw [htaken]
      have hempty := Poller.pending_collect_of_nil hnone
      rw [Poller.wait] at htaken
      rw [htaken] at hempty
      rcases hheard with ⟨event, hevent, -⟩ | hstill
      · cases hevent
      · have hnil : poller.pending = [] := hempty
        rw [hnil] at hstill
        cases hstill
  | cons event batch =>
      rw [strike, hwait]
      simp only [htaken]
      rfl

end Threads

end FileServer
