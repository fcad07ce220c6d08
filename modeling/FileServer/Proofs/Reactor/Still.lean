import FileServer.Proofs.Connection.Resting
import FileServer.Proofs.Reactor.Events

/-!
# What most strokes leave alone

Most of what the reactor does has nothing to do with the disk: it closes connections, arms watches
and accepts clients. `Still` says what all of that leaves as it is, namely which loads are asked
for and who waits for them, the signals, the list of parked connections and the gauge that shows
its length.
-/

namespace FileServer.Reactor

variable {reactor next last : Reactor} {key : Nat} {need : Need}

/-- The gauge of parked connections. -/
def gauge (reactor : Reactor) : Nat := reactor.shop.hub.counters.waiting

/-- The work of the disk and what is known of it stay as they are, and every connection of `next`
waits for a load that it waited for, or for none. -/
structure Still (reactor next : Reactor) : Prop where
  /-- No connection waits for anything new. -/
  conns : ∀ key slot name ticket, next.conns.get? key = some slot →
    slot.conn.phase.load? = some (name, ticket) →
    ∃ old, reactor.conns.get? key = some old ∧ old.conn.phase.load? = some (name, ticket)
  /-- The same loads are asked for. -/
  queue : next.shop.hub.queue = reactor.shop.hub.queue
  /-- The same signals are there. -/
  notifier : next.shop.notifier = reactor.shop.notifier
  /-- The same connections are listed. -/
  waiting : next.waiting = reactor.waiting
  /-- The gauge shows the same. -/
  gauge : next.gauge = reactor.gauge
  /-- Nobody has told the reactor to stop, or to go on. -/
  stopping : next.stopping = reactor.stopping
  /-- What is pending of the notifier stays so. -/
  pending : .notifier ∈ reactor.poller.pending → .notifier ∈ next.poller.pending

/-- Where nothing happens all is still. -/
theorem Still.refl (reactor : Reactor) : reactor.Still reactor where
  conns _ slot _ _ hslot hload := ⟨slot, hslot, hload⟩
  queue := rfl
  notifier := rfl
  waiting := rfl
  gauge := rfl
  stopping := rfl
  pending := id

/-- What is still twice is still. -/
theorem Still.trans (h : reactor.Still next) (hlast : next.Still last) : reactor.Still last where
  conns key slot name ticket hslot hload := by
    obtain ⟨middle, hmiddle, hsame⟩ := hlast.conns key slot name ticket hslot hload
    exact h.conns key middle name ticket hmiddle hsame
  queue := hlast.queue.trans h.queue
  notifier := hlast.notifier.trans h.notifier
  waiting := hlast.waiting.trans h.waiting
  gauge := hlast.gauge.trans h.gauge
  stopping := hlast.stopping.trans h.stopping
  pending hpending := hlast.pending (h.pending hpending)

/-- Connections, disk and list are the same. -/
theorem still_of_eq (hconns : next.conns = reactor.conns) (hshop : next.shop = reactor.shop)
    (hwaiting : next.waiting = reactor.waiting) (hstopping : next.stopping = reactor.stopping)
    (hpending : .notifier ∈ reactor.poller.pending → .notifier ∈ next.poller.pending) :
    reactor.Still next where
  conns _ slot _ _ hslot hload := ⟨slot, hconns ▸ hslot, hload⟩
  queue := by rw [hshop]
  notifier := by rw [hshop]
  waiting := hwaiting
  gauge := by rw [Reactor.gauge, hshop, Reactor.gauge]
  stopping := hstopping
  pending := hpending

/-- The beginning of a drive. -/
theorem still_renew (reactor : Reactor) (slot : Slot) : reactor.Still (reactor.renew slot) :=
  still_of_eq rfl rfl rfl rfl id

/-- Closing a connection. -/
theorem still_close (reactor : Reactor) (key : Nat) : reactor.Still (reactor.close key) where
  conns other slot name ticket hslot hload := by
    rw [get?_close] at hslot
    split at hslot
    · cases hslot
    · exact ⟨slot, hslot, hload⟩
  queue := by
    unfold close
    split <;> rfl
  notifier := by
    unfold close
    split <;> rfl
  waiting := by
    unfold close
    split <;> rfl
  gauge := by
    unfold close
    split <;> rfl
  stopping := by
    unfold close
    split <;> rfl
  pending hpending := by
    unfold close
    split
    · exact hpending
    · apply Poller.mem_pending_delete hpending
      simp

/-- Arming a watch. -/
theorem still_watch (reactor : Reactor) (key : Nat) (slot : Slot) (interest : Interest) :
    reactor.Still (reactor.watch key slot interest) := by
  unfold watch
  rcases hrearm : reactor.poller.rearm (.socket slot.socket) interest
    (reactor.network.ready slot.socket) with ⟨armed, poller⟩
  have hpoller : reactor.Still { reactor with poller } :=
    still_of_eq rfl rfl rfl rfl (Poller.mem_pending_rearm hrearm)
  cases armed with
  | false => exact hpoller.trans (still_close { reactor with poller } key)
  | true => exact hpoller

/-- **What a connection gets** has nothing to do with the disk, unless it is parked. -/
theorem still_provide (reactor : Reactor) (key : Nat) (hneed : need ≠ .disk) :
    reactor.Still (reactor.provide key need) := by
  unfold provide
  split
  · exact .refl reactor
  · rename_i slot _
    cases need with
    | input => exact still_watch reactor key slot .readable
    | output => exact still_watch reactor key slot .writable
    | disk => exact absurd rfl hneed
    | close => exact still_close reactor key

/-- What a client answers. -/
theorem still_answer (reactor : Reactor) (slot : Slot) : reactor.Still (reactor.answer slot) :=
  still_of_eq rfl rfl rfl rfl id

/-- New connections wait for nothing. -/
theorem Registered.still {socket : Nat} (h : Registered reactor socket next) :
    reactor.Still next where
  conns key slot name ticket hslot hload := by
    rcases h.conns_or hslot with rfl | hold
    · cases hload
    · exact ⟨slot, hold, hload⟩
  queue := by cases h <;> rfl
  notifier := by cases h <;> rfl
  waiting := by cases h <;> rfl
  gauge := by cases h <;> rfl
  stopping := by cases h <;> rfl
  pending hpending := by
    cases h with
    | dismissed _ _ hkept => exact hkept hpending
    | taken _ _ hkept => exact hkept hpending

/-- Accepting clients. -/
theorem Accepted.still (h : Accepted reactor next) : reactor.Still next := by
  induction h with
  | done => exact still_of_eq rfl rfl rfl rfl id
  | @client reactor _ _ _ backlog faults _ hfirst _ ih =>
      have htaken : reactor.Still
          { reactor with network := { reactor.network with faults, backlog } } :=
        still_of_eq rfl rfl rfl rfl id
      exact htaken.trans (hfirst.still.trans ih)

/-- **Accepting** clients has nothing to do with the disk. -/
theorem still_acceptAll (reactor : Reactor) : reactor.Still reactor.acceptAll :=
  reactor.accepted_acceptAll.still

/-- The flag of a connection says nothing about its load. -/
theorem still_flag (reactor : Reactor) (key : Nat) (flag : Bool) :
    reactor.Still
      { reactor with conns := reactor.conns.modify key ({ · with parked := flag }) } where
  conns other slot name ticket hslot hload := by
    have hget := (Slab.get?_modify reactor.conns key _ other).symm.trans hslot
    split at hget
    · obtain ⟨old, hold, rfl⟩ := Option.map_eq_some_iff.1 hget
      exact ⟨old, hold, hload⟩
    · exact ⟨slot, hget, hload⟩
  queue := rfl
  notifier := rfl
  waiting := rfl
  gauge := rfl
  stopping := rfl
  pending := id

end FileServer.Reactor
