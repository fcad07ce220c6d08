import FileServer.Proofs.Reactor.Still
import FileServer.Proofs.Reactor.Strokes

/-!
# Every stroke leaves every connection with one owner

Where the reactor stands says what it has in hand: the connections in whose events its wait has
ended and that it has not handled yet (`Thread.held`), and in the course of a revival those of the
parked connections that have not had their turn (`Thread.due`). With these, `Owned` holds after
every stroke of the reactor, of a worker, of a client and of whoever stops the server
(`Owned.act`), and so in everything that can come about (`owned_of_reachable`).
-/

namespace FileServer

namespace Reactor.Owned

variable {reactor : Reactor} {held parked due : List Nat} {key : Nat} {slot : Slot} {need : Need}

/-- A step in its drive leaves a connection in hand. -/
theorem putBack (h : reactor.Owned held parked) (hslot : reactor.conns.get? key = some slot)
    (hkey : key ∈ held) (turn : Turn) : (reactor.putBack key slot turn).Owned held parked :=
  h.drive hslot hkey turn.conn rfl rfl Array.size_modify rfl

/-- What its client answers leaves a connection with its owner. -/
theorem answer (h : reactor.Owned held parked) (slot : Slot) :
    (reactor.answer slot).Owned held parked :=
  h.congr rfl (fun _ => rfl) Array.size_modify rfl

/-- The beginning of its drive leaves a connection with its owner. -/
theorem renew (h : reactor.Owned held parked) (slot : Slot) :
    (reactor.renew slot).Owned held parked :=
  h.congr rfl (fun _ => rfl) Array.size_modify rfl

/-- **A connection in hand gets what it needs**: the poller, the list, or its end. -/
theorem provide (h : reactor.Owned (key :: held) (due ++ reactor.waiting))
    (hslot : reactor.conns.get? key = some slot) (hfits : need.Fits slot.conn.phase) :
    (reactor.provide key need).Owned held (due ++ (reactor.provide key need).waiting) := by
  by_cases hneed : need = .disk
  · subst hneed
    have hparked := h.park hslot hfits
    rw [List.append_assoc] at hparked
    unfold Reactor.provide
    rw [hslot]
    exact hparked
  · rw [(still_provide reactor key hneed).waiting]
    unfold Reactor.provide
    rw [hslot]
    cases need with
    | input => exact h.watch hslot hfits
    | output => exact h.watch hslot hfits
    | disk => exact absurd rfl hneed
    | close => exact h.close

/-- The end of a drive gives the connection away. -/
theorem conclude {turn : Turn} (h : reactor.Owned (key :: held) (due ++ reactor.waiting))
    (hslot : reactor.conns.get? key = some slot) (hfits : need.Fits turn.conn.phase) :
    (reactor.conclude key slot need turn).Owned held
      (due ++ (reactor.conclude key slot need turn).waiting) := by
  have hself : ((reactor.putBack key slot turn).answer slot).conns.get? key
      = some { slot with conn := turn.conn } :=
    (Slab.get?_modify_of_get? hslot _ key).trans (if_pos rfl)
  exact ((h.putBack hslot List.mem_cons_self turn).answer slot).provide hself hfits

end Reactor.Owned

namespace Thread

/-- The connections that the reactor has in hand. -/
def held : Thread → List Nat
  | .dispatch batch _ => Event.keys batch
  | .serve key batch _ => key :: Event.keys batch
  | .reviving key _ => [key]
  | _ => []

/-- The connections that were parked and have not had their turn in a revival. -/
def due : Thread → List Nat
  | .revive keys => keys
  | .reviving _ keys => keys
  | _ => []

end Thread

namespace Threads

variable {initial state next : Threads} {held due : List Nat} {key : Nat}

/-- Every connection has one owner. -/
def Owned (state : Threads) : Prop :=
  state.reactor.Owned state.thread.held (state.thread.due ++ state.reactor.waiting)

/-- At first there is no connection to be owned. -/
theorem owned_opening (settings : Settings) (noDelay : Bool) (hub : Hub) (refusals : Refusals)
    (workers : Nat) : (opening settings noDelay hub refusals workers).Owned := by
  have hnone : ∀ key slot,
      (opening settings noDelay hub refusals workers).reactor.conns.get? key ≠ some slot := by
    intro key slot hslot
    rw [show (opening settings noDelay hub refusals workers).reactor.conns = .empty from rfl,
      Slab.get?_empty] at hslot
    cases hslot
  exact {
    owner := fun key slot hslot => absurd hslot (hnone key slot)
    held_nodup := List.nodup_nil
    parked_nodup := List.nodup_nil
    held_open := fun _ hmem => absurd hmem List.not_mem_nil
    parked_open := fun _ hmem => absurd hmem List.not_mem_nil
    distinct := fun key _ slot _ hslot => absurd hslot (hnone key slot)
    watched := fun socket watch hsome => by cases hsome
    listener := rfl
    notifier := rfl
    accepted := fun key slot hslot => absurd hslot (hnone key slot)
    backlog_nodup := List.nodup_nil
    backlog_lt := fun _ hmem => absurd hmem List.not_mem_nil }

/-! ### The reactor -/

/-- One step in the drive of a connection in hand. -/
theorem owned_stepDrive {again after : Thread}
    (h : state.reactor.Owned (key :: held) (due ++ state.reactor.waiting))
    (hagain : again.held = key :: held ∧ again.due = due)
    (hafter : after.held = held ∧ after.due = due) :
    (state.stepDrive key again after).Owned := by
  obtain ⟨slot, hslot⟩ := Option.isSome_iff_exists.1 (h.held_open key List.mem_cons_self)
  have hdriven := driven_stepDrive hslot again after
  generalize state.stepDrive key again after = next at hdriven ⊢
  cases hdriven with
  | @on turn hstep =>
      rw [Owned, hagain.1, hagain.2]
      exact h.putBack hslot List.mem_cons_self turn
  | @rest need turn hstep =>
      rw [Owned, hafter.1, hafter.2]
      exact h.conclude hslot (Turn.fits_step hstep)

/-- **A stroke of the reactor** leaves every connection with one owner. -/
theorem Owned.struck (h : state.Owned) (hstruck : Struck state next) : next.Owned := by
  rw [Owned] at h
  cases hstruck with
  | check hthread =>
      rw [hthread] at h
      rw [Owned]
      simp only
      split <;> exact h
  | @wait most batch poller hthread hwait =>
      rw [hthread] at h
      have hcollected := Poller.collected_collect state.reactor.ready most
        state.reactor.poller.pending state.reactor.poller
      unfold Poller.wait at hwait
      rw [hwait] at hcollected
      exact Reactor.Owned.wait hcollected h
  | handled hthread =>
      rw [hthread] at h
      rw [Owned]
      simp only
      split <;> exact h
  | @accept event batch signalled hthread htoken =>
      rw [hthread, Thread.held, Event.keys_cons_of_key? (by rw [Event.key?, htoken])] at h
      rw [Owned, (Reactor.still_acceptAll state.reactor).waiting]
      exact h.acceptAll
  | @hear event batch signalled hthread htoken =>
      rw [hthread, Thread.held, Event.keys_cons_of_key? (by rw [Event.key?, htoken])] at h
      exact h
  | @fail event batch signalled key hthread htoken =>
      rw [hthread, Thread.held, Event.keys_cons htoken] at h
      rw [Owned, (Reactor.still_close state.reactor key).waiting]
      exact h.close
  | @skip event batch signalled key hthread htoken _ hnone =>
      rw [hthread, Thread.held, Event.keys_cons htoken] at h
      have hopen := h.held_open key List.mem_cons_self
      rw [hnone] at hopen
      cases hopen
  | @begin event batch signalled key slot hthread htoken =>
      rw [hthread, Thread.held, Event.keys_cons htoken] at h
      exact h.renew slot
  | serve hthread =>
      rw [hthread] at h
      exact owned_stepDrive h ⟨rfl, rfl⟩ ⟨rfl, rfl⟩
  | drain hthread =>
      rw [hthread] at h
      rw [Owned]
      simp only [Thread.due, List.append_nil]
      exact h.congr rfl (fun _ => rfl) rfl rfl
  | revived hthread =>
      rw [hthread] at h
      exact h.congr rfl (fun _ => rfl) rfl rfl
  | @pass key keys hthread hpass =>
      rw [hthread] at h
      obtain ⟨slot, hslot⟩ := Option.isSome_iff_exists.1 (h.parked_open key List.mem_cons_self)
      cases (hpass slot hslot).symm.trans (h.unpark hslot).1
  | @revive key keys slot hthread hslot _ =>
      rw [hthread] at h
      obtain ⟨-, htaken⟩ := h.unpark hslot
      exact htaken.renew slot
  | reviving hthread =>
      rw [hthread] at h
      exact owned_stepDrive h ⟨rfl, rfl⟩ ⟨rfl, rfl⟩

/-! ### Everybody else -/

/-- Hearing of a signal leaves the watches. -/
theorem watch?_share (reactor : Reactor) (shop : Workshop) (source : Source) :
    (reactor.share shop).poller.watch? source = reactor.poller.watch? source := by
  unfold Reactor.share
  simp only
  split
  · rfl
  · exact Poller.watch?_raise _ _ _ _

/-- **Every stroke** leaves every connection with one owner. -/
theorem Owned.act {action : Action} (h : state.Owned) (hnext : state.act action = some next) :
    next.Owned := by
  cases action with
  | reactor most => exact h.struck (struck_of_strike hnext)
  | interrupt most => exact h.struck (struck_of_interrupt hnext)
  | worker number content =>
      obtain ⟨⟨hand, shop⟩, -, rfl⟩ := Option.map_eq_some_iff.1 hnext
      exact h.congr rfl (watch?_share _ shop) rfl rfl
  | connect =>
      obtain rfl := Option.some.inj hnext
      exact Reactor.Owned.connect h
  | client number act =>
      obtain rfl := Option.some.inj hnext
      exact h.congr rfl (fun _ => Poller.watch?_raise _ _ _ _) Array.size_modify rfl
  | setFlag =>
      obtain rfl := Option.some.inj hnext
      exact h.congr rfl (fun _ => rfl) rfl rfl
  | signal =>
      rw [Threads.act] at hnext
      split at hnext
      · obtain rfl := Option.some.inj hnext
        exact h.congr rfl (watch?_share _ _) rfl rfl
      · cases hnext

/-- **Whatever comes about**, every connection has one owner. -/
theorem owned_of_reachable (hinitial : initial.Owned)
    (h : Reachable initial state) : state.Owned := by
  induction h with
  | refl => exact hinitial
  | act action _ hnext ih => exact ih.act hnext

end Threads

end FileServer
