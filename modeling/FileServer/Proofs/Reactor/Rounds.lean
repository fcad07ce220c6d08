import Mathlib.Logic.Relation
import FileServer.Proofs.Reactor.Owners

/-!
# Rounds are sequences of strokes

`Reactor.round` does in one go what the reactor does stroke by stroke beside others. Left to itself,
the reactor comes from the first stroke of a drive to what `Reactor.drive` makes of it
(`alone_drive`), and so it is with an event, a batch, a revival and a whole round (`alone_round`). A
round that has no event to handle is a wait that is interrupted.

So what a server comes to that runs round after round (`reachable_runFor`, `reachable_pump`), with a
worker that does load after load (`reachable_work`), is among what can come about when all of them
act side by side, and has every property that is shown of the latter.
-/

namespace FileServer

namespace Reactor

variable {reactor : Reactor} {key : Nat} {slot : Slot}

/-- After a step the drive is where the step has led it. -/
theorem turn_putBack (turn : Turn) (hlt : slot.socket < reactor.network.sockets.size) :
    (reactor.putBack key slot turn).turn { slot with conn := turn.conn } = turn := by
  simp [Reactor.turn, putBack, Net.Network.modify, Array.getElem?_modify,
    Array.getElem?_eq_getElem hlt]

/-- Of two steps in a drive the second one counts. -/
theorem putBack_putBack (hslot : reactor.conns.get? key = some slot) (one two : Turn) :
    (reactor.putBack key slot one).putBack key { slot with conn := one.conn } two
      = reactor.putBack key slot two := by
  simp only [putBack, Slab.modify_modify hslot, Net.Network.modify_modify]

/-- A drive that ends after a step ends as if it had begun there. -/
theorem conclude_putBack (hslot : reactor.conns.get? key = some slot) (one two : Turn)
    (need : Need) :
    (reactor.putBack key slot one).conclude key { slot with conn := one.conn } need two
      = reactor.conclude key slot need two := by
  rw [conclude, putBack_putBack hslot, conclude]
  rfl

end Reactor

namespace Threads

variable {initial state next : Threads} {most key : Nat} {slot : Slot} {again after : Thread}

/-! ### The flag -/

/-- What a connection gets leaves the flag. -/
theorem stopping_provide (reactor : Reactor) (key : Nat) (need : Need) :
    (reactor.provide key need).stopping = reactor.stopping := by
  by_cases hneed : need = .disk
  · subst hneed
    unfold Reactor.provide
    split <;> rfl
  · exact (Reactor.still_provide reactor key hneed).stopping

/-- A step in the drive of a connection leaves the flag. -/
theorem stopping_stepDrive (state : Threads) (key : Nat) (again after : Thread) :
    (state.stepDrive key again after).reactor.stopping = state.reactor.stopping := by
  unfold stepDrive
  split
  · rfl
  · split
    · rfl
    · exact stopping_provide _ key _

/-- A stroke of the reactor leaves the flag as it is. -/
theorem stopping_struck (hstruck : Struck state next) :
    next.reactor.stopping = state.reactor.stopping := by
  cases hstruck with
  | accept => exact (Reactor.still_acceptAll _).stopping
  | fail => exact (Reactor.still_close _ _).stopping
  | serve | reviving => exact stopping_stepDrive state _ _ _
  | check | wait | handled | hear | skip | begin | drain | revived | pass | revive => rfl

/-! ### The reactor alone -/

/-- What the reactor comes to by strokes of its own. -/
def Alone (most : Nat) : Threads → Threads → Prop :=
  Relation.ReflTransGen fun state next => state.strike most = some next

/-- Strokes of the reactor leave every connection with one owner. -/
theorem Alone.owned (hleads : Alone most state next) (h : state.Owned) : next.Owned := by
  induction hleads with
  | refl => exact h
  | tail _ hstrike ih => exact ih.struck (struck_of_strike hstrike)

/-- What strokes of the reactor lead to can come about. -/
theorem Alone.reachable (hleads : Alone most state next) (h : Reachable initial state) :
    Reachable initial next := by
  induction hleads with
  | refl => exact h
  | tail _ hstrike ih => exact .act (.reactor most) ih hstrike

/-- **A drive**, step by step. -/
theorem alone_drive (state : Threads)
    (hstrike : ∀ state : Threads, state.thread = again →
      state.strike most = some (state.stepDrive key again after))
    (hthread : state.thread = again) (hslot : state.reactor.conns.get? key = some slot)
    (hlt : slot.socket < state.reactor.network.sockets.size) :
    Alone most state { state with
      reactor := state.reactor.conclude key slot
        ((state.reactor.turn slot).drive state.reactor.settings).1
        ((state.reactor.turn slot).drive state.reactor.settings).2
      thread := after } := by
  generalize hsettings : state.reactor.settings = settings
  generalize hturn : state.reactor.turn slot = turn
  induction turn using Turn.drive.induct settings generalizing state slot with
  | case1 turn need last hstep =>
      have hnext := hstrike state hthread
      simp only [stepDrive, hslot, hsettings, hturn, hstep] at hnext
      rw [Turn.drive_of_rest hstep]
      exact .single hnext
  | case2 turn next hstep ih =>
      have hnext := hstrike state hthread
      simp only [stepDrive, hslot, hsettings, hturn, hstep] at hnext
      have hself : (state.reactor.putBack key slot next).conns.get? key
          = some { slot with conn := next.conn } :=
        (Slab.get?_modify_of_get? hslot _ key).trans (if_pos rfl)
      have hsize : slot.socket < (state.reactor.putBack key slot next).network.sockets.size := by
        simpa [Reactor.putBack, Net.Network.modify] using hlt
      have hrest := ih { state with
        reactor := state.reactor.putBack key slot next
        thread := again } rfl hself hsize hsettings (Reactor.turn_putBack next hlt)
      rw [Turn.drive_of_on hstep]
      rw [Reactor.conclude_putBack hslot] at hrest
      exact hrest.head hnext

/-- The stroke of a reactor that drives a connection for an event. -/
theorem strike_of_serve {batch : List Event} {signalled : Bool}
    (hthread : state.thread = .serve key batch signalled) (most : Nat) :
    state.strike most
      = some (state.stepDrive key (.serve key batch signalled) (.dispatch batch signalled)) := by
  rw [strike, hthread]

/-- The stroke of a reactor that drives a connection that was parked. -/
theorem strike_of_reviving {keys : List Nat} (hthread : state.thread = .reviving key keys)
    (most : Nat) :
    state.strike most = some (state.stepDrive key (.reviving key keys) (.revive keys)) := by
  rw [strike, hthread]

/-- **An event**, from where it is taken up to where it is handled. -/
theorem alone_dispatch {event : Event} {batch : List Event} {signalled : Bool}
    (howned : state.Owned) (hthread : state.thread = .dispatch (event :: batch) signalled) :
    Alone most state { state with
      reactor := state.reactor.dispatch event
      thread := .dispatch batch (signalled || event.token = .notifier) } := by
  cases htoken : event.token with
  | listener =>
      apply Relation.ReflTransGen.single
      simp [strike, hthread, Reactor.dispatch, htoken]
  | notifier =>
      apply Relation.ReflTransGen.single
      simp [strike, hthread, Reactor.dispatch, htoken]
  | connection key =>
      simp only [Reactor.dispatch, htoken, Reactor.onReady, Bool.or_false, decide_false,
        reduceCtorEq]
      cases herror : event.isError with
      | true =>
          apply Relation.ReflTransGen.single
          simp [strike, hthread, htoken, herror]
      | false =>
          rcases hslot : state.reactor.conns.get? key with _ | slot
          · apply Relation.ReflTransGen.single
            simp [strike, hthread, htoken, herror, hslot, Reactor.drive]
          · have hnext : state.strike most = some { state with
                reactor := state.reactor.renew slot
                thread := .serve key batch signalled } := by
              simp [strike, hthread, htoken, herror, hslot]
            have hlt : slot.socket < (state.reactor.renew slot).network.sockets.size := by
              simpa [Reactor.renew, Net.Network.modify] using (howned.accepted key slot hslot).1
            have hdriven := alone_drive
              { state with
                reactor := state.reactor.renew slot
                thread := .serve key batch signalled }
              (fun _ hagain => strike_of_serve hagain most) rfl hslot hlt
            simp only [Reactor.drive, hslot, Bool.false_eq_true, if_false]
            exact hdriven.head hnext

/-- **A batch**, one event after the other. -/
theorem alone_batch {batch : List Event} {signalled : Bool} (howned : state.Owned)
    (hthread : state.thread = .dispatch batch signalled) :
    Alone most state { state with
      reactor := batch.foldl Reactor.dispatch state.reactor
      thread := .dispatch [] (signalled || batch.any fun event => event.token = .notifier) } := by
  induction batch generalizing state signalled with
  | nil =>
      rw [List.any_nil, Bool.or_false, ← hthread]
      exact .refl
  | cons event batch ih =>
      have hfirst : Alone most state _ := alone_dispatch howned hthread
      have hrest := ih (hfirst.owned howned) rfl
      rw [List.any_cons, ← Bool.or_assoc]
      exact hfirst.trans hrest

/-- **A revival**, one connection after the other. -/
theorem alone_revive {keys : List Nat} (howned : state.Owned)
    (hthread : state.thread = .revive keys) :
    Alone most state { state with
      reactor := (keys.foldl Reactor.revive state.reactor).showWaiting
      thread := .check } := by
  induction keys generalizing state with
  | nil =>
      apply Relation.ReflTransGen.single
      rw [strike, hthread]
      rfl
  | cons key keys ih =>
      have hfirst : Alone most state { state with
          reactor := state.reactor.revive key
          thread := .revive keys } := by
        rcases hslot : state.reactor.conns.get? key with _ | slot
        · apply Relation.ReflTransGen.single
          simp [strike, hthread, hslot, Reactor.revive]
        · cases hparked : slot.parked with
          | false =>
              apply Relation.ReflTransGen.single
              simp [strike, hthread, hslot, hparked, Reactor.revive]
          | true =>
              have hnext : state.strike most = some { state with
                  reactor := Reactor.renew { state.reactor with
                    conns := state.reactor.conns.modify key ({ · with parked := false }) } slot
                  thread := .reviving key keys } := by
                simp [strike, hthread, hslot, hparked]
              have hself := Slab.get?_modify_of_get? hslot ({ · with parked := false }) key
              rw [if_pos rfl] at hself
              have hlt : slot.socket < (state.reactor.renew slot).network.sockets.size := by
                simpa [Reactor.renew, Net.Network.modify] using (howned.accepted key slot hslot).1
              have hdriven := alone_drive
                { state with
                  reactor := Reactor.renew { state.reactor with
                    conns := state.reactor.conns.modify key ({ · with parked := false }) } slot
                  thread := .reviving key keys }
                (fun _ hagain => strike_of_reviving hagain most) rfl hself hlt
              have hrevive : state.reactor.revive key = Reactor.drive { state.reactor with
                  conns := state.reactor.conns.modify key ({ · with parked := false }) } key := by
                simp only [Reactor.revive, hslot, hparked, if_true]
              rw [hrevive, Reactor.drive, hself]
              exact hdriven.head hnext
      exact hfirst.trans (ih (hfirst.owned howned) rfl)

/-- **Draining** the notifier, and the revival behind it. -/
theorem alone_drain (howned : state.Owned) (hthread : state.thread = .drain) :
    Alone most state
      { state with reactor := state.reactor.drain.reviveAll, thread := .check } := by
  have hnext : state.strike most = some { state with
      reactor := { state.reactor.drain with waiting := [] }
      thread := .revive state.reactor.waiting } := by
    rw [strike, hthread]
  exact (alone_revive (howned.struck (struck_of_strike hnext)) rfl).head hnext

/-- What the reactor does with a batch in hand, where `signalled` says whether it has heard of a
signal before. -/
theorem alone_handle {batch : List Event} {signalled : Bool} (howned : state.Owned)
    (hthread : state.thread = .dispatch batch signalled) :
    Alone most state { state with
      reactor :=
        if signalled || batch.any fun event => event.token = .notifier then
          (batch.foldl Reactor.dispatch state.reactor).drain.reviveAll
        else batch.foldl Reactor.dispatch state.reactor
      thread := .check } := by
  have hbatch : Alone most state _ := alone_batch howned hthread
  generalize (signalled || batch.any fun event => event.token = .notifier) = heard at hbatch ⊢
  refine hbatch.trans ?_
  cases heard with
  | false => exact .single rfl
  | true =>
      have hnext := (hbatch.owned howned).struck (.handled rfl)
      exact (alone_drain hnext rfl).head rfl

/-- **A round** that has events to handle is what the reactor does on its own. -/
theorem alone_round (howned : state.Owned) (hthread : state.thread = .wait)
    (hsome : (state.reactor.round most).1 ≠ 0) :
    Alone most state
      { state with reactor := (state.reactor.round most).2, thread := .check } := by
  rcases hwait : state.reactor.poller.wait most state.reactor.ready with ⟨batch, poller⟩
  have hround : state.reactor.round most
      = (batch.length, { state.reactor with poller }.handle batch) := by
    rw [Reactor.round, hwait]
  have hnext : state.strike most = some { state with
      reactor := { state.reactor with poller }
      thread := .dispatch batch false } := by
    cases batch with
    | nil =>
        rw [hround] at hsome
        exact absurd rfl hsome
    | cons event batch => simp only [strike, hthread, hwait]
  rw [hround]
  exact (alone_handle (howned.struck (struck_of_strike hnext)) rfl).head hnext

/-! ### Rounds in a row -/

/-- What the reactor comes to by strokes of its own, where a wait may be interrupted. -/
def Performs (most : Nat) : Threads → Threads → Prop :=
  Relation.ReflTransGen fun state next =>
    state.strike most = some next ∨ state.interrupt most = some next

/-- Strokes without an interruption. -/
theorem Alone.performs (h : Alone most state next) : Performs most state next :=
  Relation.ReflTransGen.mono (fun _ _ => Or.inl) _ _ h

/-- What every stroke keeps is kept, and an interruption is a stroke as well. -/
theorem Performs.struck (h : Performs most state next) {P : Threads → Prop}
    (hstruck : ∀ state next, P state → Struck state next → P next) (hstate : P state) : P next := by
  induction h with
  | refl => exact hstate
  | tail _ hstep ih =>
      rcases hstep with hstrike | hinterrupt
      · exact hstruck _ _ ih (struck_of_strike hstrike)
      · exact hstruck _ _ ih (struck_of_interrupt hinterrupt)

/-- Every connection is left with one owner. -/
theorem Performs.owned (h : Performs most state next) (howned : state.Owned) : next.Owned :=
  h.struck (fun _ _ => Owned.struck) howned

/-- The flag is left. -/
theorem Performs.stopping (h : Performs most state next) :
    next.reactor.stopping = state.reactor.stopping :=
  h.struck (fun _ _ hsame hstruck => (stopping_struck hstruck).trans hsame) rfl

/-- What is performed can come about. -/
theorem Performs.reachable (h : Performs most state next) (hreach : Reachable initial state) :
    Reachable initial next := by
  induction h with
  | refl => exact hreach
  | tail _ hstep ih =>
      rcases hstep with hstrike | hinterrupt
      · exact .act (.reactor most) ih hstrike
      · exact .act (.interrupt most) ih hinterrupt

/-- **Every round**, with events or without. -/
theorem performs_round (howned : state.Owned) (hthread : state.thread = .wait) :
    Performs most state
      { state with reactor := (state.reactor.round most).2, thread := .check } := by
  by_cases hsome : (state.reactor.round most).1 = 0
  · rcases hwait : state.reactor.poller.wait most state.reactor.ready with ⟨batch, poller⟩
    have hround : state.reactor.round most
        = (batch.length, { state.reactor with poller }.handle batch) := by
      rw [Reactor.round, hwait]
    rw [hround] at hsome ⊢
    obtain rfl := List.length_eq_zero_iff.1 hsome
    have hnext : state.interrupt most = some { state with
        reactor := { state.reactor with poller }
        thread := .dispatch [] false } := by
      simp only [interrupt, hthread, hwait]
    exact .head (Or.inr hnext) (.single (Or.inl rfl))
  · exact (alone_round howned hthread hsome).performs

/-- The same, from where the reactor looks whether it was told to stop. -/
theorem performs_round_of_check (howned : state.Owned) (hthread : state.thread = .check)
    (hstopping : state.reactor.stopping = false) :
    Performs most state { state with reactor := (state.reactor.round most).2 } := by
  have hnext : state.strike most = some { state with thread := .wait } := by
    rw [strike, hthread, hstopping]
    rfl
  have hround : Performs most { state with thread := .wait } _ :=
    performs_round (howned.struck (struck_of_strike hnext)) rfl
  rw [← hthread] at hround
  exact hround.head (Or.inl hnext)

/-- **Serving** is a sequence of strokes. -/
theorem performs_runFor (rounds : Nat) (howned : state.Owned) (hthread : state.thread = .check) :
    Performs most state { state with reactor := state.reactor.runFor most rounds } := by
  induction rounds generalizing state with
  | zero => exact .refl
  | succ rounds ih =>
      rw [Reactor.runFor]
      split
      · exact .refl
      · rename_i hstopping
        have hround : Performs most state _ :=
          performs_round_of_check howned hthread (Bool.eq_false_iff.2 hstopping)
        exact hround.trans (ih (hround.owned howned) hthread)

/-- **Pumping** is one as well, as long as nobody has told the reactor to stop. -/
theorem performs_pumpFor (rounds : Nat) (howned : state.Owned) (hthread : state.thread = .check)
    (hstopping : state.reactor.stopping = false) :
    Performs most state { state with reactor := Reactor.pumpFor most rounds state.reactor } := by
  induction rounds generalizing state with
  | zero => exact .refl
  | succ rounds ih =>
      have hround : Performs most state _ := performs_round_of_check howned hthread hstopping
      have hcalm := hround.stopping.trans hstopping
      rw [Reactor.pumpFor]
      split
      · rename_i hlast
        rwa [hlast] at hround
      · rename_i hmore
        rw [hmore] at hround hcalm
        exact hround.trans (ih (hround.owned howned) hthread hcalm)

/-- **What a server comes to that serves for some rounds** can come about. -/
theorem reachable_runFor (rounds : Nat) (hinitial : initial.Owned) (h : Reachable initial state)
    (hthread : state.thread = .check) (most : Nat) :
    Reachable initial { state with reactor := state.reactor.runFor most rounds } :=
  (performs_runFor rounds (owned_of_reachable hinitial h) hthread).reachable h

/-- **What a server comes to that is pumped** can come about. -/
theorem reachable_pump (hinitial : initial.Owned) (h : Reachable initial state)
    (hthread : state.thread = .check) (hstopping : state.reactor.stopping = false) (most : Nat) :
    Reachable initial { state with reactor := state.reactor.pump most } :=
  (performs_pumpFor _ (owned_of_reachable hinitial h) hthread hstopping).reachable h

/-! ### Workers -/

/-- A stroke of a worker, where nobody has signalled since the reactor was as `reactor`. -/
theorem act_worker {reactor : Reactor} {thread : Thread} {hands : List Hand} {number : Nat}
    {hand after : Hand} {content : Content} {one two : Workshop} {stopping stopped : Nat}
    (hlt : number < hands.length) (hquiet : one.notifier = reactor.shop.notifier)
    (hact : hand.act content one = some (after, two)) :
    act ⟨reactor.share one, thread, hands.set number hand, stopping, stopped⟩
        (.worker number content)
      = some ⟨reactor.share two, thread, hands.set number after, stopping, stopped⟩ := by
  have hshare : (reactor.share one).share two = reactor.share two := by
    simp only [Reactor.share, hquiet, if_true]
  have hshop : hand.act content (reactor.share one).shop = some (after, two) := hact
  simp only [act, List.getElem?_set_self hlt, Option.bind_some, hshop, Option.map_some, hshare,
    List.set_set]

/-- **A worker that takes a task and does it** makes strokes of its own. A free worker is free
again, or has ended if the task was a stop. -/
theorem reachable_work {number : Nat} (h : Reachable initial state)
    (hfree : state.hands[number]? = some .free) (read : Path → Content) :
    Reachable initial { state with
      reactor := (state.reactor.work read).2
      hands := if (state.reactor.work read).1 = .stopped then state.hands.set number .ended
        else state.hands } := by
  obtain ⟨hlt, hhand⟩ := List.getElem?_eq_some_iff.1 hfree
  have hsame : state.hands.set number .free = state.hands := by
    rw [← hhand, List.set_getElem_self]
  have hshared : state.reactor.share state.reactor.shop = state.reactor := by
    simp [Reactor.share]
  have hbefore : Reachable initial { state with
      reactor := state.reactor.share state.reactor.shop
      hands := state.hands.set number .free } := by
    rwa [hsame, hshared]
  rcases hwork : state.reactor.shop.work read with ⟨work, shop⟩
  have hreactor : state.reactor.work read = (work, state.reactor.share shop) := by
    rw [Reactor.work, hwork]
  rw [hreactor]
  cases work with
  | loaded =>
      obtain ⟨key, ticket, first, second, third, hfirst, hsecond, hthird, hlast⟩ :=
        Hand.act_act_act_act read hwork
      have hone := Hand.notifier_act (fun _ _ => Hand.noConfusion) hfirst
      have htwo := (Hand.notifier_act (fun _ _ => Hand.noConfusion) hsecond).trans hone
      have hthree := (Hand.notifier_act (fun _ _ => Hand.noConfusion) hthird).trans htwo
      have hheld := hbefore.act (.worker number _) (act_worker hlt rfl hfirst)
      have hpublished := hheld.act (.worker number _) (act_worker hlt hone hsecond)
      have hmarked := hpublished.act (.worker number _) (act_worker hlt htwo hthird)
      have hdone := hmarked.act (.worker number _) (act_worker hlt hthree hlast)
      rw [hsame] at hdone
      exact hdone
  | idle =>
      obtain rfl := Workshop.eq_of_idle hwork
      rwa [hshared]
  | stopped =>
      have hstop := Hand.act_of_stopped hwork (.file [])
      exact hbefore.act (.worker number (.file [])) (act_worker hlt rfl hstop)

end Threads

end FileServer
