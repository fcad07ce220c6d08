import FileServer.Proofs.Reactor.Keys
import FileServer.Proofs.Reactor.Owners

/-!
# Whom an event reaches

The token of a watch is the key of a slot, and keys are used again: the slot of a connection that
was closed is given to the next one, perhaps in the same batch. What tells connections apart is the
socket they stand on, as no two connections ever stand on the same one (`Routed.distinct`,
`Routed.fresh`).

Here a wait may end in any events of watches that are set, many or few, in any order, armed or not,
as long as no watch on a socket gives two (`Step`, `Poller.Gives`). So a parked connection may be
closed for an event of its own while its key stays on the list, and the next connection under this
key may be parked as well. An event in hand is traced back to the wait it came from: `Reported` says
that the watch on a socket has given it under a key, and that it was not handled since. In the same
way `Listed` says that the connection on a socket was put on the list under a key, and that its turn
is not over since.

No event reaches another connection than the one whose watch has given it, no parked connection is
taken for another one, and closing a connection leaves all others and the list (`routed_of_arises`).
What carries this is that the keys in hand differ and are open, so none of them is given again
before it is handled, and that the flag of a slot goes with the connection and not with its key.
-/

namespace FileServer

namespace Thread

/-- The connections whose events the reactor has in hand. -/
def reported : Thread → List Nat
  | .dispatch batch _ => Event.keys batch
  | .serve key batch _ => key :: Event.keys batch
  | _ => []

/-- The connection on which the reactor is about to act. -/
def acting? : Thread → Option Nat
  | .dispatch (event :: _) _ => event.key?
  | .serve key _ _ => some key
  | .revive (key :: _) => some key
  | .reviving key _ => some key
  | _ => none

end Thread

namespace Threads

variable {initial state next : Threads} {key socket : Nat} {slot : Slot}
  {told : List (Source × Event)} {poller : Poller}

/-! ### Steps and histories -/

/-- A step of a server: a wait that ends in whatever it may end in, or any other stroke. -/
inductive Step (state : Threads) : Threads → Prop where
  /-- Somebody acts. -/
  | act {next : Threads} (action : Action) (hact : state.act action = some next)
      (hbusy : state.thread = .wait → ∀ most, action ≠ .reactor most) : Step state next
  /-- The wait of the reactor ends. -/
  | wait {told : List (Source × Event)} {poller : Poller} (hthread : state.thread = .wait)
      (hgives : state.reactor.poller.Gives told poller) :
      Step state { state with
        reactor := { state.reactor with poller }
        thread := .dispatch (told.map Prod.snd) false }

/-- What can come about from a state in any number of steps. -/
inductive Arises (initial : Threads) : Threads → Prop where
  /-- The state itself. -/
  | refl : Arises initial initial
  /-- What a step makes of a state that can come about. -/
  | step {state next : Threads} :
      Arises initial state → Step state next → Arises initial next

/-- The connection under the key is parked, or a revival has begun with it. -/
def Awaits (state : Threads) (key : Nat) : Prop :=
  ∃ slot, state.reactor.conns.get? key = some slot ∧
    (slot.parked = true ∨ ∃ keys, state.thread = .reviving key keys)

/-- The reactor has an event in hand that the watch on the socket has given it under the key. -/
inductive Reported (initial : Threads) : Threads → Nat → Nat → Prop where
  /-- The event is given. -/
  | told {state : Threads} {told : List (Source × Event)} {poller : Poller} {key socket : Nat}
      {event : Event} (hstate : Arises initial state) (hthread : state.thread = .wait)
      (hgives : state.reactor.poller.Gives told poller)
      (hmem : (.socket socket, event) ∈ told) (htoken : event.token = .connection key) :
      Reported initial
        { state with
          reactor := { state.reactor with poller }
          thread := .dispatch (told.map Prod.snd) false } key socket
  /-- It is still in hand. -/
  | later {state next : Threads} {key socket : Nat} (h : Reported initial state key socket)
      (hstep : Step state next) (hmem : key ∈ next.thread.reported) :
      Reported initial next key socket

/-- The connection on the socket was put on the list under the key, and its turn is not over. -/
inductive Listed (initial : Threads) : Threads → Nat → Nat → Prop where
  /-- It is put on the list. -/
  | parked {state next : Threads} {key : Nat} {slot : Slot} (hstate : Arises initial state)
      (hstep : Step state next) (hwaiting : next.reactor.waiting = state.reactor.waiting ++ [key])
      (hslot : next.reactor.conns.get? key = some slot) (hparked : slot.parked = true) :
      Listed initial next key slot.socket
  /-- Its turn is still to come, or has begun. -/
  | later {state next : Threads} {key socket : Nat} (h : Listed initial state key socket)
      (hstep : Step state next) (hawaits : next.Awaits key) : Listed initial next key socket

/-- A connection stands on the socket, or has stood on it. -/
inductive Met (initial : Threads) : Threads → Nat → Prop where
  /-- It stands there. -/
  | here {state : Threads} {key : Nat} {slot : Slot} (hstate : Arises initial state)
      (hslot : state.reactor.conns.get? key = some slot) : Met initial state slot.socket
  /-- It has stood there. -/
  | later {state next : Threads} {socket : Nat} (h : Met initial state socket)
      (hstep : Step state next) : Met initial next socket

/-! ### What a step can do -/

/-- What holds of every step. -/
structure Moved (state next : Threads) : Prop where
  /-- Only the connection on which the reactor acts is changed. It has an event in hand, or was
  parked. -/
  acting : ∀ key slot, state.reactor.conns.get? key = some slot →
    next.reactor.conns.get? key ≠ some slot →
    state.thread.acting? = some key ∧ (key ∈ state.thread.reported ∨ state.Awaits key)
  /-- A connection that stays open keeps its socket. -/
  socket : ∀ key slot after, state.reactor.conns.get? key = some slot →
    next.reactor.conns.get? key = some after → after.socket = slot.socket
  /-- A new connection stands on a socket that has waited to be accepted. -/
  fresh : ∀ key slot, state.reactor.conns.get? key = none →
    next.reactor.conns.get? key = some slot → slot.socket ∈ state.reactor.network.backlog
  /-- Closing a connection leaves the others, and the list. -/
  closing : ∀ key slot, state.reactor.conns.get? key = some slot →
    next.reactor.conns.get? key = none →
    (∀ other, other ≠ key → next.reactor.conns.get? other = state.reactor.conns.get? other) ∧
      next.reactor.waiting = state.reactor.waiting ∧ next.thread.due = state.thread.due
  /-- What is closed is not in hand any more. -/
  closed : ∀ key slot, state.reactor.conns.get? key = some slot →
    next.reactor.conns.get? key = none → state.thread.reported.Nodup →
    key ∉ next.thread.reported
  /-- What is in hand was so before. -/
  reported : state.thread ≠ .wait → next.thread.reported.Sublist state.thread.reported
  /-- Who is parked was so before, or is parked now. -/
  awaits : ∀ key, next.Awaits key → state.Awaits key ∨
    next.reactor.waiting = state.reactor.waiting ++ [key] ∧
      ∃ slot, next.reactor.conns.get? key = some slot ∧ slot.parked = true
  /-- Watches and connections belong together. -/
  keyed : state.reactor.Keyed → next.reactor.Keyed
  /-- Whoever was accepted has been accepted. -/
  settled : ∀ socket, state.reactor.Settled socket → next.reactor.Settled socket

namespace Moved

/-- A step in which no connection is touched. -/
theorem of_eq (hconns : next.reactor.conns = state.reactor.conns)
    (hkeyed : state.reactor.Keyed → next.reactor.Keyed)
    (hsettled : ∀ socket, state.reactor.Settled socket → next.reactor.Settled socket)
    (hreviving : ∀ key keys, next.thread = .reviving key keys → state.thread = .reviving key keys)
    (hreported : state.thread ≠ .wait → next.thread.reported.Sublist state.thread.reported) :
    Moved state next where
  acting key slot hslot hafter := by
    rw [hconns] at hafter
    exact absurd hslot hafter
  socket key slot after hslot hafter := by
    rw [hconns, hslot] at hafter
    rw [Option.some.inj hafter]
  fresh key slot hnone hslot := by
    rw [hconns, hnone] at hslot
    cases hslot
  closing key slot hslot hnone := by
    rw [hconns, hslot] at hnone
    cases hnone
  closed key slot hslot hnone := by
    rw [hconns, hslot] at hnone
    cases hnone
  reported := hreported
  awaits key hawaits := by
    obtain ⟨slot, hslot, hwhy⟩ := hawaits
    rw [hconns] at hslot
    exact Or.inl ⟨slot, hslot, hwhy.imp_right (Exists.imp fun keys => hreviving key keys)⟩
  keyed := hkeyed
  settled := hsettled

/-- The same, where no client comes in. -/
theorem of_congr (hconns : next.reactor.conns = state.reactor.conns)
    (hkeeps : state.reactor.poller.Keeps next.reactor.poller)
    (hsize : next.reactor.network.sockets.size = state.reactor.network.sockets.size)
    (hbacklog : next.reactor.network.backlog = state.reactor.network.backlog)
    (hreviving : ∀ key keys, next.thread = .reviving key keys → state.thread = .reviving key keys)
    (hreported : state.thread ≠ .wait → next.thread.reported.Sublist state.thread.reported) :
    Moved state next := by
  refine .of_eq hconns (fun h => h.congr hconns hkeeps hsize hbacklog) ?_ hreviving hreported
  intro socket hsettled
  rw [Reactor.Settled, hsize, hbacklog]
  exact hsettled

/-- A step in which the reactor does nothing but go on. -/
theorem of_thread {thread : Thread} (hreviving : ∀ key keys, thread ≠ .reviving key keys)
    (hreported : thread.reported.Sublist state.thread.reported) :
    Moved state { state with thread } :=
  .of_eq rfl id (fun _ => id) (fun key keys hthread => absurd hthread (hreviving key keys))
    fun _ => hreported

/-- A step in which the reactor acts on one connection. -/
theorem of_acted (hacting : state.thread.acting? = some key)
    (hwhy : ∀ slot, state.reactor.conns.get? key = some slot →
      key ∈ state.thread.reported ∨ state.Awaits key)
    (h : state.reactor.Acted key next.reactor)
    (hdue : next.reactor.conns.get? key = none → next.thread.due = state.thread.due)
    (hclosed : next.reactor.conns.get? key = none → state.thread.reported.Nodup →
      key ∉ next.thread.reported)
    (hreported : next.thread.reported.Sublist state.thread.reported)
    (hreviving : ∀ other keys, next.thread = .reviving other keys →
      state.thread = .reviving other keys ∨ state.Awaits other) : Moved state next where
  acting other slot hslot hafter := by
    by_cases hother : other = key
    · subst hother
      exact ⟨hacting, hwhy slot hslot⟩
    · rw [h.others other hother] at hafter
      exact absurd hslot hafter
  socket other slot after hslot hafter := by
    obtain ⟨before, hbefore, hsame⟩ := h.exists_before hafter
    obtain rfl := Option.some.inj (hslot.symm.trans hbefore)
    exact hsame.symm
  fresh other slot hnone hslot := by
    obtain ⟨before, hbefore, -⟩ := h.exists_before hslot
    rw [hnone] at hbefore
    cases hbefore
  closing other slot hslot hnone := by
    by_cases hother : other = key
    · subst hother
      refine ⟨h.others, ?_, hdue hnone⟩
      rcases h.listed with hsame | ⟨-, hopen⟩
      · exact hsame
      · rw [hnone] at hopen
        cases hopen
    · rw [h.others other hother, hslot] at hnone
      cases hnone
  closed other slot hslot hnone hnodup := by
    by_cases hother : other = key
    · subst hother
      exact hclosed hnone hnodup
    · rw [h.others other hother, hslot] at hnone
      cases hnone
  reported _ := hreported
  awaits other hawaits := by
    obtain ⟨after, hafter, hparked | ⟨keys, hthread⟩⟩ := hawaits
    · by_cases hother : other = key
      · subst hother
        obtain ⟨slot, hslot, -⟩ := h.exists_before hafter
        rcases h.flag slot after hslot hafter hparked with hflag | happended
        · exact Or.inl ⟨slot, hslot, Or.inl hflag⟩
        · exact Or.inr ⟨happended, after, hafter, hparked⟩
      · exact Or.inl ⟨after, (h.others other hother).symm.trans hafter, Or.inl hparked⟩
    · rcases hreviving other keys hthread with hsame | hbefore
      · obtain ⟨slot, hslot, -⟩ := h.exists_before hafter
        exact Or.inl ⟨slot, hslot, Or.inr ⟨keys, hsame⟩⟩
      · exact Or.inl hbefore
  keyed hkeyed := hkeyed.acted h
  settled _ := h.settled.2

end Moved

/-- One step in the drive of a connection. -/
theorem acted_stepDrive (state : Threads) (key : Nat) (again after : Thread) :
    state.reactor.Acted key (state.stepDrive key again after).reactor ∧
      ((state.stepDrive key again after).thread = again ∧
          ((state.stepDrive key again after).reactor.conns.get? key).isSome ∨
        (state.stepDrive key again after).thread = after) := by
  rcases hslot : state.reactor.conns.get? key with _ | slot
  · rw [stepDrive, hslot]
    exact ⟨.of_eq key rfl rfl (.of_eq fun _ => rfl) rfl rfl, Or.inr rfl⟩
  · have hdriven := driven_stepDrive hslot again after
    generalize state.stepDrive key again after = next at hdriven ⊢
    cases hdriven with
    | @on turn hstep =>
        refine ⟨Reactor.acted_putBack hslot turn, Or.inl ⟨rfl, ?_⟩⟩
        show ((state.reactor.conns.modify key _).get? key).isSome
        rw [Slab.get?_modify_of_get? hslot, if_pos rfl]
        rfl
    | @rest need turn hstep =>
        exact ⟨Reactor.acted_conclude hslot need turn, Or.inr rfl⟩

/-- A step in which the reactor drives a connection. -/
theorem moved_stepDrive {again after : Thread} (hacting : state.thread.acting? = some key)
    (hwhy : ∀ slot, state.reactor.conns.get? key = some slot →
      key ∈ state.thread.reported ∨ state.Awaits key)
    (hagain : again = state.thread) (hdue : after.due = state.thread.due)
    (hclosed : state.thread.reported.Nodup → key ∉ after.reported)
    (hreported : after.reported.Sublist state.thread.reported)
    (hreviving : ∀ other keys, after ≠ .reviving other keys) :
    Moved state (state.stepDrive key again after) := by
  subst hagain
  obtain ⟨hacted, ⟨hthread, hopen⟩ | hthread⟩ := acted_stepDrive state key state.thread after
  · refine .of_acted hacting hwhy hacted (fun _ => ?_) (fun hnone => ?_) ?_ fun other keys h => ?_
    · rw [hthread]
    · rw [hnone] at hopen
      cases hopen
    · rw [hthread]
    · exact Or.inl (hthread ▸ h)
  · refine .of_acted hacting hwhy hacted (fun _ => ?_) (fun _ => ?_) ?_ fun other keys h => ?_
    · rw [hthread, hdue]
    · rw [hthread]
      exact hclosed
    · rw [hthread]
      exact hreported
    · exact absurd (hthread ▸ h) (hreviving other keys)

/-- Accepting is a step that adds connections. -/
theorem moved_acceptAll {thread : Thread} (hreviving : ∀ key keys, thread ≠ .reviving key keys)
    (hreported : thread.reported.Sublist state.thread.reported) :
    Moved state { state with reactor := state.reactor.acceptAll, thread } := by
  have haccepted := state.reactor.accepted_acceptAll
  have hkept : ∀ key slot, state.reactor.conns.get? key = some slot →
      state.reactor.acceptAll.conns.get? key = some slot := by
    intro key slot hslot
    rcases haccepted.conns key with hsame | ⟨hnone, -⟩
    · rw [hsame, hslot]
    · rw [hslot] at hnone
      cases hnone
  refine {
    acting := fun key slot hslot hafter => absurd (hkept key slot hslot) hafter
    socket := ?_
    fresh := ?_
    closing := ?_
    closed := ?_
    reported := fun _ => hreported
    awaits := ?_
    keyed := fun h => h.acceptAll
    settled := fun _ => haccepted.settled }
  · intro key slot after hslot hafter
    obtain rfl := Option.some.inj ((hkept key slot hslot).symm.trans hafter)
    rfl
  · intro key slot hnone hslot
    rcases haccepted.conns key with hsame | ⟨-, new, hmem, hnew⟩
    · cases (hsame.trans hnone).symm.trans hslot
    · obtain rfl := Option.some.inj (hnew.symm.trans hslot)
      exact hmem
  · intro key slot hslot hnone
    cases (hkept key slot hslot).symm.trans hnone
  · intro key slot hslot hnone
    cases (hkept key slot hslot).symm.trans hnone
  · rintro key ⟨slot, hslot, hparked | ⟨keys, hthread⟩⟩
    · rcases haccepted.conns key with hsame | ⟨-, new, -, hnew⟩
      · exact Or.inl ⟨slot, hsame.symm.trans hslot, Or.inl hparked⟩
      · obtain rfl := Option.some.inj (hnew.symm.trans hslot)
        cases hparked
    · exact absurd hthread (hreviving key keys)

/-- Closing a connection for an error is a step that takes it out of hand. -/
theorem moved_close {event : Event} {batch : List Event} {signalled : Bool}
    (hthread : state.thread = .dispatch (event :: batch) signalled)
    (htoken : event.token = .connection key) :
    Moved state { state with
      reactor := state.reactor.close key
      thread := .dispatch batch signalled } := by
  have hcons : state.thread.reported = key :: Event.keys batch := by
    rw [hthread]
    exact Event.keys_cons htoken batch
  apply @Moved.of_acted state _ key
  case hacting =>
    rw [hthread]
    show event.key? = some key
    rw [Event.key?, htoken]
  case hwhy =>
    intro _ _
    rw [hcons]
    exact Or.inl List.mem_cons_self
  case h => exact Reactor.acted_close state.reactor key
  case hdue =>
    intro _
    rw [hthread]
    rfl
  case hclosed =>
    intro _ hnodup
    rw [hcons] at hnodup
    exact (List.nodup_cons.1 hnodup).1
  case hreported =>
    rw [hcons]
    exact List.sublist_cons_self _ _
  case hreviving => exact fun _ _ => Thread.noConfusion

/-- Beginning with a parked connection is a step that takes its flag down. -/
theorem moved_revive {keys : List Nat} (hthread : state.thread = .revive (key :: keys))
    (hslot : state.reactor.conns.get? key = some slot) (hparked : slot.parked = true) :
    Moved state { state with
      reactor := Reactor.renew
        { state.reactor with
          conns := state.reactor.conns.modify key ({ · with parked := false }) } slot
      thread := .reviving key keys } := by
  have hflag : state.reactor.Acted key
      { state.reactor with
        conns := state.reactor.conns.modify key ({ · with parked := false }) } :=
    .of_modify hslot rfl rfl (Or.inl ⟨rfl, Bool.noConfusion⟩) rfl rfl rfl
  have hself := Slab.get?_modify_of_get? hslot ({ · with parked := false }) key
  rw [if_pos rfl] at hself
  have hawaits : state.Awaits key := ⟨slot, hslot, Or.inl hparked⟩
  apply @Moved.of_acted state _ key
  case hacting => rw [hthread, Thread.acting?]
  case hwhy => exact fun _ _ => Or.inr hawaits
  case h => exact hflag.trans rfl (Reactor.acted_renew _ key slot)
  case hdue =>
    intro hnone
    cases hself.symm.trans hnone
  case hclosed =>
    intro hnone
    cases hself.symm.trans hnone
  case hreported => exact List.nil_sublist _
  case hreviving =>
    intro other rest hrest
    obtain ⟨rfl, -⟩ := Thread.reviving.inj hrest
    exact Or.inr hawaits

/-- A stroke of the reactor that does not end a wait. -/
theorem moved_strike {most : Nat} (h : state.strike most = some next)
    (hbusy : state.thread ≠ .wait) : Moved state next := by
  have hkeys : ∀ (event : Event) (batch : List Event),
      (Event.keys batch).Sublist (Event.keys (event :: batch)) := fun event batch =>
    (List.sublist_cons_self event batch).filterMap _
  cases struck_of_strike h with
  | check hthread =>
      apply Moved.of_thread
      · intro key keys
        split <;> exact Thread.noConfusion
      · split <;> exact List.nil_sublist _
  | wait hthread => exact absurd hthread hbusy
  | @handled signalled hthread =>
      apply Moved.of_thread
      · intro key keys
        split <;> exact Thread.noConfusion
      · split <;> exact List.nil_sublist _
  | accept hthread htoken =>
      apply moved_acceptAll
      · exact fun _ _ => Thread.noConfusion
      · rw [hthread]
        exact hkeys _ _
  | hear hthread htoken =>
      apply Moved.of_thread
      · exact fun _ _ => Thread.noConfusion
      · rw [hthread]
        exact hkeys _ _
  | fail hthread htoken => exact moved_close hthread htoken
  | skip hthread htoken =>
      apply Moved.of_thread
      · exact fun _ _ => Thread.noConfusion
      · rw [hthread]
        exact hkeys _ _
  | @begin event batch signalled key slot hthread htoken =>
      refine .of_congr rfl (.of_eq fun _ => rfl) Array.size_modify rfl
        (fun _ _ => Thread.noConfusion) fun _ => ?_
      rw [hthread]
      show (key :: Event.keys batch).Sublist (Event.keys (event :: batch))
      rw [Event.keys_cons htoken]
  | @serve key batch signalled hthread =>
      refine moved_stepDrive ?_ (fun _ _ => Or.inl ?_) hthread.symm ?_ ?_ ?_
        fun _ _ => Thread.noConfusion
      · rw [hthread]
        rfl
      · rw [hthread]
        exact List.mem_cons_self
      · rw [hthread]
        rfl
      · rw [hthread]
        exact fun hnodup => (List.nodup_cons.1 hnodup).1
      · rw [hthread]
        exact List.sublist_cons_self _ _
  | drain hthread =>
      exact .of_congr rfl (.of_eq fun _ => rfl) rfl rfl (fun _ _ => Thread.noConfusion)
        fun _ => List.nil_sublist _
  | revived hthread =>
      exact .of_congr rfl (.of_eq fun _ => rfl) rfl rfl (fun _ _ => Thread.noConfusion)
        fun _ => List.nil_sublist _
  | pass hthread =>
      apply Moved.of_thread
      · exact fun _ _ => Thread.noConfusion
      · exact List.nil_sublist _
  | revive hthread hslot hparked => exact moved_revive hthread hslot hparked
  | @reviving key keys hthread =>
      refine moved_stepDrive ?_ (fun slot hslot => Or.inr ⟨slot, hslot, Or.inr ⟨keys, hthread⟩⟩)
        hthread.symm ?_ (fun _ => List.not_mem_nil) (List.nil_sublist _)
        fun _ _ => Thread.noConfusion
      · rw [hthread]
        rfl
      · rw [hthread]
        rfl

/-- A wait that is interrupted leaves everything but what the poller has still to look at. -/
theorem exists_of_interrupt {most : Nat} (h : state.interrupt most = some next) :
    state.thread = .wait ∧ ∃ pending, next = { state with
      reactor := { state.reactor with poller := { state.reactor.poller with pending } }
      thread := .dispatch [] false } := by
  unfold interrupt at h
  split at h
  · rename_i poller hthread hwait
    obtain rfl := Option.some.inj h
    obtain ⟨pending, rfl⟩ := Poller.exists_of_wait_nil hwait
    exact ⟨hthread, pending, rfl⟩
  · cases h

/-- A wait that is interrupted is a step in which the reactor takes nothing in hand. -/
theorem moved_interrupt {most : Nat} (h : state.interrupt most = some next) :
    Moved state next ∧ next.thread = .dispatch [] false := by
  obtain ⟨-, pending, rfl⟩ := exists_of_interrupt h
  exact ⟨.of_congr rfl (.of_eq fun _ => rfl) rfl rfl (fun _ _ => Thread.noConfusion)
    fun _ => List.nil_sublist _, rfl⟩

/-- **What a step can do.** -/
theorem moved_of_step (h : Step state next) : Moved state next := by
  cases h with
  | act action hact hbusy =>
      cases action with
      | reactor most => exact moved_strike hact fun hthread => hbusy hthread most rfl
      | interrupt most => exact (moved_interrupt hact).1
      | worker number content =>
          obtain ⟨⟨hand, shop⟩, -, rfl⟩ := Option.map_eq_some_iff.1 hact
          exact .of_congr rfl (.of_eq (watch?_share _ shop)) rfl rfl (fun _ _ => id)
            fun _ => List.Sublist.refl _
      | connect =>
          cases hact
          exact .of_eq rfl (fun h => h.connect) (fun _ h => h.connect) (fun _ _ => id)
            fun _ => List.Sublist.refl _
      | client number act =>
          cases hact
          exact .of_congr rfl (.of_eq fun _ => Poller.watch?_raise _ _ _ _) Array.size_modify rfl
            (fun _ _ => id) fun _ => List.Sublist.refl _
      | setFlag =>
          cases hact
          exact .of_congr rfl (.of_eq fun _ => rfl) rfl rfl (fun _ _ => id)
            fun _ => List.Sublist.refl _
      | signal =>
          obtain ⟨-, hnext⟩ := Option.ite_none_right_eq_some.1 hact
          cases hnext
          exact .of_congr rfl (.of_eq (watch?_share _ _)) rfl rfl (fun _ _ => id)
            fun _ => List.Sublist.refl _
  | wait hthread hgives =>
      exact .of_congr rfl hgives.keeps rfl rfl (fun _ _ => Thread.noConfusion)
        fun hne => absurd hthread hne

/-- A connection that is open before and after a step stands on the same socket. -/
theorem Moved.exists_slot (h : Moved state next) (hslot : state.reactor.conns.get? key = some slot)
    (hopen : (next.reactor.conns.get? key).isSome) :
    ∃ after, next.reactor.conns.get? key = some after ∧ after.socket = slot.socket := by
  obtain ⟨after, hafter⟩ := Option.isSome_iff_exists.1 hopen
  exact ⟨after, hafter, h.socket key slot after hslot hafter⟩

/-! ### What is in hand is open -/

/-- Watches and connections belong together, and the keys in hand are open and differ. -/
structure Keyed (state : Threads) : Prop where
  /-- Watches and connections. -/
  reactor : state.reactor.Keyed
  /-- No key is in hand twice. -/
  nodup : state.thread.reported.Nodup
  /-- What is in hand is a connection. -/
  isSome : ∀ key ∈ state.thread.reported, (state.reactor.conns.get? key).isSome

/-- At first there is neither a connection nor a watch on one. -/
theorem keyed_opening (settings : Settings) (noDelay : Bool) (hub : Hub) (refusals : Refusals)
    (workers : Nat) : (opening settings noDelay hub refusals workers).Keyed := by
  have howned := owned_opening settings noDelay hub refusals workers
  refine ⟨⟨?_, howned.distinct, howned.accepted, howned.backlog_nodup, howned.backlog_lt⟩,
    List.nodup_nil, fun _ hmem => absurd hmem List.not_mem_nil⟩
  intro source watch key hwatch htoken
  cases source with
  | socket socket =>
      obtain ⟨found, slot, hslot, -⟩ := howned.watched socket watch hwatch
      cases hslot.symm.trans (Slab.get?_empty found)
  | listener =>
      obtain rfl := Option.some.inj (howned.listener.symm.trans hwatch)
      cases htoken
  | notifier =>
      obtain rfl := Option.some.inj (howned.notifier.symm.trans hwatch)
      cases htoken

/-- An event of a connection comes from the watch on its socket. -/
theorem Keyed.slot_of_gives {source : Source} {event : Event} (h : state.Keyed)
    (hgives : state.reactor.poller.Gives told poller) (hmem : (source, event) ∈ told)
    (htoken : event.token = .connection key) :
    ∃ slot, state.reactor.conns.get? key = some slot ∧ source = .socket slot.socket := by
  obtain ⟨watch, hwatch, hsame⟩ := hgives.watched source event hmem
  exact h.reactor.watched source watch key hwatch (hsame.trans htoken)

/-- **A wait** puts into the hands of the reactor keys that are open, each once: two events of one
key come from the watch on one socket. -/
theorem Keyed.wait (h : state.Keyed) (hgives : state.reactor.poller.Gives told poller) :
    (Event.keys (told.map Prod.snd)).Nodup ∧
      ∀ key ∈ Event.keys (told.map Prod.snd), (state.reactor.conns.get? key).isSome := by
  constructor
  · rw [Event.keys, List.filterMap_map, List.Nodup, List.pairwise_filterMap]
    refine hgives.once.imp_of_mem ?_
    rintro ⟨source, event⟩ ⟨source', event'⟩ hmem hmem' honce key hkey key' hkey' rfl
    obtain ⟨slot, hslot, rfl⟩ := h.slot_of_gives hgives hmem (Event.token_of_key? hkey)
    obtain ⟨slot', hslot', rfl⟩ := h.slot_of_gives hgives hmem' (Event.token_of_key? hkey')
    obtain rfl := Option.some.inj (hslot.symm.trans hslot')
    exact honce slot.socket rfl rfl
  · intro key hkey
    obtain ⟨event, hevent, hkey⟩ := List.mem_filterMap.1 hkey
    obtain ⟨⟨source, event⟩, hmem, rfl⟩ := List.mem_map.1 hevent
    obtain ⟨slot, hslot, -⟩ := h.slot_of_gives hgives hmem (Event.token_of_key? hkey)
    rw [hslot]
    rfl

/-- Only the reactor moves on, and who interrupts it leaves it nothing to do. -/
theorem thread_act {action : Action} (hact : state.act action = some next)
    (hothers : ∀ most, action ≠ .reactor most) :
    next.thread = state.thread ∨ next.thread = .dispatch [] false := by
  cases action with
  | reactor most => exact absurd rfl (hothers most)
  | interrupt most => exact Or.inr (moved_interrupt hact).2
  | worker number content =>
      obtain ⟨_, -, rfl⟩ := Option.map_eq_some_iff.1 hact
      exact Or.inl rfl
  | connect =>
      cases hact
      exact Or.inl rfl
  | client number act =>
      cases hact
      exact Or.inl rfl
  | setFlag =>
      cases hact
      exact Or.inl rfl
  | signal =>
      obtain ⟨-, hnext⟩ := Option.ite_none_right_eq_some.1 hact
      cases hnext
      exact Or.inl rfl

/-- If the reactor waits, a step puts nothing into its hands, unless its wait ends. -/
theorem Step.of_wait (h : Step state next) (hthread : state.thread = .wait) :
    next.thread.reported = [] ∨ ∃ told poller, state.reactor.poller.Gives told poller ∧
      next = { state with
        reactor := { state.reactor with poller }
        thread := .dispatch (told.map Prod.snd) false } := by
  cases h with
  | act action hact hbusy =>
      refine Or.inl ?_
      rcases thread_act hact (hbusy hthread) with hsame | hidle
      · rw [hsame, hthread]
        rfl
      · rw [hidle]
        rfl
  | wait _ hgives => exact Or.inr ⟨_, _, hgives, rfl⟩

/-- **Every step** keeps it so. A key in hand is closed only when it is taken out of hand. -/
theorem Keyed.step (h : state.Keyed) (hstep : Step state next) : next.Keyed := by
  have hmoved := moved_of_step hstep
  have hreactor := hmoved.keyed h.reactor
  by_cases hthread : state.thread = .wait
  · rcases hstep.of_wait hthread with hnone | ⟨told, poller, hgives, rfl⟩
    · refine ⟨hreactor, ?_, ?_⟩
      · rw [hnone]
        exact List.nodup_nil
      · rw [hnone]
        exact fun _ hmem => absurd hmem List.not_mem_nil
    · obtain ⟨hnodup, hopen⟩ := h.wait hgives
      exact ⟨hreactor, hnodup, hopen⟩
  · have hrest := hmoved.reported hthread
    refine ⟨hreactor, hrest.nodup h.nodup, fun key hkey => ?_⟩
    obtain ⟨slot, hslot⟩ := Option.isSome_iff_exists.1 (h.isSome key (hrest.subset hkey))
    rcases hafter : next.reactor.conns.get? key with _ | after
    · exact absurd hkey (hmoved.closed key slot hslot hafter h.nodup)
    · rfl

/-- **Whatever comes about**, watches and connections belong together. -/
theorem Arises.keyed (hinitial : initial.Keyed) (h : Arises initial state) : state.Keyed := by
  induction h with
  | refl => exact hinitial
  | step _ hstep ih => exact ih.step hstep

/-! ### Histories -/

/-- The poller's own way of ending a wait is one of those that a wait may end in. -/
theorem Owned.gives {events : List Event} (h : state.Owned)
    (hcollected : Poller.Collected state.reactor.poller events poller) :
    ∃ told, told.map Prod.snd = events ∧ state.reactor.poller.Gives told poller := by
  have hshot : ∀ socket watch, state.reactor.poller.watch? (.socket socket) = some watch →
      watch.oneShot = true := by
    intro socket watch hwatch
    obtain ⟨key, slot, hslot, rfl⟩ := h.watched socket watch hwatch
    cases h.owner key slot hslot with
    | poller interest hown => rw [Option.some.inj (hwatch.symm.trans hown), Slot.watch]
    | reactor interest hown => rw [Option.some.inj (hwatch.symm.trans hown), Slot.watch]
    | load interest hown => rw [Option.some.inj (hwatch.symm.trans hown), Slot.watch]
  obtain ⟨told, htold, hgives, -⟩ := hcollected.gives hshot
  exact ⟨told, htold, hgives⟩

/-- Every stroke is a step. -/
theorem Owned.step {action : Action} (h : state.Owned) (hact : state.act action = some next) :
    Step state next := by
  by_cases hwait : state.thread = .wait ∧ ∃ most, action = .reactor most
  · obtain ⟨hthread, most, rfl⟩ := hwait
    have hcollected := Poller.collected_collect state.reactor.ready most
      state.reactor.poller.pending state.reactor.poller
    rw [Threads.act, Threads.strike, hthread] at hact
    simp only at hact
    split at hact
    · cases hact
    · rename_i batch poller _ hwait
      rw [Poller.wait] at hwait
      rw [hwait] at hcollected
      obtain ⟨told, rfl, hgives⟩ := h.gives hcollected
      cases hact
      exact .wait hthread hgives
  · exact .act action hact fun hthread most hmost => hwait ⟨hthread, most, hmost⟩

/-- What strokes alone lead to can come about. -/
theorem Arises.of_reachable (hinitial : initial.Owned) (h : Reachable initial state) :
    Arises initial state := by
  induction h with
  | refl => exact .refl
  | act action hreach hact ih => exact ih.step ((owned_of_reachable hinitial hreach).step hact)

/-! #### Events -/

/-- An event is in hand only in what can come about. -/
theorem Reported.arises (h : Reported initial state key socket) :
    Arises initial state ∧ key ∈ state.thread.reported := by
  induction h with
  | told hstate hthread hgives hmem htoken =>
      refine ⟨hstate.step (.wait hthread hgives), ?_⟩
      refine List.mem_filterMap.2 ⟨_, List.mem_map.2 ⟨_, hmem, rfl⟩, ?_⟩
      rw [Event.key?, htoken]
  | later _ hstep hmem ih => exact ⟨ih.1.step hstep, hmem⟩

/-- **An event in hand is for the connection whose watch has given it.** -/
theorem Reported.exists_slot (hinitial : initial.Keyed) (h : Reported initial state key socket) :
    ∃ slot, state.reactor.conns.get? key = some slot ∧ slot.socket = socket := by
  induction h with
  | told hstate hthread hgives hmem htoken =>
      obtain ⟨slot, hslot, hsource⟩ := (hstate.keyed hinitial).slot_of_gives hgives hmem htoken
      exact ⟨slot, hslot, (Source.socket.inj hsource).symm⟩
  | later h hstep hmem ih =>
      obtain ⟨slot, hslot, hsocket⟩ := ih
      have hopen := ((h.arises.1.keyed hinitial).step hstep).isSome _ hmem
      obtain ⟨after, hafter, hsame⟩ := (moved_of_step hstep).exists_slot hslot hopen
      exact ⟨after, hafter, hsame.trans hsocket⟩

/-- Every event in hand was given by the watch on a socket. -/
theorem exists_reported (hinitial : initial.Keyed) (hnone : initial.thread.reported = [])
    (h : Arises initial state) (hkey : key ∈ state.thread.reported) :
    ∃ socket, Reported initial state key socket := by
  induction h with
  | refl =>
      rw [hnone] at hkey
      exact absurd hkey List.not_mem_nil
  | @step state next hstate hstep ih =>
      by_cases hthread : state.thread = .wait
      · rcases hstep.of_wait hthread with hidle | ⟨told, poller, hgives, rfl⟩
        · rw [hidle] at hkey
          exact absurd hkey List.not_mem_nil
        · obtain ⟨event, hevent, hkey⟩ := List.mem_filterMap.1 hkey
          obtain ⟨⟨source, event⟩, hmem, rfl⟩ := List.mem_map.1 hevent
          have htoken := Event.token_of_key? hkey
          obtain ⟨slot, -, rfl⟩ := (hstate.keyed hinitial).slot_of_gives hgives hmem htoken
          exact ⟨slot.socket, .told hstate hthread hgives hmem htoken⟩
      · have hbefore := ((moved_of_step hstep).reported hthread).subset hkey
        obtain ⟨socket, hsocket⟩ := ih hbefore
        exact ⟨socket, .later hsocket hstep hkey⟩

/-- The watch that has given an event is on the socket of the connection. -/
theorem Arises.reported (hinitial : initial.Keyed) (hnone : initial.thread.reported = [])
    (h : Arises initial state) (hslot : state.reactor.conns.get? key = some slot)
    (hkey : key ∈ state.thread.reported) : Reported initial state key slot.socket := by
  obtain ⟨socket, hsocket⟩ := exists_reported hinitial hnone h hkey
  obtain ⟨found, hfound, rfl⟩ := hsocket.exists_slot hinitial
  obtain rfl := Option.some.inj (hslot.symm.trans hfound)
  exact hsocket

/-! #### Parked connections -/

/-- **What is listed goes with the connection**, and not with its key. -/
theorem Listed.exists_slot (h : Listed initial state key socket) :
    ∃ slot, state.reactor.conns.get? key = some slot ∧ slot.socket = socket := by
  induction h with
  | parked _ _ _ hslot _ => exact ⟨_, hslot, rfl⟩
  | later _ hstep hawaits ih =>
      obtain ⟨slot, hslot, hsocket⟩ := ih
      obtain ⟨after, hafter, -⟩ := hawaits
      exact ⟨after, hafter, ((moved_of_step hstep).socket _ slot after hslot hafter).trans hsocket⟩

/-- Every connection that is parked was put on the list. -/
theorem exists_listed (hnone : ∀ key, ¬ initial.Awaits key) (h : Arises initial state)
    (hawaits : state.Awaits key) : ∃ socket, Listed initial state key socket := by
  induction h with
  | refl => exact absurd hawaits (hnone key)
  | @step state next hstate hstep ih =>
      rcases (moved_of_step hstep).awaits key hawaits with hbefore | ⟨hwaiting, slot, hslot, hparked⟩
      · obtain ⟨socket, hsocket⟩ := ih hbefore
        exact ⟨socket, .later hsocket hstep hawaits⟩
      · exact ⟨slot.socket, .parked hstate hstep hwaiting hslot hparked⟩

/-- The connection that was put on the list is the one that is parked. -/
theorem Arises.listed (hnone : ∀ key, ¬ initial.Awaits key) (h : Arises initial state)
    (hslot : state.reactor.conns.get? key = some slot) (hawaits : state.Awaits key) :
    Listed initial state key slot.socket := by
  obtain ⟨socket, hsocket⟩ := exists_listed hnone h hawaits
  obtain ⟨found, hfound, rfl⟩ := hsocket.exists_slot
  obtain rfl := Option.some.inj (hslot.symm.trans hfound)
  exact hsocket

/-! #### Sockets -/

/-- A socket on which a connection has stood does not wait to be accepted again. -/
theorem Met.settled (hinitial : initial.Keyed) (h : Met initial state socket) :
    state.reactor.Settled socket := by
  induction h with
  | here hstate hslot => exact (hstate.keyed hinitial).reactor.accepted _ _ hslot
  | later _ hstep ih => exact (moved_of_step hstep).settled _ ih

/-- **Events and parked connections keep to the connections they belong to**, in a state and in
every step from it. -/
structure Routed (initial state : Threads) : Prop where
  /-- Every event in hand was given by the watch on a socket. -/
  reported : ∀ key ∈ state.thread.reported, ∃ socket, Reported initial state key socket
  /-- Under its key stands the connection on this socket. -/
  event : ∀ key socket, Reported initial state key socket →
    ∃ slot, state.reactor.conns.get? key = some slot ∧ slot.socket = socket
  /-- A connection that is parked was put on the list under its key, and so was the one with which
  a revival has begun. -/
  listed : ∀ key slot, state.reactor.conns.get? key = some slot →
    (slot.parked = true ∨ ∃ keys, state.thread = .reviving key keys) →
    Listed initial state key slot.socket
  /-- A step changes the connection on which the reactor acts and no other: one whose own watch has
  given an event, or one that was itself put on the list. -/
  acting : ∀ next, Step state next → ∀ key slot, state.reactor.conns.get? key = some slot →
    next.reactor.conns.get? key ≠ some slot → state.thread.acting? = some key ∧
      (Reported initial state key slot.socket ∨ Listed initial state key slot.socket)
  /-- A step that closes a connection leaves the others as they are, and the list of the parked
  connections, and what a revival has still to do. -/
  closing : ∀ next, Step state next → ∀ key slot, state.reactor.conns.get? key = some slot →
    next.reactor.conns.get? key = none →
    (∀ other, other ≠ key → next.reactor.conns.get? other = state.reactor.conns.get? other) ∧
      next.reactor.waiting = state.reactor.waiting ∧ next.thread.due = state.thread.due
  /-- No two connections stand on one socket. -/
  distinct : ∀ key other slot rival, state.reactor.conns.get? key = some slot →
    state.reactor.conns.get? other = some rival → slot.socket = rival.socket → key = other
  /-- The connection that stands under a key after a step has stood there before, or the key was
  vacant and no connection has ever stood on its socket. -/
  fresh : ∀ next, Step state next → ∀ key slot, next.reactor.conns.get? key = some slot →
    (∃ old, state.reactor.conns.get? key = some old ∧ old.socket = slot.socket) ∨
      state.reactor.conns.get? key = none ∧ ¬ Met initial state slot.socket

/-- **No event is misrouted**, and no parked connection is taken for another, whatever the events of
a wait and their order, and however often keys are used again. -/
theorem routed_of_arises {settings : Settings} {noDelay : Bool} {hub : Hub} {refusals : Refusals}
    {workers : Nat} (h : Arises (opening settings noDelay hub refusals workers) state) :
    Routed (opening settings noDelay hub refusals workers) state := by
  have hinitial := keyed_opening settings noDelay hub refusals workers
  have hnone : ∀ key, ¬ (opening settings noDelay hub refusals workers).Awaits key := by
    rintro key ⟨slot, hslot, -⟩
    cases hslot.symm.trans (Slab.get?_empty key)
  exact {
    reported := fun key hkey => exists_reported hinitial rfl h hkey
    event := fun key socket hsocket => hsocket.exists_slot hinitial
    listed := fun key slot hslot hwhy => h.listed hnone hslot ⟨slot, hslot, hwhy⟩
    acting := fun next hstep key slot hslot hafter => by
      obtain ⟨hacting, hwhy⟩ := (moved_of_step hstep).acting key slot hslot hafter
      exact ⟨hacting, hwhy.imp (h.reported hinitial rfl hslot) (h.listed hnone hslot)⟩
    closing := fun next hstep key slot hslot hnone =>
      (moved_of_step hstep).closing key slot hslot hnone
    distinct := (h.keyed hinitial).reactor.distinct
    fresh := fun next hstep key slot hslot => by
      rcases hold : state.reactor.conns.get? key with _ | old
      · refine Or.inr ⟨rfl, fun hmet => ?_⟩
        exact (hmet.settled hinitial).2 ((moved_of_step hstep).fresh key slot hold hslot)
      · exact Or.inl ⟨old, rfl, ((moved_of_step hstep).socket key old slot hold hslot).symm⟩ }

/-- The first client resets its connection while the second one connects. The reactor hears of both
in one batch: it closes the connection and accepts the next. Then the second client sends. -/
def reused : List Action :=
  [.connect] ++ List.replicate 4 (.reactor 8) ++ [.client 0 .reset, .connect] ++
    List.replicate 6 (.reactor 8) ++ [.client 1 (.send (Text.encode "/a\n"))] ++
    List.replicate 2 (.reactor 8)

/-- A connection is closed and its key given to another one, whose event is in hand. -/
theorem routed_of_arises_reused : ∃ state, ∃ slot : Slot,
    Arises (opening ⟨[], true, false⟩ false (.empty 100) {} 1) state ∧
      state.thread.reported = [0] ∧ state.reactor.conns.get? 0 = some slot ∧ slot.socket = 1 ∧
      Routed (opening ⟨[], true, false⟩ false (.empty 100) {} 1) state := by
  have hrun : ((opening ⟨[], true, false⟩ false (.empty 100) {} 1).follow reused).map
      (fun state => (state.thread.reported, (state.reactor.conns.get? 0).map Slot.socket))
        = some ([0], some 1) := by
    decide +kernel
  obtain ⟨state, hfollow, heq⟩ := Option.map_eq_some_iff.1 hrun
  obtain ⟨hreported, hslot⟩ := Prod.mk.inj heq
  obtain ⟨slot, hslot, hsocket⟩ := Option.map_eq_some_iff.1 hslot
  have harises := Arises.of_reachable (owned_opening _ _ _ _ _) (reachable_follow .refl hfollow)
  exact ⟨state, slot, harises, hreported, hslot, hsocket, routed_of_arises harises⟩

end Threads

end FileServer
