import FileServer.Proofs.Reactor.Rounds
import FileServer.Proofs.Reactor.Wakeups

/-!
# A stop is never missed

Whoever stops a server sets the flag first and signals then; the reactor looks at the flag first and
waits then. So a reactor that waits although somebody has done both has looked before the flag was
set, and nothing was drained since, for draining comes behind a wait. The signal is still there
(`Alarmed`), and as no signal that is there is forgotten (`Awake`), the notifier is pending and ends
the wait.

Once the flag is set the reactor enters no wait any more, so that it is at most in the round that it
had begun before (`rounds_le`), and it ends where it looks at the flag again. Left to itself it
comes there, from wherever it stands in a round (`returns_of_owned`). `Stops` is all of this, and it
holds of everything that can come about (`stops_of_reachable`).
-/

namespace FileServer

namespace Threads

variable {initial state next last : Threads} {action : Action} {actions : List Action}
  {most key : Nat} {slot : Slot} {again after : Thread}

/-! ### The flag -/

/-- The flag, and who has told the reactor to stop: how many have set it only, and how many have
signalled too. -/
def orders (state : Threads) : Bool × Nat × Nat :=
  (state.reactor.stopping, state.stopping, state.stopped)

/-- A stroke of the reactor leaves the flag as it is. -/
theorem orders_struck (hstruck : Struck state next) : next.orders = state.orders := by
  have hflag := stopping_struck hstruck
  cases hstruck with
  | serve | reviving =>
      rw [orders, hflag]
      unfold stepDrive
      split
      · rfl
      · split <;> rfl
  | accept | fail =>
      rw [orders, hflag]
      rfl
  | check | wait | handled | hear | skip | begin | drain | revived | pass | revive => rfl

/-- After a step a drive goes on or is over. -/
theorem thread_stepDrive (state : Threads) (key : Nat) (again after : Thread) :
    (state.stepDrive key again after).thread = again ∨
      (state.stepDrive key again after).thread = after := by
  unfold stepDrive
  split
  · exact Or.inr rfl
  · split
    · exact Or.inl rfl
    · exact Or.inr rfl

/-- The reactor enters a wait only if it has just seen that the flag is not set. -/
theorem check_of_wait (hstruck : Struck state next) (hwait : next.thread = .wait) :
    state.reactor.stopping = false := by
  cases hstruck with
  | check =>
      by_contra hflag
      simp [hflag] at hwait
  | @handled signalled => cases signalled <;> simp at hwait
  | serve | reviving =>
      rcases thread_stepDrive state _ _ _ with hthread | hthread <;>
        cases hthread.symm.trans hwait
  | wait | accept | hear | fail | skip | begin | drain | revived | pass | revive => cases hwait

/-- The flag is set by those who stop the server, and a reactor that waits although one of them has
signalled is signalled. -/
structure Alarmed (state : Threads) : Prop where
  /-- Who has told the reactor to stop has set the flag. -/
  flag : 0 < state.stopping + state.stopped → state.reactor.stopping = true
  /-- The signal is not drained before the reactor has looked at the flag again. -/
  signalled : 0 < state.stopped → state.thread = .wait → 0 < state.reactor.shop.notifier.count

/-- At first nobody has told the server to stop. -/
theorem alarmed_opening (settings : Settings) (noDelay : Bool) (hub : Hub) (refusals : Refusals)
    (workers : Nat) : (opening settings noDelay hub refusals workers).Alarmed where
  flag hsome := by cases hsome
  signalled hsome := by cases hsome

/-- A stroke of the reactor leaves the signals that tell it to stop outstanding, until it has
stopped. -/
theorem Alarmed.struck (h : state.Alarmed) (hstruck : Struck state next) : next.Alarmed := by
  have horders := orders_struck hstruck
  simp only [orders, Prod.mk.injEq] at horders
  obtain ⟨hflag, hstopping, hstopped⟩ := horders
  constructor
  · rw [hflag, hstopping, hstopped]
    exact h.flag
  · intro hsome hwait
    have hset := h.flag (by omega)
    rw [check_of_wait hstruck hwait] at hset
    cases hset

/-- **Every stroke** keeps the alarm. -/
theorem Alarmed.act (h : state.Alarmed) (hnext : state.act action = some next) : next.Alarmed := by
  cases action with
  | reactor most => exact h.struck (struck_of_strike hnext)
  | interrupt most => exact h.struck (struck_of_interrupt hnext)
  | worker number content =>
      obtain ⟨⟨hand, shop⟩, hbound, rfl⟩ := Option.map_eq_some_iff.1 hnext
      obtain ⟨before, -, hact⟩ := Option.bind_eq_some_iff.1 hbound
      have hstroke := Hand.stroke_act hact
      exact ⟨h.flag, fun hsome hwait => hstroke.count_pos (h.signalled hsome hwait)⟩
  | connect | client number act =>
      obtain rfl := Option.some.inj hnext
      exact ⟨h.flag, h.signalled⟩
  | setFlag =>
      obtain rfl := Option.some.inj hnext
      exact ⟨fun _ => rfl, h.signalled⟩
  | signal =>
      obtain ⟨hsome, hnext⟩ := Option.ite_none_right_eq_some.1 hnext
      obtain rfl := Option.some.inj hnext
      refine ⟨fun _ => h.flag (by omega), fun _ _ => ?_⟩
      have hready : 0 < state.reactor.shop.notifier.signal.count := by
        simpa [Notifier.isReady] using Notifier.isReady_signal state.reactor.shop.notifier
      exact hready

/-- **Whatever comes about**, a server that was told to stop will hear of it. -/
theorem alarmed_of_reachable (hinitial : initial.Alarmed) (h : Reachable initial state) :
    state.Alarmed := by
  induction h with
  | refl => exact hinitial
  | act action _ hnext ih => exact ih.act hnext

/-! ### Rounds -/

/-- The rounds that the reactor is in, in the course of some strokes: those whose wait ends, and the
one in whose wait it stands at the end. -/
def rounds (state : Threads) : List Action → Nat
  | [] => if state.thread = .wait then 1 else 0
  | action :: actions =>
    match state.act action with
    | none => 0
    | some next =>
      (if state.thread = .wait ∧ next.thread ≠ .wait then 1 else 0) + next.rounds actions

/-- Once the flag is set, no stroke of the reactor is the beginning of a wait. -/
theorem struck_of_flag (hflag : state.reactor.stopping = true) (hstruck : Struck state next) :
    next.reactor.stopping = true ∧ (next.thread = .wait → state.thread = .wait) := by
  refine ⟨(stopping_struck hstruck).trans hflag, fun hwait => ?_⟩
  cases hflag.symm.trans (check_of_wait hstruck hwait)

/-- Once the flag is set it stays so, and the reactor enters no wait. -/
theorem act_of_flag (hflag : state.reactor.stopping = true) (hnext : state.act action = some next) :
    next.reactor.stopping = true ∧ (next.thread = .wait → state.thread = .wait) := by
  cases action with
  | reactor most => exact struck_of_flag hflag (struck_of_strike hnext)
  | interrupt most => exact struck_of_flag hflag (struck_of_interrupt hnext)
  | worker number content =>
      obtain ⟨_, -, rfl⟩ := Option.map_eq_some_iff.1 hnext
      exact ⟨hflag, id⟩
  | connect | client number act =>
      obtain rfl := Option.some.inj hnext
      exact ⟨hflag, id⟩
  | setFlag =>
      obtain rfl := Option.some.inj hnext
      exact ⟨rfl, id⟩
  | signal =>
      obtain ⟨-, hnext⟩ := Option.ite_none_right_eq_some.1 hnext
      obtain rfl := Option.some.inj hnext
      exact ⟨hflag, id⟩

/-- **Once the flag is set** the reactor is in no round but one that it was about to begin. -/
theorem rounds_le (hflag : state.reactor.stopping = true) (actions : List Action) :
    state.rounds actions ≤ if state.thread = .wait then 1 else 0 := by
  induction actions generalizing state with
  | nil => exact Nat.le_refl _
  | cons action actions ih =>
      rw [rounds]
      split
      · exact Nat.zero_le _
      · rename_i next hnext
        obtain ⟨hstays, henters⟩ := act_of_flag hflag hnext
        have hrest := ih hstays
        by_cases hwait : next.thread = .wait
        · simpa [hwait, henters hwait] using hrest
        · rw [if_neg hwait] at hrest
          split <;> split <;> simp_all

/-! ### The reactor alone -/

/-- The reactor gives no orders to itself. -/
theorem Alone.orders_eq (hleads : Alone most state next) : next.orders = state.orders := by
  induction hleads with
  | refl => rfl
  | tail _ hstrike ih => exact (orders_struck (struck_of_strike hstrike)).trans ih

/-- A reactor that looks at the flag when it is set ends. -/
theorem strike_of_flag (hflag : state.reactor.stopping = true) (hthread : state.thread = .check)
    (most : Nat) : state.strike most = some { state with thread := .stopped } := by
  rw [strike, hthread]
  simp only [hflag, if_true]

/-- On its own, the reactor comes to look at the flag. -/
def Returns (most : Nat) (state : Threads) : Prop :=
  ∃ next, Alone most state next ∧ next.thread = .check

/-- A server comes to its end if it does so after some strokes. -/
theorem Returns.of_alone (hleads : Alone most state next) (h : next.Returns most) :
    state.Returns most := by
  obtain ⟨last, hrest, hend⟩ := h
  exact ⟨last, hleads.trans hrest, hend⟩

/-- A batch in hand is handled to its end, and the revival behind it. -/
theorem returns_dispatch {batch : List Event} {signalled : Bool} (howned : state.Owned)
    (hthread : state.thread = .dispatch batch signalled) : state.Returns most :=
  ⟨_, alone_handle howned hthread, rfl⟩

/-- A revival comes to its end. -/
theorem returns_revive {keys : List Nat} (howned : state.Owned)
    (hthread : state.thread = .revive keys) : state.Returns most :=
  ⟨_, alone_revive howned hthread, rfl⟩

/-- A reactor that drives a connection returns if it does so behind the drive. -/
theorem Returns.of_driven (howned : state.Owned) (hthread : state.thread = again)
    (hkey : key ∈ again.held)
    (hstrike : ∀ state : Threads, state.thread = again →
      state.strike most = some (state.stepDrive key again after))
    (h : ∀ next : Threads, next.Owned → next.thread = after → next.Returns most) :
    state.Returns most := by
  obtain ⟨slot, hslot⟩ := Option.isSome_iff_exists.1 (howned.held_open key (hthread ▸ hkey))
  have hdriven := alone_drive state hstrike hthread hslot (howned.accepted key slot hslot).1
  exact (h _ (hdriven.owned howned) rfl).of_alone hdriven

/-- **The reactor comes to look at the flag**, unless it waits or has ended. -/
theorem returns_of_owned (howned : state.Owned) (hwait : state.thread ≠ .wait)
    (hstopped : state.thread ≠ .stopped) (most : Nat) : state.Returns most := by
  cases hthread : state.thread with
  | check => exact ⟨state, .refl, hthread⟩
  | wait => exact absurd hthread hwait
  | dispatch batch signalled => exact returns_dispatch howned hthread
  | serve key batch signalled =>
      exact .of_driven howned hthread List.mem_cons_self
        (fun _ hagain => strike_of_serve hagain most) fun _ => returns_dispatch
  | drain => exact ⟨_, alone_drain howned hthread, rfl⟩
  | revive keys => exact returns_revive howned hthread
  | reviving key keys =>
      exact .of_driven howned hthread List.mem_cons_self
        (fun _ hagain => strike_of_reviving hagain most) fun _ => returns_revive
  | stopped => exact absurd hthread hstopped

/-! ### Stopping -/

/-- What can be relied on when a server is stopped. -/
structure Stops (state : Threads) : Prop where
  /-- When somebody has told the reactor to stop, it does not wait without a signal, and the
  notifier is pending. -/
  woken : 0 < state.stopped → state.thread = .wait →
    0 < state.reactor.shop.notifier.count ∧ .notifier ∈ state.reactor.poller.pending
  /-- Once the flag is set for it, the reactor is in one more round at most, whatever happens. -/
  rounds : 0 < state.stopping + state.stopped → ∀ actions, state.rounds actions ≤ 1
  /-- When it looks at the flag, it ends. -/
  ends : 0 < state.stopping + state.stopped → state.thread = .check → ∀ most,
    state.strike most = some { state with thread := .stopped }
  /-- When somebody has told it to stop, it ends without anybody's help. -/
  returns : 0 < state.stopped → ∀ most, 0 < most →
    ∃ last, Alone most state last ∧ last.thread = .stopped

/-- **A stop is never missed**, however the strokes of all who are at work interleave. -/
theorem stops_of_reachable (settings : Settings) (noDelay : Bool) (hub : Hub)
    (refusals : Refusals) (workers : Nat)
    (hreach : Reachable (opening settings noDelay hub refusals workers) state) : state.Stops := by
  have hawake := awake_of_reachable (awake_opening settings noDelay hub refusals workers) hreach
  have halarmed :=
    alarmed_of_reachable (alarmed_opening settings noDelay hub refusals workers) hreach
  have hwoken : 0 < state.stopped → state.thread = .wait →
      0 < state.reactor.shop.notifier.count ∧ .notifier ∈ state.reactor.poller.pending := by
    intro hsome hwait
    have hcount := halarmed.signalled hsome hwait
    refine ⟨hcount, (hawake.heeded hcount).resolve_right ?_⟩
    rw [hwait]
    exact id
  refine ⟨hwoken, fun hsome actions => ?_, fun hsome hthread => ?_, fun hsome most hmost => ?_⟩
  · have hle := rounds_le (halarmed.flag hsome) actions
    split at hle <;> omega
  · exact strike_of_flag (halarmed.flag hsome) hthread
  · have hflag := halarmed.flag (by omega)
    by_cases hstopped : state.thread = .stopped
    · exact ⟨state, .refl, hstopped⟩
    have hreturns : state.Returns most := by
      by_cases hwait : state.thread = .wait
      · obtain ⟨hcount, hpending⟩ := hwoken hsome hwait
        obtain ⟨next, hnext⟩ := Option.isSome_iff_exists.1
          (wakes hmost hawake.owned hwait hcount hpending)
        refine .of_alone (.single hnext) ?_
        have hafter := hawake.owned.struck (struck_of_strike hnext)
        cases struck_of_strike hnext with
        | wait => exact returns_dispatch hafter rfl
        | check hbefore | handled hbefore | accept hbefore | hear hbefore | fail hbefore
        | skip hbefore | begin hbefore | serve hbefore | drain hbefore | revived hbefore
        | pass hbefore | revive hbefore | reviving hbefore => cases hwait.symm.trans hbefore
      · exact returns_of_owned hawake.owned hwait hstopped most
    obtain ⟨next, hleads, hcheck⟩ := hreturns
    have hset : next.reactor.stopping = true :=
      (congrArg Prod.fst hleads.orders_eq).trans hflag
    exact ⟨_, hleads.tail (strike_of_flag hset hcheck most), rfl⟩

/-- The reactor is about to wait when a worker has signalled; then somebody stops the server. -/
def told : List Action := loaded ++ [.setFlag, .signal]

/-- A reactor that waits while it is told to stop hears of it, does one more round and stops. -/
theorem stops_of_reachable_told : ∃ state,
    Reachable (opening ⟨[], true, false⟩ false (.empty 100) {} 1) state ∧ state.thread = .wait ∧
      state.stopped = 1 ∧ state.reactor.shop.notifier.count = 2 ∧
      .notifier ∈ state.reactor.poller.pending ∧
      state.rounds (List.replicate 20 (.reactor 8)) = 1 ∧ (∀ actions, state.rounds actions ≤ 1) ∧
      ∃ last, Alone 8 state last ∧ last.thread = .stopped := by
  have hrun : ((opening ⟨[], true, false⟩ false (.empty 100) {} 1).follow told).map
      (fun state => (state.thread, state.stopped, state.reactor.shop.notifier.count,
        state.rounds (List.replicate 20 (.reactor 8)))) = some (.wait, 1, 2, 1) := by
    decide +kernel
  obtain ⟨state, hfollow, heq⟩ := Option.map_eq_some_iff.1 hrun
  simp only [Prod.mk.injEq] at heq
  obtain ⟨hwait, hstopped, hcount, hrounds⟩ := heq
  have hreach := reachable_follow .refl hfollow
  have hstops := stops_of_reachable _ _ _ _ _ hreach
  have hsome : 0 < state.stopped := by omega
  exact ⟨state, hreach, hwait, hstopped, hcount, (hstops.woken hsome hwait).2, hrounds,
    hstops.rounds (by omega), hstops.returns hsome 8 (by decide)⟩

end Threads

end FileServer
