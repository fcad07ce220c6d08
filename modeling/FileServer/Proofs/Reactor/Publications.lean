import FileServer.Proofs.Connection.Tickets
import FileServer.Proofs.Disk.Deeds
import FileServer.Proofs.Reactor.Still
import FileServer.Proofs.Reactor.Strokes

/-!
# What workers have published

Along a sequence of strokes `published` are the contents that workers put into the cache, with the
loads they are for. The cache holds nothing but what it held before and these (`stocked_follow`).
`Kept` is what holds of the tickets: their account is right, and a load whose ticket is complete and
held was published.

For the disk side a stroke that is not a worker's does one of two things (`Deals`): it leaves cache
and queue as they are, and no connection waits for anything new; or it is one step in the drive of a
connection.
-/

namespace FileServer

namespace Hand

variable {hand after : Hand} {content : Content} {shop next : Workshop}
  {others : List (String × Ticket)} {held : Nat → Option (String × Ticket)}

/-- The load that a worker has and has not marked. -/
def load? : Hand → Option (String × Ticket)
  | .holding key ticket => some (key, ticket)
  | .published key ticket => some (key, ticket)
  | _ => none

/-- What the next stroke of a worker publishes. -/
def publication? (content : Content) : Hand → Option Publication
  | .holding key ticket => some ⟨key, ticket, content⟩
  | _ => none

/-- What a stroke of a worker publishes is all that it adds to the cache. -/
theorem stocked_act {entries : List (String × Content)} (h : shop.hub.Stocked entries)
    (hact : hand.act content shop = some (after, next)) :
    next.hub.Stocked (entries ++ (hand.publication? content).toList.map Publication.entry) := by
  cases hand with
  | free =>
      rw [act] at hact
      have hsame : next.hub.Stocked entries := by
        split at hact
        · cases hact
        · cases hact
          exact h.congr rfl
        · cases hact
          exact h.congr rfl
      simpa [publication?] using hsame
  | holding key ticket =>
      cases hact
      exact (h.store key content).congr rfl
  | published key ticket =>
      cases hact
      have hsame : (shop.hub.complete ticket).Stocked entries := h.congr rfl
      simpa [publication?] using hsame
  | marked key ticket =>
      cases hact
      simpa [publication?] using h
  | ended => cases hact

/-- A stroke of a worker moves a load, or ends it. -/
theorem accounted_act
    (h : shop.hub.queue.Accounted (shop.hub.queue.loads ++ (hand.load?.toList ++ others)) held)
    (hact : hand.act content shop = some (after, next)) :
    next.hub.queue.Accounted (next.hub.queue.loads ++ (after.load?.toList ++ others)) held := by
  cases hand with
  | free =>
      rw [act] at hact
      rcases htake : shop.hub.queue.take? with _ | ⟨task, queue⟩
      · rw [htake] at hact
        cases hact
      · rw [htake] at hact
        cases task with
        | stop =>
            cases hact
            exact LoadQueue.Accounted.take h htake
        | load key ticket =>
            cases hact
            exact LoadQueue.Accounted.take h htake
  | holding key ticket =>
      cases hact
      exact h
  | published key ticket =>
      cases hact
      exact LoadQueue.Accounted.complete (h.perm List.perm_middle)
  | marked key ticket =>
      cases hact
      exact h
  | ended => cases hact

/-- A worker that has published held the load before. -/
theorem holding_of_act {key : String} {ticket : Ticket}
    (hact : hand.act content shop = some (.published key ticket, next)) :
    hand = .holding key ticket := by
  cases Hand.stroke_act hact with
  | publish name marked hhand hnext =>
      obtain ⟨rfl, rfl⟩ := Hand.published.inj hnext
      exact hhand
  | stop hhand =>
      subst hhand
      rw [act] at hact
      split at hact <;> cases hact
  | take _ _ _ hnext => cases hnext
  | mark _ _ _ hnext => cases hnext
  | signal _ _ hhand =>
      subst hhand
      cases hact

/-- A ticket that is complete was so before, or a worker that had published has marked it. -/
theorem Stroke.complete_before {ticket : Ticket} (h : hand.Stroke after shop next)
    (hnow : next.hub.queue.isComplete ticket = true) :
    shop.hub.queue.isComplete ticket = true ∨ ∃ key, hand = .published key ticket := by
  cases h with
  | stop _ _ htickets => exact Or.inl (by rwa [LoadQueue.isComplete, htickets] at hnow)
  | take _ _ _ _ _ htickets => exact Or.inl (by rwa [LoadQueue.isComplete, htickets] at hnow)
  | publish _ _ _ _ hqueue => exact Or.inl (hqueue ▸ hnow)
  | mark key marked hhand _ hqueue =>
      rw [hqueue, LoadQueue.isComplete_complete] at hnow
      split at hnow
      · rename_i hmarked
        exact Or.inr ⟨key, hmarked.1 ▸ hhand⟩
      · exact Or.inl hnow
  | signal _ _ _ hqueue => exact Or.inl (hqueue ▸ hnow)

/-- Where one worker is replaced, the loads of the others stay. -/
theorem exists_others {hands : List Hand} {number : Nat} (hhand : hands[number]? = some hand) :
    ∃ others, (hands.filterMap load?).Perm (hand.load?.toList ++ others) ∧
      ∀ after : Hand,
        ((hands.set number after).filterMap load?).Perm (after.load?.toList ++ others) := by
  have hloads : ∀ (hand : Hand) (rest : List Hand),
      (hand :: rest).filterMap load? = hand.load?.toList ++ rest.filterMap load? := by
    intro hand rest
    rw [List.filterMap_cons]
    cases hand.load? <;> rfl
  obtain ⟨hlt, hget⟩ := List.getElem?_eq_some_iff.1 hhand
  refine ⟨(hands.eraseIdx number).filterMap load?, ?_, fun after => ?_⟩
  · have hperm := (List.getElem_cons_eraseIdx_perm hlt).symm.filterMap load?
    rwa [hloads, hget] at hperm
  · have hlt' : number < (hands.set number after).length := by rwa [List.length_set]
    have hperm := (List.getElem_cons_eraseIdx_perm hlt').symm.filterMap load?
    rwa [hloads, List.getElem_set_self, List.eraseIdx_set_eq] at hperm

end Hand

namespace Reactor

variable {reactor next : Reactor} {key other : Nat} {load : String × Ticket}

/-- The load that a connection waits for. -/
def held (reactor : Reactor) (key : Nat) : Option (String × Ticket) :=
  (reactor.conns.get? key).bind fun slot => slot.conn.phase.load?

/-- Where nothing of the disk is touched, nobody waits for anything new. -/
theorem Still.held (h : reactor.Still next) (hnext : next.held key = some load) :
    reactor.held key = some load := by
  obtain ⟨slot, hslot, hload⟩ := Option.bind_eq_some_iff.1 hnext
  obtain ⟨old, hold, hbefore⟩ := h.conns key slot load.1 load.2 hslot hload
  rw [Reactor.held, hold]
  exact hbefore

/-- What a connection gets is nothing new to wait for. -/
theorem held_provide (need : Need) (h : (reactor.provide key need).held other = some load) :
    reactor.held other = some load := by
  by_cases hneed : need = .disk
  · subst hneed
    unfold provide at h
    split at h
    · exact h
    · exact (still_flag reactor key true).held h
  · exact (still_provide reactor key hneed).held h

/-- A step in its drive changes what a connection holds, and no other one. -/
theorem held_putBack {slot : Slot} {turn : Turn} (hslot : reactor.conns.get? key = some slot)
    (other : Nat) : (reactor.putBack key slot turn).held other
      = if other = key then turn.conn.phase.load? else reactor.held other := by
  have hget := Slab.get?_modify_of_get? hslot (fun slot => { slot with conn := turn.conn }) other
  rw [held, putBack, hget]
  split <;> rfl

/-- At the end of a drive the connection waits for what the drive has left it waiting for. -/
theorem held_conclude {slot : Slot} {turn : Turn} {need : Need}
    (hslot : reactor.conns.get? key = some slot)
    (h : (reactor.conclude key slot need turn).held other = some load) :
    (if other = key then turn.conn.phase.load? else reactor.held other) = some load := by
  rw [conclude] at h
  have hanswered := (still_answer _ slot).held (held_provide need h)
  rwa [held_putBack hslot] at hanswered

/-- What is shared with the workers is the same, but for the counters of connections that are closed
and parked. -/
def SameHub (reactor next : Reactor) : Prop :=
  ∃ closed waiting, next.shop.hub = { reactor.shop.hub with
    counters := { reactor.shop.hub.counters with closed, waiting } }

/-- Closing a connection leaves the hub but for what is counted. -/
theorem sameHub_close (reactor : Reactor) (key : Nat) : reactor.SameHub (reactor.close key) := by
  unfold close
  split
  · exact ⟨_, _, rfl⟩
  · exact ⟨_, _, rfl⟩

/-- Arming a watch leaves the hub but for what is counted. -/
theorem sameHub_watch (reactor : Reactor) (key : Nat) (slot : Slot) (interest : Interest) :
    reactor.SameHub (reactor.watch key slot interest) := by
  unfold watch
  simp only
  split
  · exact ⟨_, _, rfl⟩
  · exact sameHub_close { reactor with poller := _ } key

/-- **What a connection gets** is hardly seen in what is shared. -/
theorem sameHub_provide (reactor : Reactor) (key : Nat) (need : Need) :
    reactor.SameHub (reactor.provide key need) := by
  unfold provide
  split
  · exact ⟨_, _, rfl⟩
  · rename_i slot _
    cases need with
    | input => exact sameHub_watch reactor key slot .readable
    | output => exact sameHub_watch reactor key slot .writable
    | disk => exact ⟨_, _, rfl⟩
    | close => exact sameHub_close reactor key

namespace SameHub

/-- The cache is the same. -/
theorem cache (h : reactor.SameHub next) : next.shop.hub.cache = reactor.shop.hub.cache := by
  obtain ⟨closed, waiting, heq⟩ := h
  rw [heq]

/-- The queue is the same. -/
theorem queue (h : reactor.SameHub next) : next.shop.hub.queue = reactor.shop.hub.queue := by
  obtain ⟨closed, waiting, heq⟩ := h
  rw [heq]

/-- As many lookups have found something. -/
theorem hits (h : reactor.SameHub next) :
    next.shop.hub.counters.hits = reactor.shop.hub.counters.hits := by
  obtain ⟨closed, waiting, heq⟩ := h
  rw [heq]

end SameHub

/-- Accepting clients leaves the cache. -/
theorem Accepted.cache (h : Accepted reactor next) :
    next.shop.hub.cache = reactor.shop.hub.cache := by
  induction h with
  | done => rfl
  | client _ hfirst _ ih =>
      rw [ih]
      cases hfirst <;> rfl

end Reactor

namespace Threads

variable {state next : Threads} {key : Nat} {slot : Slot}

/-- What a stroke that is not a worker's does on the disk side. -/
inductive Deals (state next : Threads) : Prop where
  /-- Nothing. -/
  | still (hcache : next.reactor.shop.hub.cache = state.reactor.shop.hub.cache)
      (hqueue : next.reactor.shop.hub.queue = state.reactor.shop.hub.queue)
      (hheld : ∀ other load, next.reactor.held other = some load →
        state.reactor.held other = some load)
  /-- It is one step in the drive of a connection. -/
  | driven (key : Nat) (slot : Slot) (turn : Turn)
      (hslot : state.reactor.conns.get? key = some slot)
      (hstep : ((state.reactor.turn slot).step state.reactor.settings).turn = turn)
      (hcache : next.reactor.shop.hub.cache = turn.hub.cache)
      (hqueue : next.reactor.shop.hub.queue = turn.hub.queue)
      (hheld : ∀ other load, next.reactor.held other = some load →
        (if other = key then turn.conn.phase.load? else state.reactor.held other) = some load)

/-- A stroke that touches nothing of the disk. -/
theorem deals_of_still (hstill : state.reactor.Still next.reactor)
    (hcache : next.reactor.shop.hub.cache = state.reactor.shop.hub.cache) : Deals state next :=
  .still hcache hstill.queue fun _ _ hheld => hstill.held hheld

/-- A stroke that leaves what is shared, and the connections. -/
theorem deals_of_eq (hconns : next.reactor.conns = state.reactor.conns)
    (hcache : next.reactor.shop.hub.cache = state.reactor.shop.hub.cache)
    (hqueue : next.reactor.shop.hub.queue = state.reactor.shop.hub.queue) : Deals state next := by
  refine .still hcache hqueue fun other load hheld => ?_
  rwa [Reactor.held, hconns] at hheld

/-- A step in the drive of a connection deals with the queue for that connection alone. -/
theorem deals_stepDrive (key : Nat) (again after : Thread) :
    Deals state (state.stepDrive key again after) := by
  rcases hslot : state.reactor.conns.get? key with _ | slot
  · rw [stepDrive, hslot]
    exact deals_of_eq rfl rfl rfl
  · have hdriven := driven_stepDrive hslot again after
    generalize state.stepDrive key again after = next at hdriven ⊢
    cases hdriven with
    | @on turn hstep =>
        refine .driven key slot turn hslot (by rw [hstep]; rfl) rfl rfl fun other load hheld => ?_
        rwa [Reactor.held_putBack hslot] at hheld
    | @rest need turn hstep =>
        refine .driven key slot turn hslot (by rw [hstep]; rfl) (Reactor.sameHub_provide _ _ _).cache
          (Reactor.sameHub_provide _ _ _).queue fun other load hheld => ?_
        exact Reactor.held_conclude hslot hheld

/-- A step in the drive of a connection leaves the workers. -/
theorem hands_stepDrive (state : Threads) (key : Nat) (again after : Thread) :
    (state.stepDrive key again after).hands = state.hands := by
  unfold stepDrive
  split
  · rfl
  · split <;> rfl

/-- A stroke of the reactor. -/
theorem deals_struck (hstruck : Struck state next) :
    Deals state next ∧ next.hands = state.hands := by
  cases hstruck with
  | check => exact ⟨deals_of_eq rfl rfl rfl, rfl⟩
  | wait => exact ⟨deals_of_eq rfl rfl rfl, rfl⟩
  | handled => exact ⟨deals_of_eq rfl rfl rfl, rfl⟩
  | accept =>
      exact ⟨deals_of_still (Reactor.still_acceptAll _) (Reactor.accepted_acceptAll _).cache, rfl⟩
  | hear => exact ⟨deals_of_eq rfl rfl rfl, rfl⟩
  | fail => exact ⟨deals_of_still (Reactor.still_close _ _) (Reactor.sameHub_close _ _).cache, rfl⟩
  | skip => exact ⟨deals_of_eq rfl rfl rfl, rfl⟩
  | begin => exact ⟨deals_of_eq rfl rfl rfl, rfl⟩
  | serve => exact ⟨deals_stepDrive _ _ _, hands_stepDrive _ _ _ _⟩
  | drain => exact ⟨deals_of_eq rfl rfl rfl, rfl⟩
  | revived => exact ⟨deals_of_eq rfl rfl rfl, rfl⟩
  | pass => exact ⟨deals_of_eq rfl rfl rfl, rfl⟩
  | @revive key keys slot =>
      refine ⟨.still rfl rfl fun other load hheld => ?_, rfl⟩
      exact (Reactor.still_flag state.reactor key false).held hheld
  | reviving => exact ⟨deals_stepDrive _ _ _, hands_stepDrive _ _ _ _⟩

/-- What an action publishes. -/
def publishes (state : Threads) : Action → List Publication
  | .worker number content =>
    (state.hands[number]?.bind fun hand => hand.publication? content).toList
  | _ => []

/-- What is published along a sequence of strokes. -/
def published (state : Threads) : List Action → List Publication
  | [] => []
  | action :: actions =>
    match state.act action with
    | none => []
    | some next => state.publishes action ++ next.published actions

/-- **A stroke** is one of a worker, or it publishes nothing and deals with the disk side as
said. -/
theorem deals_act {action : Action} (h : state.act action = some next) :
    (∃ number content, action = .worker number content) ∨
      state.publishes action = [] ∧ Deals state next ∧ next.hands = state.hands := by
  cases action with
  | reactor most => exact Or.inr ⟨rfl, deals_struck (struck_of_strike h)⟩
  | interrupt most => exact Or.inr ⟨rfl, deals_struck (struck_of_interrupt h)⟩
  | worker number content => exact Or.inl ⟨number, content, rfl⟩
  | connect =>
      obtain rfl := Option.some.inj h
      exact Or.inr ⟨rfl, deals_of_eq rfl rfl rfl, rfl⟩
  | client number act =>
      obtain rfl := Option.some.inj h
      exact Or.inr ⟨rfl, deals_of_eq rfl rfl rfl, rfl⟩
  | setFlag =>
      obtain rfl := Option.some.inj h
      exact Or.inr ⟨rfl, deals_of_eq rfl rfl rfl, rfl⟩
  | signal =>
      rw [act] at h
      split at h
      · obtain rfl := Option.some.inj h
        exact Or.inr ⟨rfl, deals_of_eq rfl rfl rfl, rfl⟩
      · cases h

/-! ### What the cache holds -/

variable {entries : List (String × Content)}

/-- Such a stroke puts nothing into the cache. -/
theorem Deals.stocked (hdeals : Deals state next) (h : state.reactor.shop.hub.Stocked entries) :
    next.reactor.shop.hub.Stocked entries := by
  cases hdeals with
  | still hcache => exact h.congr hcache
  | driven key slot turn hslot hstep hcache =>
      have hstocked : Hub.Stocked entries
          ((state.reactor.turn slot).step state.reactor.settings).turn.hub :=
        Turn.stocked_step _ h
      rw [hstep] at hstocked
      exact hstocked.congr hcache

/-- **An action** brings nothing into the cache but what it publishes. -/
theorem stocked_act {action : Action} (h : state.reactor.shop.hub.Stocked entries)
    (hact : state.act action = some next) :
    next.reactor.shop.hub.Stocked (entries ++ (state.publishes action).map Publication.entry) := by
  rcases deals_act hact with ⟨number, content, rfl⟩ | ⟨hnothing, hdeals, -⟩
  · obtain ⟨⟨after, shop⟩, hbind, rfl⟩ := Option.map_eq_some_iff.1 hact
    obtain ⟨hand, hhand, hstroke⟩ := Option.bind_eq_some_iff.1 hbind
    rw [publishes, hhand, Option.bind_some]
    exact Hand.stocked_act h hstroke
  · rw [hnothing, List.map_nil, List.append_nil]
    exact hdeals.stocked h

/-- **The cache** holds nothing but what it held and what was published since. -/
theorem stocked_follow {actions : List Action} (h : state.reactor.shop.hub.Stocked entries)
    (hfollow : state.follow actions = some next) :
    next.reactor.shop.hub.Stocked (entries ++ (state.published actions).map Publication.entry) := by
  induction actions generalizing state entries with
  | nil =>
      obtain rfl := Option.some.inj hfollow
      rwa [published, List.map_nil, List.append_nil]
  | cons action actions ih =>
      obtain ⟨middle, hact, hrest⟩ := Option.bind_eq_some_iff.1 hfollow
      rw [published, hact]
      simp only
      rw [List.map_append, ← List.append_assoc]
      exact ih (stocked_act h hact) hrest

/-! ### Tickets and publications -/

variable {past : List Publication}

/-- The loads that are queued, or that a worker has and has not marked. -/
def carried (state : Threads) : List (String × Ticket) :=
  state.reactor.shop.hub.queue.loads ++ state.hands.filterMap Hand.load?

/-- What holds of a state in which these contents have been published. -/
structure Kept (past : List Publication) (state : Threads) : Prop where
  /-- The account of tickets is right. -/
  account : state.reactor.shop.hub.queue.Accounted state.carried state.reactor.held
  /-- What a worker has published is among them. -/
  handed : ∀ key ticket, .published key ticket ∈ state.hands →
    (key, ticket) ∈ past.map Publication.load
  /-- What is waited for and complete is among them. -/
  done : ∀ who load, state.reactor.held who = some load →
    state.reactor.shop.hub.queue.isComplete load.2 = true → load ∈ past.map Publication.load

/-- At first nobody has asked for a load. -/
theorem kept_opening (settings : Settings) (noDelay : Bool) (budget : Nat) (refusals : Refusals)
    (workers : Nat) : (opening settings noDelay (.empty budget) refusals workers).Kept [] := by
  have hnone : ∀ key, (opening settings noDelay (.empty budget) refusals workers).reactor.held key
      = none := by
    intro key
    rw [Reactor.held]
    exact congrArg (Option.bind · _) (Slab.get?_empty key)
  have hhands : ∀ hand ∈ (opening settings noDelay (.empty budget) refusals workers).hands,
      hand = .free := fun hand hhand => List.eq_of_mem_replicate hhand
  constructor
  · have hcarried : (opening settings noDelay (.empty budget) refusals workers).carried = [] := by
      refine List.filterMap_eq_nil_iff.2 fun hand hhand => ?_
      rw [hhands hand hhand]
      rfl
    rw [hcarried]
    refine LoadQueue.Accounted.empty.release fun who load hheld => ?_
    rw [hnone] at hheld
    cases hheld
  · intro key ticket hhand
    cases hhands _ hhand
  · intro who load hheld
    rw [hnone] at hheld
    cases hheld

namespace Kept

/-- A step in the drive of a connection. -/
theorem driven {turn : Turn} (h : state.Kept past)
    (hslot : state.reactor.conns.get? key = some slot)
    (hstep : ((state.reactor.turn slot).step state.reactor.settings).turn = turn)
    (hqueue : next.reactor.shop.hub.queue = turn.hub.queue)
    (hheld : ∀ other load, next.reactor.held other = some load →
      (if other = key then turn.conn.phase.load? else state.reactor.held other) = some load)
    (hhands : next.hands = state.hands) : next.Kept past := by
  have hself : state.reactor.held key = slot.conn.phase.load? := by
    rw [Reactor.held, hslot]
    rfl
  constructor
  · have hbefore : (state.reactor.turn slot).Accounted (state.hands.filterMap Hand.load?)
        state.reactor.held key := Turn.accounted_of_held h.account hself
    have hafter := Turn.accounted_step state.reactor.settings _ hbefore
    rw [hstep] at hafter
    rw [carried, hqueue, hhands]
    exact LoadQueue.Accounted.release hafter hheld
  · rw [hhands]
    exact h.handed
  · intro who load hwho hcomplete
    have hbefore := hheld who load hwho
    rw [hqueue] at hcomplete
    have hasks := Turn.asks_step state.reactor.settings (state.reactor.turn slot)
    rw [hstep] at hasks
    by_cases heq : who = key
    · rw [if_pos heq] at hbefore
      cases hasks with
      | idle _ hnone =>
          rw [hnone] at hbefore
          cases hbefore
      | waiting name ticket hsame hwas hnow =>
          obtain rfl := Option.some.inj (hnow.symm.trans hbefore)
          rw [hsame] at hcomplete
          exact h.done key _ (hself.trans hwas) hcomplete
      | asked name hrequest hphase =>
          -- A ticket that was just issued is not complete.
          rw [hphase] at hbefore
          obtain rfl := Option.some.inj hbefore
          rw [hrequest, LoadQueue.isComplete_request, LoadQueue.isComplete_nextTicket] at hcomplete
          cases hcomplete
    · rw [if_neg heq] at hbefore
      refine h.done who load hbefore ?_
      rcases hasks.queue with hsame | ⟨name, hrequest⟩
      · rwa [hsame] at hcomplete
      · rwa [hrequest, LoadQueue.isComplete_request] at hcomplete

/-- A stroke of the reactor publishes nothing. -/
theorem deals (h : state.Kept past) (hdeals : Deals state next)
    (hhands : next.hands = state.hands) : next.Kept past := by
  cases hdeals with
  | still _ hqueue hheld =>
      constructor
      · rw [carried, hqueue, hhands]
        exact h.account.release hheld
      · rw [hhands]
        exact h.handed
      · intro who load hwho hcomplete
        rw [hqueue] at hcomplete
        exact h.done who load (hheld who load hwho) hcomplete
  | driven key slot turn hslot hstep _ hqueue hheld =>
      exact h.driven hslot hstep hqueue hheld hhands

/-! ### Strokes of a worker -/

variable {number : Nat} {hand after : Hand} {content : Content} {shop : Workshop}
  {poller : Poller}

/-- A ticket that is held and that a stroke of a worker leaves complete is for a load that has been
published. -/
theorem done_act (h : state.Kept past) (hhand : state.hands[number]? = some hand)
    (hact : hand.act content state.reactor.shop = some (after, shop)) {who : Nat}
    {load : String × Ticket} (hheld : state.reactor.held who = some load)
    (hcomplete : shop.hub.queue.isComplete load.2 = true) :
    load ∈ past.map Publication.load := by
  by_cases hbefore : state.reactor.shop.hub.queue.isComplete load.2 = true
  · exact h.done who load hheld hbefore
  · have hopen : state.reactor.shop.hub.queue.isComplete load.2 = false := by simpa using hbefore
    rcases (Hand.stroke_act hact).complete_before hcomplete with hwas | ⟨key, hpublished⟩
    · exact absurd hwas hbefore
    · -- One load alone carries the ticket, and the worker has it.
      have hmem : Hand.published key load.2 ∈ state.hands := by
        rw [← hpublished]
        exact List.mem_of_getElem? hhand
      have hcarried : (key, load.2) ∈ state.carried :=
        List.mem_append_right _ (List.mem_filterMap.2 ⟨_, hmem, rfl⟩)
      have honce := h.account.carried_once hheld hopen
      have hfilter : (key, load.2) ∈ state.carried.filter fun other => other.2 = load.2 :=
        List.mem_filter.2 ⟨hcarried, by simp⟩
      rw [honce, List.mem_singleton] at hfilter
      rw [show load = (load.1, load.2) from rfl, ← hfilter]
      exact h.handed key load.2 hmem

/-- A stroke of a worker. -/
theorem worker (h : state.Kept past) (hhand : state.hands[number]? = some hand)
    (hact : hand.act content state.reactor.shop = some (after, shop)) :
    Kept (past ++ (hand.publication? content).toList)
      { state with
        reactor := { state.reactor with shop, poller }
        hands := state.hands.set number after } := by
  constructor
  · obtain ⟨others, hbefore, hafter⟩ := Hand.exists_others hhand
    have haccount := h.account.perm (hbefore.append_left state.reactor.shop.hub.queue.loads)
    exact (Hand.accounted_act haccount hact).perm ((hafter after).symm.append_left _)
  · intro key ticket hmem
    rw [List.map_append, List.mem_append]
    rcases List.mem_or_eq_of_mem_set hmem with hold | hnew
    · exact Or.inl (h.handed key ticket hold)
    · subst hnew
      rw [Hand.holding_of_act hact]
      exact Or.inr List.mem_cons_self
  · intro who load hheld hcomplete
    rw [List.map_append]
    exact List.mem_append_left _ (h.done_act hhand hact hheld hcomplete)

/-- **A stroke** keeps what holds, with what it publishes. -/
theorem act {action : Action} (h : state.Kept past) (hact : state.act action = some next) :
    next.Kept (past ++ state.publishes action) := by
  rcases deals_act hact with ⟨number, content, rfl⟩ | ⟨hnothing, hdeals, hhands⟩
  · obtain ⟨⟨after, shop⟩, hbind, rfl⟩ := Option.map_eq_some_iff.1 hact
    obtain ⟨hand, hhand, hstroke⟩ := Option.bind_eq_some_iff.1 hbind
    rw [publishes, hhand, Option.bind_some]
    exact h.worker hhand hstroke
  · rw [hnothing, List.append_nil]
    exact h.deals hdeals hhands

/-- **A sequence of strokes** keeps what holds, with what is published along it. -/
theorem follow {actions : List Action} (h : state.Kept past)
    (hfollow : state.follow actions = some next) : next.Kept (past ++ state.published actions) := by
  induction actions generalizing state past with
  | nil =>
      obtain rfl := Option.some.inj hfollow
      rwa [published, List.append_nil]
  | cons action actions ih =>
      obtain ⟨middle, hact, hrest⟩ := Option.bind_eq_some_iff.1 hfollow
      rw [published, hact]
      simp only
      rw [← List.append_assoc]
      exact ih (h.act hact) hrest

end Kept

end Threads

end FileServer
