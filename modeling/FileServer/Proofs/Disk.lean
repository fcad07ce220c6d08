import FileServer.Disk.Crew

/-!
# Where a load is

A load that was asked for waits in the queue, until a worker takes it; the worker marks its ticket
and then signals. `Open` loads have come to neither, and those `UnderWay` have not come to the
signal. A stroke of a worker loses no load: one that is open stays so until its ticket is complete
(`of_open`), and one that is under way stays so until there is a signal (`of_underWay`).
-/

namespace FileServer

variable {hands : List Hand} {hand next other : Hand} {number : Nat} {content : Content}
  {shop after : Workshop} {queue : LoadQueue} {key : String} {ticket : Ticket}

/-- A worker has the load and has not marked its ticket. -/
def Hand.Holds (hand : Hand) (key : String) (ticket : Ticket) : Prop :=
  hand = .holding key ticket ∨ hand = .published key ticket

/-- A worker has the load and has not signalled. -/
def Hand.Carries (hand : Hand) (key : String) (ticket : Ticket) : Prop :=
  hand.Holds key ticket ∨ hand = .marked key ticket

namespace LoadQueue

/-- The ticket of the load is still to be marked. -/
def Open (queue : LoadQueue) (hands : List Hand) (key : String) (ticket : Ticket) : Prop :=
  .load key ticket ∈ queue.tasks ∨ ∃ hand ∈ hands, hand.Holds key ticket

/-- The load is still to be signalled. -/
def UnderWay (queue : LoadQueue) (hands : List Hand) (key : String) (ticket : Ticket) : Prop :=
  .load key ticket ∈ queue.tasks ∨ ∃ hand ∈ hands, hand.Carries key ticket

/-- A load that is not done is under way. -/
theorem Open.underWay (h : queue.Open hands key ticket) : queue.UnderWay hands key ticket := by
  rcases h with hqueued | ⟨hand, hhand, hholds⟩
  · exact Or.inl hqueued
  · exact Or.inr ⟨hand, hhand, Or.inl hholds⟩

/-- A load that was just asked for is open. -/
theorem open_request (queue : LoadQueue) (hands : List Hand) (key : String) :
    (queue.request key).Open hands key queue.nextTicket :=
  Or.inl (List.mem_append_right _ (List.mem_singleton.2 rfl))

/-- Asking for another load leaves a load where it is. -/
theorem Open.request (h : queue.Open hands key ticket) (asked : String) :
    (queue.request asked).Open hands key ticket := by
  rcases h with hqueued | hheld
  · exact Or.inl (List.mem_append_left _ hqueued)
  · exact Or.inr hheld

/-- A load that is asked for leaves the others under way. -/
theorem UnderWay.request (h : queue.UnderWay hands key ticket) (asked : String) :
    (queue.request asked).UnderWay hands key ticket := by
  rcases h with hqueued | hcarried
  · exact Or.inl (List.mem_append_left _ hqueued)
  · exact Or.inr hcarried

end LoadQueue

/-! ### The strokes of a worker -/

/-- Workers that do nothing stay as they are. -/
theorem mem_set_of_ne (hhand : hands[number]? = some hand) (hother : other ∈ hands)
    (hne : other ≠ hand) (next : Hand) : other ∈ hands.set number next := by
  obtain ⟨place, hplace, rfl⟩ := List.mem_iff_getElem.1 hother
  have hne' : number ≠ place := by
    rintro rfl
    rw [List.getElem?_eq_getElem hplace] at hhand
    exact hne (Option.some.inj hhand)
  refine List.mem_iff_getElem.2 ⟨place, by simpa using hplace, ?_⟩
  exact List.getElem_set_ne hne' _

/-- The worker that has done something is one of them. -/
theorem mem_set_self (hhand : hands[number]? = some hand) (next : Hand) :
    next ∈ hands.set number next := by
  obtain ⟨hlt, -⟩ := List.getElem?_eq_some_iff.1 hhand
  exact List.mem_iff_getElem.2 ⟨number, by simpa using hlt, by simp⟩

/-- What one stroke of a worker can be. -/
inductive Hand.Stroke (hand next : Hand) (shop after : Workshop) : Prop where
  /-- It takes a stop. -/
  | stop (hhand : hand = .free) (htasks : shop.hub.queue.tasks = .stop :: after.hub.queue.tasks)
      (htickets : after.hub.queue.tickets = shop.hub.queue.tickets)
      (hnotifier : after.notifier = shop.notifier)
  /-- It takes a load. -/
  | take (key : String) (ticket : Ticket) (hhand : hand = .free)
      (hnext : next = .holding key ticket)
      (htasks : shop.hub.queue.tasks = .load key ticket :: after.hub.queue.tasks)
      (htickets : after.hub.queue.tickets = shop.hub.queue.tickets)
      (hnotifier : after.notifier = shop.notifier)
  /-- It publishes the content. -/
  | publish (key : String) (ticket : Ticket) (hhand : hand = .holding key ticket)
      (hnext : next = .published key ticket) (hqueue : after.hub.queue = shop.hub.queue)
      (hnotifier : after.notifier = shop.notifier)
  /-- It marks the ticket. -/
  | mark (key : String) (ticket : Ticket) (hhand : hand = .published key ticket)
      (hnext : next = .marked key ticket)
      (hqueue : after.hub.queue = shop.hub.queue.complete ticket)
      (hnotifier : after.notifier = shop.notifier)
  /-- It signals. -/
  | signal (key : String) (ticket : Ticket) (hhand : hand = .marked key ticket)
      (hqueue : after.hub.queue = shop.hub.queue)
      (hnotifier : after.notifier = shop.notifier.signal)

/-- **A stroke** of a worker is one of these. -/
theorem Hand.stroke_act (h : hand.act content shop = some (next, after)) :
    hand.Stroke next shop after := by
  cases hand with
  | free =>
      rw [Hand.act, LoadQueue.take?] at h
      rcases htasks : shop.hub.queue.tasks with _ | ⟨task, tasks⟩
      · rw [htasks] at h
        cases h
      · rw [htasks] at h
        cases task with
        | stop =>
            cases h
            exact .stop rfl htasks rfl rfl
        | load key ticket =>
            cases h
            exact .take key ticket rfl rfl htasks rfl rfl
  | holding key ticket =>
      cases h
      exact .publish key ticket rfl rfl rfl rfl
  | published key ticket =>
      cases h
      exact .mark key ticket rfl rfl rfl rfl
  | marked key ticket =>
      cases h
      exact .signal key ticket rfl rfl rfl
  | ended => cases h

/-- Workers leave the gauge of parked connections. -/
theorem Hand.waiting_act (h : hand.act content shop = some (next, after)) :
    after.hub.counters.waiting = shop.hub.counters.waiting := by
  cases hand with
  | free =>
      rw [Hand.act] at h
      split at h
      · cases h
      · cases h
        rfl
      · cases h
        rfl
  | holding key ticket =>
      cases h
      rfl
  | published key ticket =>
      cases h
      rfl
  | marked key ticket =>
      cases h
      rfl
  | ended => cases h

namespace Hand.Stroke

/-- Tickets are issued by those who ask, not by workers. -/
theorem size_tickets (h : hand.Stroke next shop after) :
    after.hub.queue.tickets.size = shop.hub.queue.tickets.size := by
  cases h with
  | stop _ _ htickets => rw [htickets]
  | take _ _ _ _ _ htickets => rw [htickets]
  | publish _ _ _ _ hqueue => rw [hqueue]
  | mark _ _ _ _ hqueue =>
      rw [hqueue]
      exact Array.size_setIfInBounds
  | signal _ _ _ hqueue => rw [hqueue]

/-- A ticket that is complete stays so. -/
theorem isComplete (h : hand.Stroke next shop after)
    (hcomplete : shop.hub.queue.isComplete ticket = true) :
    after.hub.queue.isComplete ticket = true := by
  cases h with
  | stop _ _ htickets => rwa [LoadQueue.isComplete, htickets]
  | take _ _ _ _ _ htickets => rwa [LoadQueue.isComplete, htickets]
  | publish _ _ _ _ hqueue => rwa [hqueue]
  | mark _ _ _ _ hqueue =>
      rw [hqueue, LoadQueue.isComplete_complete]
      split
      · rfl
      · exact hcomplete
  | signal _ _ _ hqueue => rwa [hqueue]

/-- Workers do not drain the notifier. -/
theorem count_pos (h : hand.Stroke next shop after) (hcount : 0 < shop.notifier.count) :
    0 < after.notifier.count := by
  cases h with
  | stop _ _ _ hnotifier => rwa [hnotifier]
  | take _ _ _ _ _ _ hnotifier => rwa [hnotifier]
  | publish _ _ _ _ _ hnotifier => rwa [hnotifier]
  | mark _ _ _ _ _ hnotifier => rwa [hnotifier]
  | signal _ _ _ _ hnotifier =>
      rw [hnotifier]
      simpa [Notifier.isReady] using Notifier.isReady_signal shop.notifier

/-- A load that waits in the queue waits on, or the worker takes it. -/
theorem queued (h : hand.Stroke next shop after)
    (hqueued : .load key ticket ∈ shop.hub.queue.tasks) :
    .load key ticket ∈ after.hub.queue.tasks ∨ next = .holding key ticket := by
  cases h with
  | stop _ htasks =>
      rw [htasks] at hqueued
      exact Or.inl ((List.mem_cons.1 hqueued).resolve_left (by simp))
  | take _ _ _ hnext htasks =>
      rw [htasks] at hqueued
      rcases List.mem_cons.1 hqueued with heq | hrest
      · obtain ⟨rfl, rfl⟩ := Task.load.inj heq
        exact Or.inr hnext
      · exact Or.inl hrest
  | publish _ _ _ _ hqueue => exact Or.inl (hqueue ▸ hqueued)
  | mark _ _ _ _ hqueue =>
      rw [hqueue]
      exact Or.inl hqueued
  | signal _ _ _ hqueue => exact Or.inl (hqueue ▸ hqueued)

/-- A worker that has a load and has not marked it goes on with it, or marks it. -/
theorem holds (h : hand.Stroke next shop after) (hholds : hand.Holds key ticket)
    (hissued : ticket.number < shop.hub.queue.tickets.size) :
    next.Holds key ticket ∨ after.hub.queue.isComplete ticket = true := by
  cases h with
  | stop hhand =>
      rw [hhand] at hholds
      rcases hholds with heq | heq <;> cases heq
  | take _ _ hhand =>
      rw [hhand] at hholds
      rcases hholds with heq | heq <;> cases heq
  | publish _ _ hhand hnext =>
      rw [hhand] at hholds
      rcases hholds with heq | heq
      · obtain ⟨rfl, rfl⟩ := Hand.holding.inj heq
        exact Or.inl (Or.inr hnext)
      · cases heq
  | mark _ _ hhand _ hqueue =>
      rw [hhand] at hholds
      rcases hholds with heq | heq
      · cases heq
      · obtain ⟨rfl, rfl⟩ := Hand.published.inj heq
        refine Or.inr ?_
        rw [hqueue, LoadQueue.isComplete_complete, if_pos ⟨rfl, hissued⟩]
  | signal _ _ hhand =>
      rw [hhand] at hholds
      rcases hholds with heq | heq <;> cases heq

/-- A worker that has not signalled a load goes on with it, or signals. -/
theorem carries (h : hand.Stroke next shop after) (hcarries : hand.Carries key ticket) :
    next.Carries key ticket ∨ 0 < after.notifier.count := by
  cases h with
  | stop hhand =>
      rw [hhand] at hcarries
      rcases hcarries with (heq | heq) | heq <;> cases heq
  | take _ _ hhand =>
      rw [hhand] at hcarries
      rcases hcarries with (heq | heq) | heq <;> cases heq
  | publish _ _ hhand hnext =>
      rw [hhand] at hcarries
      rcases hcarries with (heq | heq) | heq
      · obtain ⟨rfl, rfl⟩ := Hand.holding.inj heq
        exact Or.inl (Or.inl (Or.inr hnext))
      · cases heq
      · cases heq
  | mark _ _ hhand hnext =>
      rw [hhand] at hcarries
      rcases hcarries with (heq | heq) | heq
      · cases heq
      · obtain ⟨rfl, rfl⟩ := Hand.published.inj heq
        exact Or.inl (Or.inr hnext)
      · cases heq
  | signal _ _ _ _ hnotifier =>
      rw [hnotifier]
      exact Or.inr (by simpa [Notifier.isReady] using Notifier.isReady_signal shop.notifier)

/-- **An open load** stays so until its ticket is complete. -/
theorem of_open (h : hand.Stroke next shop after) (hhand : hands[number]? = some hand)
    (hopen : shop.hub.queue.Open hands key ticket)
    (hissued : ticket.number < shop.hub.queue.tickets.size) :
    after.hub.queue.Open (hands.set number next) key ticket ∨
      after.hub.queue.isComplete ticket = true := by
  have hnext := mem_set_self hhand next
  rcases hopen with hqueued | ⟨other, hother, hholds⟩
  · rcases h.queued hqueued with hstill | htaken
    · exact Or.inl (Or.inl hstill)
    · exact Or.inl (Or.inr ⟨next, hnext, Or.inl htaken⟩)
  · by_cases hsame : other = hand
    · rcases h.holds (hsame ▸ hholds) hissued with hstill | hcomplete
      · exact Or.inl (Or.inr ⟨next, hnext, hstill⟩)
      · exact Or.inr hcomplete
    · exact Or.inl (Or.inr ⟨other, mem_set_of_ne hhand hother hsame next, hholds⟩)

/-- **A load that is under way** stays so until there is a signal. -/
theorem of_underWay (h : hand.Stroke next shop after) (hhand : hands[number]? = some hand)
    (hway : shop.hub.queue.UnderWay hands key ticket) :
    after.hub.queue.UnderWay (hands.set number next) key ticket ∨ 0 < after.notifier.count := by
  have hnext := mem_set_self hhand next
  rcases hway with hqueued | ⟨other, hother, hcarries⟩
  · rcases h.queued hqueued with hstill | htaken
    · exact Or.inl (Or.inl hstill)
    · exact Or.inl (Or.inr ⟨next, hnext, Or.inl (Or.inl htaken)⟩)
  · by_cases hsame : other = hand
    · rcases h.carries (hsame ▸ hcarries) with hstill | hcount
      · exact Or.inl (Or.inr ⟨next, hnext, hstill⟩)
      · exact Or.inr hcount
    · exact Or.inl (Or.inr ⟨other, mem_set_of_ne hhand hother hsame next, hcarries⟩)

end Hand.Stroke

end FileServer
