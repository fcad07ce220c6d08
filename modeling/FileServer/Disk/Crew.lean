import FileServer.Disk.Worker

/-!
# Crews

Several disk workers at once. A worker does a load in four strokes, and between any two of them
other workers, whoever asks for loads, and whoever shuts the pool down, may act: it takes the task,
reads the file and puts the content into the cache, marks the ticket, and signals. `Hand` says how
far a worker is with its task, `Crew` is a pool of them in the course of its work, and an `Action`
names who acts next. An action that is not possible at the moment, such as taking a task from an
empty queue, gives no state.

To shut a pool down is to put one stop for each worker that it counts, then to wait for these
workers one after the other, and not to count them any longer. It can be done again.

A worker alone that makes its four strokes does what `Workshop.work` does (`act_act_act_act`).
-/

namespace FileServer

/-- How far a worker is with its task. -/
inductive Hand where
  /-- The worker has no task. -/
  | free
  /-- The worker has taken a load. -/
  | holding (key : String) (ticket : Ticket)
  /-- The content is in the cache, and the ticket is not marked. -/
  | published (key : String) (ticket : Ticket)
  /-- The ticket is marked, and nobody was told. -/
  | marked (key : String) (ticket : Ticket)
  /-- The worker has taken a stop. -/
  | ended
deriving DecidableEq, Repr

namespace Hand

/-- One stroke of a worker. `content` is what the file holds, for the stroke that reads it. -/
def act (content : Content) (hand : Hand) (shop : Workshop) : Option (Hand × Workshop) :=
  match hand with
  | .free =>
    match shop.hub.queue.take? with
    | none => none
    | some (.stop, queue) => some (.ended, { shop with hub.queue := queue })
    | some (.load key ticket, queue) => some (.holding key ticket, { shop with hub.queue := queue })
  | .holding key ticket =>
    some (.published key ticket, { shop with hub := shop.hub.publish key content })
  | .published key ticket =>
    some (.marked key ticket, { shop with hub := shop.hub.complete ticket })
  | .marked _ _ => some (.free, { shop with notifier := shop.notifier.signal })
  | .ended => none

/-- The file that a worker reads in its next stroke; the empty path if it reads none. -/
def path : Hand → Path
  | .holding key _ => Text.encode key
  | _ => []

end Hand

/-- A pool of workers in the course of its work. -/
structure Crew where
  /-- What the workers share. -/
  shop : Workshop
  /-- The workers. -/
  hands : List Hand
  /-- How many of the workers, from the first on, were waited for and are not counted any longer. -/
  joined : Nat
  /-- While the pool is being shut down, how many stops have still to be put. -/
  closing : Option Nat

namespace Crew

/-- Who acts next. -/
inductive Action where
  /-- The worker of the given number; what the files hold, if it reads one now. -/
  | worker (number : Nat) (read : Path → Content)
  /-- Somebody asks for a load. -/
  | request (key : String)
  /-- Somebody begins to shut the pool down. -/
  | shutDown
  /-- The one who shuts the pool down puts a stop. -/
  | stop
  /-- The one who shuts the pool down sees the next worker end. -/
  | join
  /-- The one who shuts the pool down has waited for every worker. -/
  | leave

/-- What an action leads to, if it is possible. -/
def act (crew : Crew) : Action → Option Crew
  | .worker number read =>
    (crew.hands[number]?.bind fun hand => hand.act (read hand.path) crew.shop).map
      fun (hand, shop) => { crew with shop, hands := crew.hands.set number hand }
  | .request key => some { crew with shop.hub := (crew.shop.hub.request key).2 }
  | .shutDown =>
    match crew.closing with
    | none => some { crew with closing := some (crew.hands.length - crew.joined) }
    | some _ => none
  | .stop =>
    match crew.closing with
    | some (stops + 1) => some { crew with shop := crew.shop.put .stop, closing := some stops }
    | _ => none
  | .join =>
    if crew.closing = some 0 ∧ crew.hands[crew.joined]? = some .ended then
      some { crew with joined := crew.joined + 1 }
    else none
  | .leave =>
    if crew.closing = some 0 ∧ crew.joined = crew.hands.length then
      some { crew with closing := none }
    else none

/-- What a sequence of actions leads to, if each is possible in its turn. -/
def run (crew : Crew) : List Action → Option Crew
  | [] => some crew
  | action :: rest => (crew.act action).bind fun crew => crew.run rest

/-- A crew of free workers, each of which the pool counts. -/
def ofPool (pool : Pool) (shop : Workshop) : Crew :=
  ⟨shop, List.replicate pool.workers .free, 0, none⟩

/-- Whether the pool is shut down: every worker was waited for, and nobody waits any longer. -/
def isShutDown (crew : Crew) : Bool := crew.closing = none && crew.joined = crew.hands.length

end Crew

/-- Four strokes in a row are one load. -/
theorem Hand.act_act_act_act (read : Path → Content) {shop next : Workshop}
    (h : shop.work read = (.loaded, next)) :
    ∃ key ticket first second third,
      Hand.free.act (read (Text.encode key)) shop = some (.holding key ticket, first) ∧
      (Hand.holding key ticket).act (read (Text.encode key)) first
        = some (.published key ticket, second) ∧
      (Hand.published key ticket).act (read (Text.encode key)) second
        = some (.marked key ticket, third) ∧
      (Hand.marked key ticket).act (read (Text.encode key)) third = some (.free, next) := by
  unfold Workshop.work at h
  split at h
  · simp at h
  · simp at h
  · rename_i key ticket queue htake
    simp only [Prod.mk.injEq, true_and] at h
    subst h
    exact ⟨key, ticket, _, _, _, by simp only [Hand.act, htake], rfl, rfl, rfl⟩

/-- Only the last stroke of a load is a signal. -/
theorem Hand.notifier_act {hand after : Hand} {content : Content} {shop next : Workshop}
    (hquiet : ∀ key ticket, hand ≠ .marked key ticket)
    (h : hand.act content shop = some (after, next)) : next.notifier = shop.notifier := by
  cases hand with
  | free =>
      unfold Hand.act at h
      simp only at h
      split at h <;> cases h <;> rfl
  | holding | published =>
      cases h
      rfl
  | marked key ticket => exact absurd rfl (hquiet key ticket)
  | ended => cases h

/-- A worker that finds nothing does nothing. -/
theorem Workshop.eq_of_idle {read : Path → Content} {shop next : Workshop}
    (h : shop.work read = (.idle, next)) : next = shop := by
  unfold Workshop.work at h
  split at h <;> cases h
  rfl

/-- A worker that finds a stop ends. -/
theorem Hand.act_of_stopped {read : Path → Content} {shop next : Workshop}
    (h : shop.work read = (.stopped, next)) (content : Content) :
    Hand.free.act content shop = some (.ended, next) := by
  unfold Workshop.work at h
  split at h <;> cases h
  rename_i queue htake
  simp only [Hand.act, htake]

end FileServer
