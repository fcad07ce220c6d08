import Mathlib.Data.List.Perm.Basic
import Mathlib.Logic.Function.Iterate
import FileServer.Proofs.Disk

/-!
# What the workers of a crew have done

Along a sequence of actions of a crew, `deeds` are the strokes of its workers, each with the number
of the worker and with what it was about, and `puts` are the tasks that were put on the queue. The
queue is first in, first out: what waited and what was put is, in this order, what was taken and
what still waits (`tasks_run`).

Each worker does its loads one at a time. What it has done is a number of whole loads, in four deeds
each, and the beginning of another one (`course_run`). As every deed is the deed of one worker, a
list of one kind of deeds is, up to order, what the workers have done of that kind one after the
other (`flatMap_deedsOf_perm`). The deeds say what has become of the cache and of the notifier
(`cache_run`, `notifier_run`).
-/

namespace FileServer

/-- A content that was put into the cache, and the load it is for. -/
structure Publication where
  /-- The key of the load. -/
  key : String
  /-- The ticket of the load. -/
  ticket : Ticket
  /-- What was put into the cache. -/
  content : Content
deriving DecidableEq

namespace Publication

/-- The load that a content was published for. -/
def load (publication : Publication) : String × Ticket := (publication.key, publication.ticket)

/-- What the cache holds of it. -/
def entry (publication : Publication) : String × Content := (publication.key, publication.content)

/-- The task that asked for the load. -/
def task (publication : Publication) : Task := .load publication.key publication.ticket

end Publication

/-- What a worker does in one stroke. -/
inductive Deed where
  /-- It takes a task off the queue. -/
  | take (task : Task)
  /-- It puts the content of a file into the cache. -/
  | publish (publication : Publication)
  /-- It marks the ticket of a load. -/
  | mark (key : String) (ticket : Ticket)
  /-- It signals that a load is done. -/
  | signal (key : String) (ticket : Ticket)
deriving DecidableEq

namespace Deed

/-- The task that is taken. -/
def task? : Deed → Option Task
  | take task => some task
  | _ => none

/-- What is published. -/
def publication? : Deed → Option Publication
  | publish publication => some publication
  | _ => none

/-- The load that is signalled, as a task. -/
def signalled? : Deed → Option Task
  | signal key ticket => some (.load key ticket)
  | _ => none

end Deed

/-- The deeds of a whole load: its task is taken, its content published under its key, its ticket
marked and one signal given. -/
def Publication.deeds (publication : Publication) : List Deed :=
  [.take publication.task, .publish publication, .mark publication.key publication.ticket,
    .signal publication.key publication.ticket]

/-- How many strokes a task takes. -/
def Task.strokes : Task → Nat
  | .load _ _ => 4
  | .stop => 1

/-- A publication reaches the cache. -/
def Cache.keep (cache : Cache) (publication : Publication) : Cache :=
  cache.put publication.key publication.content

/-- Signals are counted up to the limit. A count that is beyond it stays. -/
theorem Notifier.count_iterate_signal (number : Nat) (notifier : Notifier) :
    (signal^[number] notifier).count
      = max notifier.count (min (notifier.count + number) limit) := by
  induction number generalizing notifier with
  | zero =>
      rw [Function.iterate_zero, id, Nat.add_zero, Nat.max_eq_left (Nat.min_le_left _ _)]
  | succ number ih =>
      rw [Function.iterate_succ_apply, ih, signal]
      split
      · show max (notifier.count + 1) (min (notifier.count + 1 + number) limit) = _
        omega
      · omega

namespace Hand

variable {hand next : Hand} {content : Content} {shop after : Workshop}

/-- What a worker does in its next stroke. -/
def deed? (content : Content) (shop : Workshop) : Hand → Option Deed
  | .free => shop.hub.queue.tasks.head?.map .take
  | .holding key ticket => some (.publish ⟨key, ticket, content⟩)
  | .published key ticket => some (.mark key ticket)
  | .marked key ticket => some (.signal key ticket)
  | .ended => none

/-- What a worker has done of a task that is not finished; `content` is what it has published. -/
def begun (content : Content) : Hand → List Deed
  | .free => []
  | .holding key ticket => [.take (.load key ticket)]
  | .published key ticket => [.take (.load key ticket), .publish ⟨key, ticket, content⟩]
  | .marked key ticket =>
    [.take (.load key ticket), .publish ⟨key, ticket, content⟩, .mark key ticket]
  | .ended => [.take .stop]

/-- How many strokes a worker has still to make for its task. -/
def strokes : Hand → Nat
  | .holding _ _ => 3
  | .published _ _ => 2
  | .marked _ _ => 1
  | _ => 0

/-- What a deed does to the worker and to what the workers share. -/
structure Does (hand : Hand) (deed : Deed) (next : Hand) (shop after : Workshop) : Prop where
  /-- A task that is taken was the oldest one. -/
  tasks : shop.hub.queue.tasks = deed.task?.toList ++ after.hub.queue.tasks
  /-- What is published is put into the cache. -/
  cache : after.hub.cache = deed.publication?.toList.foldl Cache.keep shop.hub.cache
  /-- There is one signal for each that is given. -/
  notifier : after.notifier = Notifier.signal^[deed.signalled?.toList.length] shop.notifier
  /-- What the worker has begun goes on, or is a whole load now. -/
  course : ∀ old, ∃ (loads : List Publication) (new : Content),
    hand.begun old ++ [deed] = loads.flatMap Publication.deeds ++ next.begun new
  /-- A worker that does something has not ended. -/
  live : hand ≠ .ended
  /-- A worker ends when it takes a stop. -/
  ended : next = .ended ↔ deed.task? = some .stop
  /-- A deed is one stroke; a task that is taken brings as many as it takes. -/
  strokes : next.strokes + 1 = hand.strokes + deed.task?.elim 0 Task.strokes

/-- A stroke of a worker is a deed. -/
theorem does_act (h : hand.act content shop = some (next, after)) :
    ∃ deed, hand.deed? content shop = some deed ∧ hand.Does deed next shop after := by
  have hlive : hand ≠ .ended := by
    rintro rfl
    cases h
  cases hand with
  | free =>
      rw [act, LoadQueue.take?] at h
      rcases htasks : shop.hub.queue.tasks with _ | ⟨task, tasks⟩
      · rw [htasks] at h
        cases h
      · rw [htasks] at h
        refine ⟨.take task, by rw [deed?, htasks]; rfl, ?_⟩
        cases task with
        | stop =>
            cases h
            exact ⟨htasks, rfl, rfl, fun old => ⟨[], old, rfl⟩, hlive, by simp [Deed.task?], rfl⟩
        | load key ticket =>
            cases h
            exact ⟨htasks, rfl, rfl, fun old => ⟨[], old, rfl⟩, hlive, by simp [Deed.task?], rfl⟩
  | holding key ticket =>
      cases h
      exact ⟨_, rfl, rfl, rfl, rfl, fun _ => ⟨[], content, rfl⟩, hlive, by simp [Deed.task?], rfl⟩
  | published key ticket =>
      cases h
      exact ⟨_, rfl, rfl, rfl, rfl, fun old => ⟨[], old, rfl⟩, hlive, by simp [Deed.task?], rfl⟩
  | marked key ticket =>
      cases h
      exact ⟨_, rfl, rfl, rfl, rfl, fun old => ⟨[⟨key, ticket, old⟩], old, rfl⟩, hlive,
        by simp [Deed.task?], rfl⟩
  | ended => cases h

/-- What a worker publishes is what its file holds. -/
theorem content_of_deed {publication : Publication} {read : Path → Content}
    (h : hand.deed? (read hand.path) shop = some (.publish publication)) :
    publication.content = read (Text.encode publication.key) := by
  cases hand with
  | free =>
      obtain ⟨task, -, htask⟩ := Option.map_eq_some_iff.1 h
      cases htask
  | holding key ticket =>
      cases h
      rfl
  | published key ticket => cases h
  | marked key ticket => cases h
  | ended => cases h

end Hand

namespace Crew

variable {crew next last : Crew} {action : Action} {actions rest : List Action} {number : Nat}

/-! ### What an action can be -/

/-- What an action leads to. -/
inductive Move (crew : Crew) : Action → Crew → Prop where
  /-- A worker makes a stroke. -/
  | worker {number : Nat} {read : Path → Content} {hand after : Hand} {shop : Workshop}
      (hhand : crew.hands[number]? = some hand)
      (hact : hand.act (read hand.path) crew.shop = some (after, shop)) :
      Move crew (.worker number read) { crew with shop, hands := crew.hands.set number after }
  /-- A load is asked for. -/
  | request (key : String) :
      Move crew (.request key) { crew with shop.hub := (crew.shop.hub.request key).2 }
  /-- A shutdown begins. -/
  | shutDown (hclosing : crew.closing = none) :
      Move crew .shutDown { crew with closing := some (crew.hands.length - crew.joined) }
  /-- A stop is put. -/
  | stop {stops : Nat} (hclosing : crew.closing = some (stops + 1)) :
      Move crew .stop { crew with shop := crew.shop.put .stop, closing := some stops }
  /-- The next worker has ended. -/
  | join (hclosing : crew.closing = some 0) (hended : crew.hands[crew.joined]? = some .ended) :
      Move crew .join { crew with joined := crew.joined + 1 }
  /-- A shutdown is over. -/
  | leave (hclosing : crew.closing = some 0) (hjoined : crew.joined = crew.hands.length) :
      Move crew .leave { crew with closing := none }

/-- The actions that are possible, and what they lead to. -/
theorem act_eq_some_iff : crew.act action = some next ↔ crew.Move action next := by
  refine ⟨fun h => ?_, fun h => ?_⟩
  · cases action with
    | worker number read =>
        obtain ⟨⟨after, shop⟩, hstroke, rfl⟩ := Option.map_eq_some_iff.1 h
        obtain ⟨hand, hhand, hact⟩ := Option.bind_eq_some_iff.1 hstroke
        exact .worker hhand hact
    | request key =>
        cases h
        exact .request key
    | shutDown =>
        rw [act] at h
        split at h
        · rename_i hclosing
          cases h
          exact .shutDown hclosing
        · cases h
    | stop =>
        rw [act] at h
        split at h
        · rename_i hclosing
          cases h
          exact .stop hclosing
        · cases h
    | join =>
        obtain ⟨hguard, hnext⟩ := Option.ite_none_right_eq_some.1 h
        cases hnext
        exact .join hguard.1 hguard.2
    | leave =>
        obtain ⟨hguard, hnext⟩ := Option.ite_none_right_eq_some.1 h
        cases hnext
        exact .leave hguard.1 hguard.2
  · cases h with
    | worker hhand hact => rw [act, hhand, Option.bind_some, hact]; rfl
    | request key => rfl
    | shutDown hclosing => rw [act, hclosing]
    | stop hclosing => rw [act, hclosing]
    | join hclosing hended => exact if_pos ⟨hclosing, hended⟩
    | leave hclosing hjoined => exact if_pos ⟨hclosing, hjoined⟩

/-- A run begins with its first action. -/
theorem run_cons (h : crew.run (action :: rest) = some last) :
    ∃ next, crew.act action = some next ∧ next.run rest = some last :=
  Option.bind_eq_some_iff.1 h

/-- Two runs in a row are one. -/
theorem run_append (crew : Crew) (actions rest : List Action) :
    crew.run (actions ++ rest) = (crew.run actions).bind fun next => next.run rest := by
  induction actions generalizing crew with
  | nil => rfl
  | cons action actions ih =>
      rw [List.cons_append, run, run]
      cases crew.act action with
      | none => rfl
      | some next => exact ih next

/-- Nobody comes or goes. -/
theorem length_act (h : crew.act action = some next) : next.hands.length = crew.hands.length := by
  cases act_eq_some_iff.1 h with
  | worker => exact List.length_set
  | request => rfl
  | shutDown => rfl
  | stop => rfl
  | join => rfl
  | leave => rfl

/-! ### The history of a run -/

/-- The deed of an action, with the worker that does it. -/
def deed? (crew : Crew) : Action → Option (Nat × Deed)
  | .worker number read =>
    (crew.hands[number]?.bind fun hand => hand.deed? (read hand.path) crew.shop).map
      fun deed => (number, deed)
  | _ => none

/-- The task that an action puts on the queue. -/
def put? (crew : Crew) : Action → Option Task
  | .request key => some (.load key crew.shop.hub.queue.nextTicket)
  | .stop => some .stop
  | _ => none

/-- What is seen of each action in a run. -/
def along {α : Type} (see : Crew → Action → Option α) (crew : Crew) : List Action → List α
  | [] => []
  | action :: rest =>
    (see crew action).toList ++
      match crew.act action with
      | none => []
      | some next => next.along see rest

/-- The deeds of the workers in a run. -/
def deeds (crew : Crew) (actions : List Action) : List (Nat × Deed) := crew.along deed? actions

/-- The tasks that are put on the queue in a run. -/
def puts (crew : Crew) (actions : List Action) : List Task := crew.along put? actions

/-- The deeds of one worker in a run. -/
def deedsOf (crew : Crew) (actions : List Action) (number : Nat) : List Deed :=
  ((crew.deeds actions).filter fun deed => deed.1 = number).map Prod.snd

/-- What is seen first comes first. -/
theorem along_cons {α : Type} (see : Crew → Action → Option α) (h : crew.act action = some next)
    (rest : List Action) :
    crew.along see (action :: rest) = (see crew action).toList ++ next.along see rest := by
  rw [along, h]

/-- What is seen of two parts of a run, one after the other. -/
theorem along_append {α : Type} (see : Crew → Action → Option α)
    (h : crew.run actions = some next) (rest : List Action) :
    crew.along see (actions ++ rest) = crew.along see actions ++ next.along see rest := by
  induction actions generalizing crew with
  | nil =>
      cases h
      rfl
  | cons action actions ih =>
      obtain ⟨middle, hact, hrun⟩ := run_cons h
      rw [List.cons_append, along_cons see hact, along_cons see hact, ih hrun, List.append_assoc]

/-- What an action does to the workers and to what they share. -/
inductive Deals (crew : Crew) (action : Action) (next : Crew) : Prop where
  /-- No worker acts. -/
  | aside (hdeed : crew.deed? action = none) (hhands : next.hands = crew.hands)
      (htasks : next.shop.hub.queue.tasks
        = crew.shop.hub.queue.tasks ++ (crew.put? action).toList)
      (hcache : next.shop.hub.cache = crew.shop.hub.cache)
      (hnotifier : next.shop.notifier = crew.shop.notifier)
  /-- A worker does a deed. -/
  | deed {number : Nat} {hand after : Hand} {deed : Deed}
      (hdeed : crew.deed? action = some (number, deed)) (hput : crew.put? action = none)
      (hhand : crew.hands[number]? = some hand) (hhands : next.hands = crew.hands.set number after)
      (hdoes : hand.Does deed after crew.shop next.shop)

/-- **An action** is the deed of a worker or leaves the workers aside. -/
theorem deals_act (h : crew.act action = some next) : crew.Deals action next := by
  cases act_eq_some_iff.1 h with
  | @worker number read hand after shop hhand hact =>
      obtain ⟨deed, hdeed, hdoes⟩ := Hand.does_act hact
      refine .deed ?_ rfl hhand rfl hdoes
      rw [deed?, hhand, Option.bind_some, hdeed]
      rfl
  | request key => exact .aside rfl rfl rfl rfl rfl
  | shutDown => exact .aside rfl rfl (List.append_nil _).symm rfl rfl
  | stop => exact .aside rfl rfl rfl rfl rfl
  | join => exact .aside rfl rfl (List.append_nil _).symm rfl rfl
  | leave => exact .aside rfl rfl (List.append_nil _).symm rfl rfl

/-- What the deeds of a run have of one kind. -/
def select {α : Type} (kind : Deed → Option α) (crew : Crew) (actions : List Action) : List α :=
  (crew.deeds actions).filterMap fun deed => kind deed.2

/-- Where no worker acts, nothing is added to the deeds of a kind. -/
theorem select_of_aside {α : Type} (kind : Deed → Option α) (h : crew.act action = some next)
    (hdeed : crew.deed? action = none) (rest : List Action) :
    crew.select kind (action :: rest) = next.select kind rest := by
  rw [select, deeds, along_cons deed? h, hdeed]
  rfl

/-- The deed of a worker is added to the deeds of its kind. -/
theorem select_of_deed {α : Type} (kind : Deed → Option α) {deed : Deed}
    (h : crew.act action = some next) (hdeed : crew.deed? action = some (number, deed))
    (rest : List Action) :
    crew.select kind (action :: rest) = (kind deed).toList ++ next.select kind rest := by
  rw [select, deeds, along_cons deed? h, hdeed, Option.toList_some, List.cons_append,
    List.filterMap_cons]
  cases kind deed <;> rfl

/-- Where no worker acts, none has done anything. -/
theorem deedsOf_of_aside (h : crew.act action = some next) (hdeed : crew.deed? action = none)
    (rest : List Action) (number : Nat) :
    crew.deedsOf (action :: rest) number = next.deedsOf rest number := by
  rw [deedsOf, deeds, along_cons deed? h, hdeed]
  rfl

/-- A deed is one of the worker who acts. -/
theorem deedsOf_of_deed {deed : Deed} (h : crew.act action = some next)
    (hdeed : crew.deed? action = some (number, deed)) (rest : List Action) (other : Nat) :
    crew.deedsOf (action :: rest) other
      = (if number = other then [deed] else []) ++ next.deedsOf rest other := by
  rw [deedsOf, deeds, along_cons deed? h, hdeed, Option.toList_some, List.cons_append,
    List.filter_cons]
  by_cases hsame : number = other
  · rw [if_pos hsame, if_pos (by simpa using hsame)]
    rfl
  · rw [if_neg hsame, if_neg (by simpa using hsame)]
    rfl

/-! ### What a run comes to -/

/-- **First in, first out**: what waited and what was put is what was taken and what waits. -/
theorem tasks_run (h : crew.run actions = some last) :
    crew.shop.hub.queue.tasks ++ crew.puts actions
      = crew.select Deed.task? actions ++ last.shop.hub.queue.tasks := by
  induction actions generalizing crew with
  | nil =>
      cases h
      exact List.append_nil _
  | cons action rest ih =>
      obtain ⟨next, hact, hrun⟩ := run_cons h
      rw [puts, along_cons put? hact]
      cases deals_act hact with
      | aside hdeed _ htasks =>
          rw [select_of_aside _ hact hdeed, ← List.append_assoc, ← htasks]
          exact ih hrun
      | deed hdeed hput _ _ hdoes =>
          rw [select_of_deed _ hact hdeed, hput, hdoes.tasks, List.append_assoc, List.append_assoc]
          exact congrArg _ (ih hrun)

/-- The cache has taken in what was published. -/
theorem cache_run (h : crew.run actions = some last) :
    last.shop.hub.cache
      = (crew.select Deed.publication? actions).foldl Cache.keep crew.shop.hub.cache := by
  induction actions generalizing crew with
  | nil =>
      cases h
      rfl
  | cons action rest ih =>
      obtain ⟨next, hact, hrun⟩ := run_cons h
      rw [ih hrun]
      cases deals_act hact with
      | aside hdeed _ _ hcache => rw [select_of_aside _ hact hdeed, hcache]
      | deed hdeed _ _ _ hdoes =>
          rw [select_of_deed _ hact hdeed, List.foldl_append, hdoes.cache]

/-- The notifier has had each signal that was given. -/
theorem notifier_run (h : crew.run actions = some last) :
    last.shop.notifier
      = Notifier.signal^[(crew.select Deed.signalled? actions).length] crew.shop.notifier := by
  induction actions generalizing crew with
  | nil =>
      cases h
      rfl
  | cons action rest ih =>
      obtain ⟨next, hact, hrun⟩ := run_cons h
      rw [ih hrun]
      cases deals_act hact with
      | aside hdeed _ _ _ hnotifier => rw [select_of_aside _ hact hdeed, hnotifier]
      | deed hdeed _ _ _ hdoes =>
          rw [select_of_deed _ hact hdeed, List.length_append, Nat.add_comm,
            Function.iterate_add_apply, hdoes.notifier]

/-- Nobody comes or goes in a run. -/
theorem length_run (h : crew.run actions = some last) : last.hands.length = crew.hands.length := by
  induction actions generalizing crew with
  | nil =>
      cases h
      rfl
  | cons action rest ih =>
      obtain ⟨next, hact, hrun⟩ := run_cons h
      exact (ih hrun).trans (length_act hact)

/-- **A worker does one load after the other**: what it has begun and what it does in a run is a
number of whole loads, and what it has begun then. -/
theorem course_run {hand : Hand} (h : crew.run actions = some last)
    (hhand : crew.hands[number]? = some hand) (old : Content) :
    ∃ (after : Hand) (loads : List Publication) (new : Content), last.hands[number]? = some after ∧
      hand.begun old ++ crew.deedsOf actions number
        = loads.flatMap Publication.deeds ++ after.begun new := by
  induction actions generalizing crew hand old with
  | nil =>
      cases h
      exact ⟨hand, [], old, hhand, List.append_nil _⟩
  | cons action rest ih =>
      obtain ⟨next, hact, hrun⟩ := run_cons h
      cases deals_act hact with
      | aside hdeed hhands =>
          rw [deedsOf_of_aside hact hdeed]
          exact ih hrun (by rw [hhands, hhand]) old
      | @deed acting was after deed hdeed _ hwas hhands hdoes =>
          rw [deedsOf_of_deed hact hdeed]
          by_cases hsame : acting = number
          · -- The worker itself: its deed is added to what it has begun.
            subst hsame
            obtain rfl : was = hand := Option.some.inj (hwas.symm.trans hhand)
            obtain ⟨loads, new, hloads⟩ := hdoes.course old
            have hafter : next.hands[acting]? = some after := by
              rw [hhands, List.getElem?_set_self (List.getElem?_eq_some_iff.1 hwas).1]
            obtain ⟨final, more, newest, hfinal, hmore⟩ := ih hrun hafter new
            refine ⟨final, loads ++ more, newest, hfinal, ?_⟩
            rw [if_pos rfl, ← List.append_assoc, hloads, List.append_assoc, hmore,
              List.flatMap_append, List.append_assoc]
          · rw [if_neg hsame, List.nil_append]
            exact ih hrun (by rw [hhands, List.getElem?_set_ne hsame, hhand]) old

/-- A deed is the deed of one of the workers. -/
theorem lt_of_mem_deeds {deed : Nat × Deed} (h : crew.run actions = some last)
    (hmem : deed ∈ crew.deeds actions) : deed.1 < crew.hands.length := by
  induction actions generalizing crew with
  | nil => exact absurd hmem List.not_mem_nil
  | cons action rest ih =>
      obtain ⟨next, hact, hrun⟩ := run_cons h
      rw [deeds, along_cons deed? hact] at hmem
      rcases List.mem_append.1 hmem with hfirst | hrest
      · rw [Option.mem_toList] at hfirst
        cases deals_act hact with
        | aside hdeed =>
            rw [hdeed] at hfirst
            cases hfirst
        | deed hdeed _ hhand =>
            obtain rfl := Option.some.inj (hdeed.symm.trans hfirst)
            exact (List.getElem?_eq_some_iff.1 hhand).1
      · rw [← length_act hact]
        exact ih hrun hrest

/-- What a worker publishes under a key is what the file of this name held when it read it. -/
theorem content_of_mem_deeds {publication : Publication} (h : crew.run actions = some last)
    (hmem : (number, .publish publication) ∈ crew.deeds actions) :
    ∃ read, .worker number read ∈ actions ∧
      publication.content = read (Text.encode publication.key) := by
  induction actions generalizing crew with
  | nil => exact absurd hmem List.not_mem_nil
  | cons action rest ih =>
      obtain ⟨next, hact, hrun⟩ := run_cons h
      rw [deeds, along_cons deed? hact] at hmem
      rcases List.mem_append.1 hmem with hfirst | hrest
      · rw [Option.mem_toList] at hfirst
        cases action with
        | worker acting read =>
            obtain ⟨deed, hdeed, heq⟩ := Option.map_eq_some_iff.1 hfirst
            obtain ⟨rfl, rfl⟩ := Prod.mk.inj heq
            obtain ⟨hand, -, hhand⟩ := Option.bind_eq_some_iff.1 hdeed
            exact ⟨read, List.mem_cons_self, Hand.content_of_deed hhand⟩
        | request => cases hfirst
        | shutDown => cases hfirst
        | stop => cases hfirst
        | join => cases hfirst
        | leave => cases hfirst
      · obtain ⟨read, hread, hcontent⟩ := ih hrun hrest
        exact ⟨read, List.mem_cons_of_mem _ hread, hcontent⟩

/-- Numbered things, sorted by their numbers. -/
theorem flatMap_filter_perm {α : Type} (count : Nat) (items : List (Nat × α))
    (h : ∀ item ∈ items, item.1 < count) :
    ((List.range count).flatMap fun number => items.filter fun item => item.1 = number).Perm
      items := by
  induction count generalizing items with
  | zero =>
      rw [List.eq_nil_iff_forall_not_mem.2 fun item hitem => Nat.not_lt_zero _ (h item hitem)]
      rfl
  | succ count ih =>
      have hlow := ih (items.filter fun item => item.1 < count) fun item hitem => by
        simpa using (List.mem_filter.1 hitem).2
      have hsame : ((List.range count).flatMap fun number =>
            (items.filter fun item => item.1 < count).filter fun item => item.1 = number)
          = (List.range count).flatMap fun number => items.filter fun item => item.1 = number := by
        refine List.flatMap_congr fun number hnumber => ?_
        rw [List.filter_filter]
        refine List.filter_congr fun item _ => ?_
        have := List.mem_range.1 hnumber
        rw [Bool.and_eq_left_iff_imp]
        intro heq
        simp only [decide_eq_true_eq] at heq ⊢
        omega
      have hhigh : (items.filter fun item => item.1 = count)
          = items.filter fun item => !decide (item.1 < count) := by
        refine List.filter_congr fun item hitem => ?_
        have := h item hitem
        rw [← decide_not, decide_eq_decide]
        omega
      rw [hsame] at hlow
      rw [List.range_succ, List.flatMap_append, List.flatMap_singleton, hhigh]
      exact (hlow.append_right _).trans (List.filter_append_perm _ _)

/-- **Every deed is the deed of one worker**: what the workers have done of one kind, one worker
after the other, is all that was done of this kind. -/
theorem flatMap_deedsOf_perm {α : Type} (kind : Deed → Option α)
    (h : crew.run actions = some last) :
    ((List.range crew.hands.length).flatMap fun number =>
      (crew.deedsOf actions number).filterMap kind).Perm (crew.select kind actions) := by
  have hperm := (flatMap_filter_perm crew.hands.length (crew.deeds actions) fun deed hdeed =>
    lt_of_mem_deeds h hdeed).filterMap fun deed => kind deed.2
  rw [List.filterMap_flatMap] at hperm
  simpa only [select, deedsOf, List.filterMap_map, Function.comp_def] using hperm

end Crew

end FileServer
