import FileServer.Proofs.Disk.Deeds

/-!
# Shutting a pool down

Everything that is asked for before a pool is shut down is done, and done once, whatever the order
in which the workers and the one who shuts the pool down act.

While the pool is being shut down there is a stop for every worker that has not ended, on the queue
or still to be put (`Closing`). So no worker that is waited for can be stranded at an empty queue,
and as every stroke brings the end nearer, the shutdown returns (`Returns`). Once it has returned
all workers have ended, so no stop is left on the queue; and as the stops were put last, nothing
else is left either. What was taken is then what was asked for, and the stops. What the workers have
done, one load after the other, is these loads up to order.

Put together this is `completed_of_shutDown`.
-/

namespace FileServer

namespace Crew

variable {crew next last start : Crew} {action : Action} {actions early late : List Action}
  {number : Nat} {key : String} {ticket : Ticket} {pool : Pool} {shop : Workshop}

/-! ### Before a shutdown -/

/-- Nobody has begun to shut the pool down. -/
structure Running (crew : Crew) : Prop where
  /-- Nobody puts stops or waits for workers. -/
  closing : crew.closing = none
  /-- Nobody has waited for a worker. -/
  joined : crew.joined = 0
  /-- There is no stop on the queue. -/
  tasks : .stop ∉ crew.shop.hub.queue.tasks
  /-- No worker has ended. -/
  hands : .ended ∉ crew.hands

/-- A crew that begins is running. -/
theorem running_ofPool (pool : Pool) (h : .stop ∉ shop.hub.queue.tasks) :
    (ofPool pool shop).Running where
  closing := rfl
  joined := rfl
  tasks := h
  hands := fun hmem => by cases List.eq_of_mem_replicate hmem

/-- Before a shutdown only loads are asked for, and no worker ends. -/
theorem Running.act (h : crew.Running) (hact : crew.act action = some next)
    (hne : action ≠ .shutDown) : next.Running ∧ crew.put? action ≠ some .stop := by
  cases act_eq_some_iff.1 hact with
  | @worker number read hand after shop hhand hstroke =>
      obtain ⟨deed, -, hdoes⟩ := Hand.does_act hstroke
      have hlater : ∀ task ∈ shop.hub.queue.tasks, task ∈ crew.shop.hub.queue.tasks := by
        intro task htask
        rw [hdoes.tasks]
        exact List.mem_append_right _ htask
      refine ⟨⟨h.closing, h.joined, fun hstop => h.tasks (hlater _ hstop), fun hended => ?_⟩, nofun⟩
      rcases List.mem_or_eq_of_mem_set hended with hold | hnew
      · exact h.hands hold
      · apply h.tasks
        rw [hdoes.tasks, hdoes.ended.1 hnew.symm]
        exact List.mem_cons_self
  | request key =>
      refine ⟨⟨h.closing, h.joined, ?_, h.hands⟩, nofun⟩
      show .stop ∉ crew.shop.hub.queue.tasks ++ [_]
      simpa using h.tasks
  | shutDown => exact absurd rfl hne
  | stop hclosing =>
      rw [h.closing] at hclosing
      cases hclosing
  | join hclosing =>
      rw [h.closing] at hclosing
      cases hclosing
  | leave hclosing =>
      rw [h.closing] at hclosing
      cases hclosing

/-- A crew runs until it is shut down, and puts no stops before that. -/
theorem Running.run (h : crew.Running) (hrun : crew.run actions = some last)
    (hactions : .shutDown ∉ actions) : last.Running ∧ .stop ∉ crew.puts actions := by
  induction actions generalizing crew with
  | nil =>
      cases hrun
      exact ⟨h, List.not_mem_nil⟩
  | cons action rest ih =>
      obtain ⟨next, hact, hrest⟩ := run_cons hrun
      have hne : action ≠ .shutDown := fun heq => hactions (heq ▸ List.mem_cons_self)
      obtain ⟨hnext, hput⟩ := h.act hact hne
      obtain ⟨hlast, hputs⟩ := ih hnext hrest fun hmem => hactions (List.mem_cons_of_mem _ hmem)
      refine ⟨hlast, fun hstop => ?_⟩
      rw [puts, along_cons put? hact] at hstop
      rcases List.mem_append.1 hstop with hfirst | hmore
      · exact hput (Option.mem_toList.1 hfirst)
      · exact hputs hmore

/-! ### During and after a shutdown -/

/-- Somebody shuts the pool down, or has done so. -/
structure Closing (crew : Crew) : Prop where
  /-- There is a stop for every worker that has not ended. -/
  stops : crew.shop.hub.queue.tasks.count .stop + crew.closing.getD 0
    = crew.hands.countP fun hand => hand ≠ .ended
  /-- Those who were waited for have ended. -/
  joined : ∀ number < crew.joined, crew.hands[number]? = some .ended
  /-- The shutdown returns when all were waited for. -/
  complete : crew.closing = none → crew.joined = crew.hands.length

/-- With the shutdown begins the account of the stops. -/
theorem Running.closing_act (h : crew.Running) (hact : crew.act .shutDown = some next) :
    next.Closing := by
  cases act_eq_some_iff.1 hact with
  | shutDown =>
      refine ⟨?_, fun number hnumber => ?_, nofun⟩
      · show crew.shop.hub.queue.tasks.count .stop + (crew.hands.length - crew.joined) = _
        rw [List.count_eq_zero.2 h.tasks, h.joined, Nat.zero_add, Nat.sub_zero, eq_comm,
          List.countP_eq_length]
        intro hand hhand
        rw [decide_eq_true_eq]
        rintro rfl
        exact h.hands hhand
      · rw [show crew.joined = 0 from h.joined] at hnumber
        exact absurd hnumber (Nat.not_lt_zero _)

namespace Closing

/-- No more workers are waited for than there are. -/
theorem joined_le (h : crew.Closing) : crew.joined ≤ crew.hands.length := by
  by_contra hlt
  have hended := h.joined crew.hands.length (by omega)
  rw [List.getElem?_eq_none (Nat.le_refl _)] at hended
  cases hended

/-- A worker that takes a stop ends, and nobody else does. -/
theorem countP_set_of_does {hand after : Hand} {deed : Deed} {hands : List Hand}
    {before shop : Workshop} (hhand : hands[number]? = some hand)
    (hdoes : hand.Does deed after before shop) :
    ((hands.set number after).countP fun hand => hand ≠ .ended) + deed.task?.toList.count .stop
      = hands.countP fun hand => hand ≠ .ended := by
  obtain ⟨hlt, hget⟩ := List.getElem?_eq_some_iff.1 hhand
  have hlive : 0 < hands.countP fun hand => hand ≠ .ended :=
    List.countP_pos_iff.2 ⟨hand, List.mem_of_getElem? hhand, by simpa using hdoes.live⟩
  rw [List.countP_set hlt, hget, if_pos (by simpa using hdoes.live)]
  by_cases hended : after = .ended
  · rw [hdoes.ended.1 hended, if_neg (by simpa using hended), Option.toList_some,
      List.count_singleton_self]
    omega
  · have hother : deed.task?.toList.count .stop = 0 := by
      rw [List.count_eq_zero, Option.mem_toList]
      exact fun hstop => hended (hdoes.ended.2 hstop)
    rw [if_pos (by simpa using hended)]
    omega

/-- The account of the stops is kept. -/
theorem act (h : crew.Closing) (hact : crew.act action = some next) : next.Closing := by
  have hstops := h.stops
  cases act_eq_some_iff.1 hact with
  | @worker number read hand after shop hhand hstroke =>
      obtain ⟨deed, -, hdoes⟩ := Hand.does_act hstroke
      refine ⟨?_, fun other hother => ?_, fun hover => (h.complete hover).trans List.length_set.symm⟩
      · show shop.hub.queue.tasks.count .stop + crew.closing.getD 0
          = (crew.hands.set number after).countP fun hand => hand ≠ .ended
        have hlive := countP_set_of_does hhand hdoes
        rw [hdoes.tasks, List.count_append] at hstops
        omega
      · have hold := h.joined other hother
        have hne : number ≠ other := by
          rintro rfl
          exact hdoes.live (Option.some.inj (hhand.symm.trans hold))
        rw [List.getElem?_set_ne hne]
        exact hold
  | request key =>
      refine ⟨?_, h.joined, h.complete⟩
      show (crew.shop.hub.queue.tasks ++ [_]).count Task.stop + crew.closing.getD 0 = _
      rw [← hstops, List.count_append]
      rfl
  | shutDown hclosing =>
      have hover := h.complete hclosing
      refine ⟨?_, h.joined, nofun⟩
      show crew.shop.hub.queue.tasks.count .stop + (crew.hands.length - crew.joined) = _
      rw [hclosing] at hstops
      rw [hover, Nat.sub_self]
      exact hstops
  | @stop stops hclosing =>
      refine ⟨?_, h.joined, nofun⟩
      show (crew.shop.hub.queue.tasks ++ [Task.stop]).count Task.stop + stops = _
      rw [hclosing] at hstops
      rw [List.count_append, List.count_singleton_self, ← hstops, Option.getD_some]
      omega
  | join hclosing hended =>
      refine ⟨hstops, fun other hother => ?_, fun hnone => ?_⟩
      · rcases Nat.lt_succ_iff_lt_or_eq.1 hother with hbefore | rfl
        · exact h.joined other hbefore
        · exact hended
      · rw [show crew.closing = none from hnone] at hclosing
        cases hclosing
  | leave hclosing hjoined =>
      refine ⟨?_, h.joined, fun _ => hjoined⟩
      rw [hclosing] at hstops
      exact hstops

/-- A crew that is being shut down stays so, or is shut down. -/
theorem run (h : crew.Closing) (hrun : crew.run actions = some last) : last.Closing := by
  induction actions generalizing crew with
  | nil =>
      cases hrun
      exact h
  | cons action rest ih =>
      obtain ⟨next, hact, hrest⟩ := run_cons hrun
      exact ih (h.act hact) hrest

/-- The shutdown has returned as soon as nobody waits. -/
theorem isShutDown_iff (h : crew.Closing) : crew.isShutDown = true ↔ crew.closing = none := by
  rw [isShutDown, Bool.and_eq_true, decide_eq_true_eq, decide_eq_true_eq]
  exact ⟨And.left, fun hnone => ⟨hnone, h.complete hnone⟩⟩

/-- Once the shutdown has returned every worker has ended. -/
theorem ended (h : crew.Closing) (hdown : crew.isShutDown = true) :
    ∀ hand ∈ crew.hands, hand = .ended := by
  intro hand hhand
  obtain ⟨number, hnumber⟩ := List.mem_iff_getElem?.1 hhand
  have hlt := (List.getElem?_eq_some_iff.1 hnumber).1
  rw [← h.complete (h.isShutDown_iff.1 hdown)] at hlt
  exact Option.some.inj (hnumber.symm.trans (h.joined number hlt))

/-- Where all workers have ended no stop is left, and none is to be put. -/
theorem count_stop (h : crew.Closing) (hended : ∀ hand ∈ crew.hands, hand = .ended) :
    crew.shop.hub.queue.tasks.count .stop = 0 ∧ crew.closing.getD 0 = 0 := by
  have hnone : (crew.hands.countP fun hand => hand ≠ .ended) = 0 := by
    rw [List.countP_eq_zero]
    intro hand hhand
    simpa using hended hand hhand
  have hstops := h.stops
  omega

/-- While nobody asks for loads, only stops are put, as many as were still to be put. -/
theorem puts_run (h : crew.Closing) (hrun : crew.run actions = some last)
    (hquiet : ∀ key, .request key ∉ actions) :
    ∃ count, crew.puts actions = List.replicate count .stop ∧
      count + last.closing.getD 0 = crew.closing.getD 0 := by
  induction actions generalizing crew with
  | nil =>
      cases hrun
      exact ⟨0, rfl, Nat.zero_add _⟩
  | cons action rest ih =>
      obtain ⟨next, hact, hrest⟩ := run_cons hrun
      obtain ⟨count, hputs, hcount⟩ := ih (h.act hact) hrest fun key hmem =>
        hquiet key (List.mem_cons_of_mem _ hmem)
      rw [puts, along_cons put? hact]
      have hover := h.complete
      cases act_eq_some_iff.1 hact with
      | worker => exact ⟨count, hputs, hcount⟩
      | request key => exact absurd List.mem_cons_self (hquiet key)
      | shutDown hclosing =>
          refine ⟨count, hputs, ?_⟩
          rw [hcount, hclosing, hover hclosing, Nat.sub_self]
          rfl
      | stop hclosing =>
          refine ⟨count + 1, congrArg _ hputs, ?_⟩
          rw [Nat.add_right_comm, hcount, hclosing]
          rfl
      | join => exact ⟨count, hputs, hcount⟩
      | leave hclosing =>
          refine ⟨count, hputs, ?_⟩
          rw [hcount, hclosing]
          rfl

end Closing

/-! ### The shutdown returns -/

/-- Whether an action belongs to a shutdown that is under way. -/
def Action.isUnderWay : Action → Bool
  | .request _ => false
  | .shutDown => false
  | _ => true

/-- The sum of what the elements of a list weigh. -/
def total {α : Type} (weight : α → Nat) : List α → Nat
  | [] => 0
  | x :: xs => weight x + total weight xs

/-- Totals of parts add up. -/
theorem total_append {α : Type} (weight : α → Nat) (xs ys : List α) :
    total weight (xs ++ ys) = total weight xs + total weight ys := by
  induction xs with
  | nil => exact (Nat.zero_add _).symm
  | cons x xs ih =>
      show weight x + total weight (xs ++ ys) = weight x + total weight xs + total weight ys
      rw [ih, Nat.add_assoc]

/-- Where one is replaced, its weight is. -/
theorem total_set {α : Type} (weight : α → Nat) {xs : List α} {x : α} (h : xs[number]? = some x)
    (y : α) : total weight (xs.set number y) + weight x = total weight xs + weight y := by
  induction xs generalizing number with
  | nil => cases h
  | cons head xs ih =>
      cases number with
      | zero =>
          rw [show head = x from Option.some.inj h]
          show weight y + total weight xs + weight x = weight x + total weight xs + weight y
          omega
      | succ number =>
          have hrest := ih h
          show weight head + total weight (xs.set number y) + weight x
            = weight head + total weight xs + weight y
          omega

/-- How many actions a shutdown has still to take: one for every stroke of a worker, one for every
stop that is to be put, one for every worker that is waited for, and one to return. -/
def remaining (crew : Crew) : Nat :=
  total Task.strokes crew.shop.hub.queue.tasks + total Hand.strokes crew.hands
    + crew.closing.elim 0 fun stops => 2 * stops + (crew.hands.length - crew.joined) + 1

/-- Every action of a shutdown brings its end nearer. -/
theorem remaining_act (hact : crew.act action = some next) (hway : action.isUnderWay = true) :
    next.remaining + 1 = crew.remaining := by
  cases act_eq_some_iff.1 hact with
  | @worker number read hand after shop hhand hstroke =>
      obtain ⟨deed, -, hdoes⟩ := Hand.does_act hstroke
      have htasks := total_append Task.strokes deed.task?.toList shop.hub.queue.tasks
      have hhands := total_set Hand.strokes hhand after
      have hstrokes := hdoes.strokes
      have htaken : total Task.strokes deed.task?.toList = deed.task?.elim 0 Task.strokes := by
        cases deed.task? <;> rfl
      rw [← hdoes.tasks, htaken] at htasks
      simp only [remaining, List.length_set]
      omega
  | request => cases hway
  | shutDown => cases hway
  | @stop stops hclosing =>
      have htasks : total Task.strokes (crew.shop.put .stop).hub.queue.tasks
          = total Task.strokes crew.shop.hub.queue.tasks + 1 := total_append _ _ [Task.stop]
      simp only [remaining, htasks, hclosing, Option.elim_some]
      omega
  | join hclosing hended =>
      have hlt := (List.getElem?_eq_some_iff.1 hended).1
      simp only [remaining, hclosing, Option.elim_some]
      omega
  | leave hclosing hjoined =>
      simp only [remaining, hclosing, hjoined, Option.elim_some, Option.elim_none, Nat.sub_self]

/-- A shutdown goes on, whoever acts, until it has returned. -/
structure Returns (crew : Crew) : Prop where
  /-- Until it has returned, somebody can act. -/
  onward : crew.isShutDown = false →
    ∃ action next, action.isUnderWay = true ∧ crew.act action = some next
  /-- It does not go on for ever. -/
  bounded : ∀ more last, (∀ action ∈ more, action.isUnderWay = true) →
    crew.run more = some last → more.length ≤ crew.remaining

/-- A worker that has not ended can act, unless there is no task for it. -/
theorem exists_act_worker {hand : Hand} (hhand : crew.hands[number]? = some hand)
    (hlive : hand ≠ .ended) (htasks : crew.shop.hub.queue.tasks ≠ []) (read : Path → Content) :
    ∃ next, crew.act (.worker number read) = some next := by
  have hstroke : ∃ result, hand.act (read hand.path) crew.shop = some result := by
    cases hand with
    | free =>
        rw [Hand.act, LoadQueue.take?]
        rcases hqueue : crew.shop.hub.queue.tasks with _ | ⟨task, tasks⟩
        · exact absurd hqueue htasks
        · cases task <;> exact ⟨_, rfl⟩
    | holding key ticket => exact ⟨_, rfl⟩
    | published key ticket => exact ⟨_, rfl⟩
    | marked key ticket => exact ⟨_, rfl⟩
    | ended => exact absurd rfl hlive
  obtain ⟨result, hresult⟩ := hstroke
  exact ⟨_, act_eq_some_iff.2 (.worker hhand hresult)⟩

/-- **A shutdown returns**, whatever was done of it so far. -/
theorem Closing.returns (h : crew.Closing) : crew.Returns where
  onward hdown := by
    rcases hclosing : crew.closing with _ | stops
    · rw [h.isShutDown_iff.2 hclosing] at hdown
      cases hdown
    · rcases stops with _ | stops
      · by_cases hjoined : crew.joined = crew.hands.length
        · exact ⟨.leave, _, rfl, act_eq_some_iff.2 (.leave hclosing hjoined)⟩
        · have hlt : crew.joined < crew.hands.length := Nat.lt_of_le_of_ne h.joined_le hjoined
          have hhand := List.getElem?_eq_getElem hlt
          by_cases hended : crew.hands[crew.joined] = .ended
          · rw [hended] at hhand
            exact ⟨.join, _, rfl, act_eq_some_iff.2 (.join hclosing hhand)⟩
          · -- The worker that is waited for has not ended, so there is a stop on the queue.
            have hstops := h.stops
            have hlive : 0 < crew.hands.countP fun hand => hand ≠ .ended :=
              List.countP_pos_iff.2 ⟨_, List.getElem_mem hlt, by simpa using hended⟩
            have htasks : crew.shop.hub.queue.tasks ≠ [] := by
              intro hnil
              rw [hnil, hclosing, List.count_nil, Option.getD_some] at hstops
              omega
            obtain ⟨next, hnext⟩ :=
              exists_act_worker hhand hended htasks fun _ => .failed .notFound
            exact ⟨_, next, rfl, hnext⟩
      · exact ⟨.stop, _, rfl, act_eq_some_iff.2 (.stop hclosing)⟩
  bounded more := by
    clear h
    induction more generalizing crew with
    | nil => exact fun _ _ _ => Nat.zero_le _
    | cons action more ih =>
        intro last hway hrun
        obtain ⟨next, hact, hrest⟩ := run_cons hrun
        have hone := remaining_act hact (hway action List.mem_cons_self)
        have hmore := ih last (fun other hother => hway other (List.mem_cons_of_mem _ hother)) hrest
        rw [List.length_cons]
        omega

/-! ### Tickets -/

/-- The ticket of a load was issued, and it is complete or the load is on its way. -/
def Minds (crew : Crew) (key : String) (ticket : Ticket) : Prop :=
  ticket.number < crew.shop.hub.queue.tickets.size ∧
    (crew.shop.hub.queue.Open crew.hands key ticket ∨
      crew.shop.hub.queue.isComplete ticket = true)

/-- An action leaves a load cared for. -/
theorem Minds.act (h : crew.Minds key ticket) (hact : crew.act action = some next) :
    next.Minds key ticket := by
  obtain ⟨hissued, hload⟩ := h
  cases act_eq_some_iff.1 hact with
  | worker hhand hstroke =>
      have hmove := Hand.stroke_act hstroke
      refine ⟨?_, ?_⟩
      · rw [show _ = _ from hmove.size_tickets]
        exact hissued
      · rcases hload with hopen | hcomplete
        · exact hmove.of_open hhand hopen hissued
        · exact Or.inr (hmove.isComplete hcomplete)
  | request asked =>
      refine ⟨?_, ?_⟩
      · show _ < (crew.shop.hub.queue.request asked).tickets.size
        rw [LoadQueue.request, Array.size_push]
        omega
      · rcases hload with hopen | hcomplete
        · exact Or.inl (hopen.request asked)
        · refine Or.inr ?_
          show (crew.shop.hub.queue.request asked).isComplete ticket = true
          rwa [LoadQueue.isComplete_request]
  | shutDown => exact ⟨hissued, hload⟩
  | stop =>
      refine ⟨hissued, hload.imp_left fun hopen => ?_⟩
      exact hopen.imp_left fun hqueued => List.mem_append_left _ hqueued
  | join => exact ⟨hissued, hload⟩
  | leave => exact ⟨hissued, hload⟩

/-- A run leaves a load cared for. -/
theorem Minds.run (h : crew.Minds key ticket) (hrun : crew.run actions = some last) :
    last.Minds key ticket := by
  induction actions generalizing crew with
  | nil =>
      cases hrun
      exact h
  | cons action rest ih =>
      obtain ⟨next, hact, hrest⟩ := run_cons hrun
      exact ih (h.act hact) hrest

/-- A load that is asked for in a run is not forgotten. -/
theorem minds_of_mem_puts (hrun : crew.run actions = some last)
    (hput : .load key ticket ∈ crew.puts actions) : last.Minds key ticket := by
  induction actions generalizing crew with
  | nil => exact absurd hput List.not_mem_nil
  | cons action rest ih =>
      obtain ⟨next, hact, hrest⟩ := run_cons hrun
      rw [puts, along_cons put? hact] at hput
      rcases List.mem_append.1 hput with hfirst | hmore
      · rw [Option.mem_toList] at hfirst
        cases action with
        | request asked =>
            cases hfirst
            cases hact
            refine Minds.run ⟨?_, Or.inl (LoadQueue.open_request _ _ _)⟩ hrest
            show _ < (crew.shop.hub.queue.request key).tickets.size
            rw [LoadQueue.request, Array.size_push]
            exact Nat.lt_succ_self _
        | worker => cases hfirst
        | shutDown => cases hfirst
        | stop => cases hfirst
        | join => cases hfirst
        | leave => cases hfirst
      · exact ih hrest hmore

/-- Once all workers have ended and nothing waits, a ticket that was issued is complete. -/
theorem Minds.isComplete (h : crew.Minds key ticket) (htasks : crew.shop.hub.queue.tasks = [])
    (hended : ∀ hand ∈ crew.hands, hand = .ended) :
    crew.shop.hub.queue.isComplete ticket = true := by
  rcases h.2 with (hqueued | ⟨hand, hhand, hholds⟩) | hcomplete
  · rw [htasks] at hqueued
    exact absurd hqueued List.not_mem_nil
  · rw [hended hand hhand] at hholds
    rcases hholds with heq | heq <;> cases heq
  · exact hcomplete

/-! ### What is done -/

/-- What one worker publishes in a run. -/
def loadsOf (crew : Crew) (actions : List Action) (number : Nat) : List Publication :=
  (crew.deedsOf actions number).filterMap Deed.publication?

/-- What has come of a pool that was shut down. The workers began on the queue of `shop`, all actions
so far are `actions`, and `asked` are the loads that were asked for before the shutdown, in this
order. -/
structure Completed (pool : Pool) (shop : Workshop) (actions : List Action) (asked : List Task)
    (crew : Crew) : Prop where
  /-- Only loads were asked for. -/
  loads : .stop ∉ asked
  /-- The loads were taken in the order in which they were asked for, and then the stops. -/
  taken : (ofPool pool shop).select Deed.task? actions
    = asked ++ List.replicate pool.workers .stop
  /-- Each worker has taken, published, marked and signalled its loads, one after the other, and
  has taken one stop. -/
  course : ∀ number < pool.workers, (ofPool pool shop).deedsOf actions number
    = ((ofPool pool shop).loadsOf actions number).flatMap Publication.deeds ++ [.take .stop]
  /-- Each load was done by one worker, and once. -/
  shared : ((List.range pool.workers).flatMap fun number =>
    ((ofPool pool shop).loadsOf actions number).map Publication.task).Perm asked
  /-- What was published under a key is what the worker found in the file of this name. -/
  content : ∀ number, ∀ publication ∈ (ofPool pool shop).loadsOf actions number,
    ∃ read, .worker number read ∈ actions ∧
      publication.content = read (Text.encode publication.key)
  /-- For each load that was asked for, one content was published under its key. -/
  published : (((ofPool pool shop).select Deed.publication? actions).map Publication.task).Perm
    asked
  /-- What was published was put into the cache, and nothing else was. -/
  cache : crew.shop.hub.cache
    = ((ofPool pool shop).select Deed.publication? actions).foldl Cache.keep shop.hub.cache
  /-- The ticket of each load is complete. -/
  tickets : ∀ key ticket, .load key ticket ∈ asked →
    crew.shop.hub.queue.isComplete ticket = true
  /-- There was one signal for each load. -/
  signals : crew.shop.notifier = Notifier.signal^[asked.length] shop.notifier
  /-- They are counted, as far as the notifier counts. -/
  counted : crew.shop.notifier.count
    = max shop.notifier.count (min (shop.notifier.count + asked.length) Notifier.limit)
  /-- Nothing waits. -/
  empty : crew.shop.hub.queue.tasks = []
  /-- As long as nobody asks for more nothing changes, though the pool be shut down again. -/
  again : ∀ more last, (∀ key, .request key ∉ more) → crew.run more = some last →
    last.shop = crew.shop

/-- Where every worker has ended and nobody asks for anything, nothing happens to what is shared. -/
theorem Closing.shop_run (h : crew.Closing) (hended : ∀ hand ∈ crew.hands, hand = .ended)
    (hquiet : ∀ key, .request key ∉ actions) (hrun : crew.run actions = some last) :
    last.shop = crew.shop := by
  induction actions generalizing crew with
  | nil =>
      cases hrun
      rfl
  | cons action rest ih =>
      obtain ⟨next, hact, hrest⟩ := run_cons hrun
      have hstep : next.hands = crew.hands ∧ next.shop = crew.shop := by
        cases act_eq_some_iff.1 hact with
        | worker hhand hstroke =>
            obtain ⟨deed, -, hdoes⟩ := Hand.does_act hstroke
            exact absurd (hended _ (List.mem_of_getElem? hhand)) hdoes.live
        | request key => exact absurd List.mem_cons_self (hquiet key)
        | shutDown => exact ⟨rfl, rfl⟩
        | stop hclosing =>
            have hnone := (h.count_stop hended).2
            rw [hclosing] at hnone
            cases hnone
        | join => exact ⟨rfl, rfl⟩
        | leave => exact ⟨rfl, rfl⟩
      rw [← hstep.2]
      refine ih (h.act hact) ?_ (fun key hmem => hquiet key (List.mem_cons_of_mem _ hmem)) hrest
      rwa [hstep.1]

/-- Stops behind other tasks: where no stop is left, nothing is. -/
theorem eq_nil_of_stop_notMem {asked taken rest : List Task} {count : Nat} (hcount : 0 < count)
    (h : asked ++ List.replicate count .stop = taken ++ rest) (hrest : .stop ∉ rest) :
    rest = [] := by
  by_contra hne
  have hlast := congrArg List.getLast? h
  obtain ⟨count, rfl⟩ := Nat.exists_eq_succ_of_ne_zero (Nat.ne_of_gt hcount)
  rw [List.replicate_succ', ← List.append_assoc, List.getLast?_concat,
    List.getLast?_append_of_ne_nil _ hne, List.getLast?_eq_some_getLast hne] at hlast
  exact hrest (Option.some.inj hlast ▸ List.getLast_mem hne)

/-- What whole loads and a stop have of one kind. -/
theorem filterMap_deeds {α : Type} (kind : Deed → Option α) (each : Publication → α)
    (h : ∀ publication, publication.deeds.filterMap kind = [each publication])
    (loads : List Publication) :
    (loads.flatMap Publication.deeds ++ [Deed.take .stop]).filterMap kind
      = loads.map each ++ (kind (.take .stop)).toList := by
  have hloads : (loads.flatMap fun publication => publication.deeds.filterMap kind)
      = loads.map each := by
    rw [List.map_eq_flatMap]
    exact List.flatMap_congr fun publication _ => h publication
  rw [List.filterMap_append, List.filterMap_flatMap, hloads, List.filterMap_cons]
  cases kind (Deed.take .stop) <;> rfl

section

variable (hrun : (ofPool pool shop).run actions = some crew)
  (hended : ∀ hand ∈ crew.hands, hand = .ended)

include hrun hended

/-- What a worker has done when it has ended. -/
theorem deedsOf_of_ended (hnumber : number < pool.workers) :
    (ofPool pool shop).deedsOf actions number
      = ((ofPool pool shop).loadsOf actions number).flatMap Publication.deeds
        ++ [.take .stop] := by
  have hfree : (ofPool pool shop).hands[number]? = some .free := by
    rw [ofPool, List.getElem?_replicate, if_pos hnumber]
  obtain ⟨after, loads, new, hafter, hdeeds⟩ := course_run hrun hfree (.failed .notFound)
  rw [hended after (List.mem_of_getElem? hafter)] at hdeeds
  have hdone : (ofPool pool shop).deedsOf actions number
      = loads.flatMap Publication.deeds ++ [.take .stop] := hdeeds
  have hloads : (ofPool pool shop).loadsOf actions number = loads := by
    rw [loadsOf, hdone, filterMap_deeds Deed.publication? id fun _ => rfl, List.map_id]
    exact List.append_nil loads
  rw [hloads, hdone]

/-- What was done of one kind is what the workers have of it, load by load. -/
theorem flatMap_loadsOf_perm {α : Type} (kind : Deed → Option α) (each : Publication → α)
    (h : ∀ publication, publication.deeds.filterMap kind = [each publication]) :
    ((List.range pool.workers).flatMap fun number =>
      ((ofPool pool shop).loadsOf actions number).map each ++ (kind (.take .stop)).toList).Perm
      ((ofPool pool shop).select kind actions) := by
  have hperm := flatMap_deedsOf_perm kind hrun
  rw [show (ofPool pool shop).hands.length = pool.workers from List.length_replicate] at hperm
  refine List.Perm.trans (List.Perm.of_eq ?_) hperm
  refine List.flatMap_congr fun number hnumber => ?_
  rw [deedsOf_of_ended hrun hended (List.mem_range.1 hnumber), filterMap_deeds kind each h]

/-- Each load that was taken was done by one worker. -/
theorem shared_of_taken {asked : List Task}
    (htaken : (ofPool pool shop).select Deed.task? actions
      = asked ++ List.replicate pool.workers .stop) :
    ((List.range pool.workers).flatMap fun number =>
      ((ofPool pool shop).loadsOf actions number).map Publication.task).Perm asked := by
  have hperm := flatMap_loadsOf_perm hrun hended Deed.task? Publication.task fun _ => rfl
  have hstops : ((List.range pool.workers).flatMap fun _ => [Task.stop])
      = List.replicate pool.workers .stop := by
    rw [← List.map_eq_flatMap, List.map_const', List.length_range]
  rw [htaken, ← hstops] at hperm
  exact (List.perm_append_right_iff _).1 ((List.flatMap_append_perm _ _ _).trans hperm)

/-- What was published was published for the loads that were taken. -/
theorem published_of_shared {asked : List Task}
    (hshared : ((List.range pool.workers).flatMap fun number =>
      ((ofPool pool shop).loadsOf actions number).map Publication.task).Perm asked) :
    (((ofPool pool shop).select Deed.publication? actions).map Publication.task).Perm asked := by
  have hperm := flatMap_loadsOf_perm hrun hended Deed.publication? id fun _ => rfl
  refine ((hperm.map Publication.task).symm.trans (.of_eq ?_)).trans hshared
  rw [List.map_flatMap]
  refine List.flatMap_congr fun number _ => ?_
  rw [List.map_id]
  exact congrArg (List.map Publication.task) (List.append_nil _)

/-- There was one signal for each load that a worker has done. -/
theorem length_signalled :
    ((ofPool pool shop).select Deed.signalled? actions).length
      = ((List.range pool.workers).flatMap fun number =>
        ((ofPool pool shop).loadsOf actions number).map Publication.task).length := by
  have hperm := flatMap_loadsOf_perm hrun hended Deed.signalled? Publication.task fun _ => rfl
  rw [← hperm.length_eq]
  congr 1
  exact List.flatMap_congr fun _ _ => List.append_nil _

end

/-- What a worker has published is what the file of this name held when it read it. -/
theorem content_of_mem_loadsOf {publication : Publication}
    (hrun : crew.run actions = some last) (hmem : publication ∈ crew.loadsOf actions number) :
    ∃ read, .worker number read ∈ actions ∧
      publication.content = read (Text.encode publication.key) := by
  obtain ⟨deed, hdeed, heq⟩ := List.mem_filterMap.1 hmem
  obtain ⟨⟨acting, same⟩, hacting, rfl⟩ := List.mem_map.1 hdeed
  obtain ⟨hdeeds, hsame⟩ := List.mem_filter.1 hacting
  rw [decide_eq_true_eq] at hsame
  subst hsame
  cases same with
  | publish found =>
      cases heq
      exact content_of_mem_deeds hrun hdeeds
  | take => cases heq
  | mark => cases heq
  | signal => cases heq

/-- A shutdown puts one stop for each worker. -/
theorem puts_of_shutDown {before opened : Crew} (hbefore : crew.run early = some before)
    (hrunning : before.Running) (hopened : before.act .shutDown = some opened)
    (hclose : opened.run late = some last) (hlate : ∀ key, .request key ∉ late)
    (hdown : last.isShutDown = true) :
    crew.puts (early ++ .shutDown :: late)
      = crew.puts early ++ List.replicate crew.hands.length .stop := by
  have hopen := hrunning.closing_act hopened
  have hnone := (hopen.run hclose).isShutDown_iff.1 hdown
  obtain ⟨count, hcount, hsum⟩ := hopen.puts_run hclose hlate
  cases act_eq_some_iff.1 hopened with
  | shutDown =>
      have hsame : count = crew.hands.length := by
        rw [hnone, hrunning.joined, length_run hbefore] at hsum
        exact hsum
      rw [puts, along_append put? hbefore, along_cons put? hopened]
      exact congrArg _ (hcount.trans (by rw [hsame]))

/-- **Everything that was asked for before the shutdown is done once.** Some loads wait when the
workers begin, others are asked for while they work, until somebody shuts the pool down; nobody asks
for more then. Whoever acts when, the shutdown returns, and when it has, each of these loads was
taken by one worker, its content put into the cache under its key, its ticket marked and one signal
given; every worker has taken one stop, and the queue is empty. To shut the pool down again changes
nothing. -/
theorem completed_of_shutDown (hworkers : 0 < pool.workers)
    (hstop : .stop ∉ shop.hub.queue.tasks)
    (hissued : ∀ key ticket, .load key ticket ∈ shop.hub.queue.tasks →
      ticket.number < shop.hub.queue.tickets.size)
    (hearly : .shutDown ∉ early) (hlate : ∀ key, .request key ∉ late)
    (hrun : (ofPool pool shop).run (early ++ .shutDown :: late) = some crew) :
    crew.Returns ∧ (crew.isShutDown = true →
      Completed pool shop (early ++ .shutDown :: late)
        (shop.hub.queue.tasks ++ (ofPool pool shop).puts early) crew) := by
  have hcut := hrun
  rw [run_append] at hcut
  obtain ⟨before, hbefore, hrest⟩ := Option.bind_eq_some_iff.1 hcut
  obtain ⟨opened, hopened, hclose⟩ := run_cons hrest
  obtain ⟨hrunning, hasked⟩ := (running_ofPool pool hstop).run hbefore hearly
  have hclosing := (hrunning.closing_act hopened).run hclose
  refine ⟨hclosing.returns, fun hdown => ?_⟩
  have hended := hclosing.ended hdown
  have hputs := puts_of_shutDown hbefore hrunning hopened hclose hlate hdown
  rw [show (ofPool pool shop).hands.length = pool.workers from List.length_replicate] at hputs
  -- What was put is what was taken: no stop is left, and the stops were put last.
  have htasks := tasks_run hrun
  rw [hputs, ← List.append_assoc] at htasks
  have hempty : crew.shop.hub.queue.tasks = [] :=
    eq_nil_of_stop_notMem hworkers htasks (List.count_eq_zero.1 (hclosing.count_stop hended).1)
  rw [hempty, List.append_nil] at htasks
  have hshared := shared_of_taken hrun hended htasks.symm
  have hsignals : crew.shop.notifier = Notifier.signal^[(shop.hub.queue.tasks
      ++ (ofPool pool shop).puts early).length] shop.notifier := by
    rw [notifier_run hrun, length_signalled hrun hended, hshared.length_eq]
    rfl
  refine {
    loads := fun hmem => (List.mem_append.1 hmem).elim hstop hasked
    taken := htasks.symm
    course := fun number hnumber => deedsOf_of_ended hrun hended hnumber
    shared := hshared
    content := fun number publication hmem => content_of_mem_loadsOf hrun hmem
    published := published_of_shared hrun hended hshared
    cache := cache_run hrun
    tickets := fun key ticket hload => ?_
    signals := hsignals
    counted := by rw [hsignals, Notifier.count_iterate_signal]
    empty := hempty
    again := fun more last hquiet hmore => hclosing.shop_run hended hquiet hmore }
  have hminds : crew.Minds key ticket := by
    rcases List.mem_append.1 hload with hwaiting | hput
    · exact Minds.run ⟨hissued key ticket hwaiting, Or.inl (Or.inl hwaiting)⟩ hrun
    · refine minds_of_mem_puts hrun ?_
      rw [hputs]
      exact List.mem_append_left _ hput
  exact hminds.isComplete hempty hended

/-- Two workers, one load that waits and one that is asked for while the first is done. The second
worker has its load in hand when the first one takes its stop. The pool is shut down twice. Both
contents are in the cache then, and both signals are counted. -/
theorem completed_of_shutDown_overtaken :
    ∃ late crew, (ofPool ⟨2⟩ ⟨((Hub.empty 8).request "a").2, .quiet⟩).run
        ([.worker 1 .file, .request "b"] ++ .shutDown :: late) = some crew ∧
      crew.Returns ∧ crew.isShutDown = true ∧ crew.shop.notifier.count = 2 ∧
      crew.shop.hub.cache.keys = ["a", "b"] ∧
      Completed ⟨2⟩ ⟨((Hub.empty 8).request "a").2, .quiet⟩
        ([.worker 1 .file, .request "b"] ++ .shutDown :: late)
        [.load "a" ⟨0⟩, .load "b" ⟨1⟩] crew := by
  have hrun : ((ofPool ⟨2⟩ ⟨((Hub.empty 8).request "a").2, .quiet⟩).run
      ([.worker 1 .file, .request "b"] ++ .shutDown :: [.stop, .worker 0 .file, .worker 0 .file,
        .worker 1 .file, .stop, .worker 0 .file, .worker 0 .file, .worker 0 .file, .join,
        .worker 1 .file, .worker 1 .file, .worker 1 .file, .join, .leave, .shutDown, .leave])).map
      (fun crew => (crew.isShutDown, crew.shop.hub.cache.keys))
        = some (true, ["a", "b"]) := by decide +kernel
  obtain ⟨crew, hcrew, heq⟩ := Option.map_eq_some_iff.1 hrun
  obtain ⟨hdown, hkeys⟩ := Prod.mk.inj heq
  have h := completed_of_shutDown (by decide) (by decide)
    (fun key ticket hload => by
      obtain ⟨-, rfl⟩ := Task.load.inj (List.mem_singleton.1 hload)
      decide)
    (by simp) (by simp) hcrew
  exact ⟨_, crew, hcrew, h.1, hdown, (h.2 hdown).counted, hkeys, h.2 hdown⟩

end Crew

end FileServer
