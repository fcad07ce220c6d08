import FileServer.Proofs.Disk.Deeds

/-!
# One worker after the other

`Pool.shutdown` lets the workers take tasks one worker after the other. This is one of the courses
that a crew can take when it is shut down (`leads_shutdown`): all stops are put, the first worker
does every load and takes the first stop, each of the others takes one stop, and then all are waited
for.
-/

namespace FileServer

namespace Crew

variable {crew next last : Crew} {action : Action} {number : Nat} {read : Path → Content}
  {shop after : Workshop} {hand : Hand}

/-- The crew with one worker where it is now, and what is shared as it is now. -/
def place (crew : Crew) (number : Nat) (hand : Hand) (shop : Workshop) : Crew :=
  { crew with shop, hands := crew.hands.set number hand }

/-- Without anything being asked for, one state comes of the other. The files hold what `read` says
all the time. -/
def Leads (read : Path → Content) (crew last : Crew) : Prop :=
  ∃ actions, (∀ key, .request key ∉ actions) ∧
    (∀ number other, .worker number other ∈ actions → other = read) ∧
    crew.run actions = some last

namespace Leads

/-- No actions lead from a crew to itself. -/
theorem refl (read : Path → Content) (crew : Crew) : Leads read crew crew :=
  ⟨[], fun _ => List.not_mem_nil, fun _ _ => nofun, rfl⟩

/-- Actions may follow others. -/
theorem trans (h : Leads read crew next) (hlast : Leads read next last) : Leads read crew last := by
  obtain ⟨actions, hquiet, hread, hrun⟩ := h
  obtain ⟨more, hmore, hagain, hrest⟩ := hlast
  refine ⟨actions ++ more, fun key hmem => ?_, fun number other hmem => ?_, ?_⟩
  · exact (List.mem_append.1 hmem).elim (hquiet key) (hmore key)
  · exact (List.mem_append.1 hmem).elim (hread number other) (hagain number other)
  · rw [run_append, hrun]
    exact hrest

/-- Somebody acts who is not a worker. -/
theorem aside (hact : crew.act action = some next) (hquiet : ∀ key, .request key ≠ action)
    (hidle : ∀ number other, .worker number other ≠ action) : Leads read crew next := by
  refine ⟨[action], fun key hmem => ?_, fun number other hmem => ?_, by rw [run, hact]; rfl⟩
  · exact hquiet key (List.mem_singleton.1 hmem)
  · exact absurd (List.mem_singleton.1 hmem) (hidle number other)

/-- A worker makes a stroke. -/
theorem stroke {made : Hand} (hnumber : number < crew.hands.length)
    (hact : hand.act (read hand.path) shop = some (made, after)) :
    Leads read (crew.place number hand shop) (crew.place number made after) := by
  have hhand : (crew.place number hand shop).hands[number]? = some hand :=
    List.getElem?_set_self hnumber
  have hmove := act_eq_some_iff.2 (Move.worker hhand hact)
  rw [place, List.set_set] at hmove
  refine ⟨[.worker number read], fun key hmem => ?_, fun _ _ hmem => ?_, ?_⟩
  · cases List.mem_singleton.1 hmem
  · cases List.mem_singleton.1 hmem
    rfl
  · rw [run, place, hmove]
    rfl

end Leads

/-- All stops are put. -/
theorem leads_putStops (read : Path → Content) (crew : Crew) (count : Nat) :
    Leads read { crew with closing := some count }
      { crew with shop := crew.shop.putStops count, closing := some 0 } := by
  induction count generalizing crew with
  | zero => exact Leads.refl _ _
  | succ count ih =>
      have hstop := act_eq_some_iff.2 (@Move.stop { crew with closing := some (count + 1) } _ rfl)
      exact Leads.trans (.aside hstop nofun nofun) (ih { crew with shop := crew.shop.put .stop })

/-- A worker does a load. -/
theorem leads_load (hnumber : number < crew.hands.length)
    (hwork : shop.work read = (.loaded, after)) :
    Leads read (crew.place number .free shop) (crew.place number .free after) := by
  obtain ⟨key, ticket, first, second, third, htake, hpublish, hmark, hsignal⟩ :=
    Hand.act_act_act_act read hwork
  have hfirst : Leads read (crew.place number .free shop)
      (crew.place number (.holding key ticket) first) := .stroke hnumber htake
  have hsecond : Leads read (crew.place number (.holding key ticket) first)
      (crew.place number (.published key ticket) second) := .stroke hnumber hpublish
  have hthird : Leads read (crew.place number (.published key ticket) second)
      (crew.place number (.marked key ticket) third) := .stroke hnumber hmark
  have hfourth : Leads read (crew.place number (.marked key ticket) third)
      (crew.place number .free after) := .stroke hnumber hsignal
  exact ((hfirst.trans hsecond).trans hthird).trans hfourth

/-- A worker takes tasks until it takes a stop, if there is one. One stop less is there then. -/
theorem leads_runFor (hnumber : number < crew.hands.length) {count : Nat}
    (hstop : .stop ∈ shop.hub.queue.tasks) (hcount : shop.hub.queue.tasks.length ≤ count) :
    Leads read (crew.place number .free shop) (crew.place number .ended (shop.runFor read count)) ∧
      (shop.runFor read count).hub.queue.tasks.count .stop + 1
        = shop.hub.queue.tasks.count .stop := by
  induction count generalizing shop with
  | zero =>
      rw [List.eq_nil_of_length_eq_zero (Nat.le_zero.1 hcount)] at hstop
      exact absurd hstop List.not_mem_nil
  | succ count ih =>
      rcases htasks : shop.hub.queue.tasks with _ | ⟨task, tasks⟩
      · rw [htasks] at hstop
        exact absurd hstop List.not_mem_nil
      · rw [htasks] at hstop hcount
        cases task with
        | stop =>
            have hwork : shop.work read
                = (.stopped, { shop with hub.queue := { shop.hub.queue with tasks } }) := by
              rw [Workshop.work, LoadQueue.take?, htasks]
            rw [Workshop.runFor, hwork]
            refine ⟨.stroke hnumber ?_, (List.count_cons_self).symm⟩
            rw [Hand.act, LoadQueue.take?, htasks]
        | load key ticket =>
            obtain ⟨loaded, hwork, hloaded⟩ : ∃ loaded, shop.work read = (.loaded, loaded) ∧
                loaded.hub.queue.tasks = tasks := by
              rw [Workshop.work, LoadQueue.take?, htasks]
              exact ⟨_, rfl, rfl⟩
            have hmore : .stop ∈ loaded.hub.queue.tasks := by
              rw [hloaded]
              exact (List.mem_cons.1 hstop).resolve_left Task.noConfusion
            have hlength : loaded.hub.queue.tasks.length ≤ count := by
              rw [hloaded]
              exact Nat.le_of_succ_le_succ hcount
            obtain ⟨hleads, hstops⟩ := ih hmore hlength
            rw [hloaded] at hstops
            have hne : Task.load key ticket ≠ .stop := Task.noConfusion
            rw [Workshop.runFor, hwork, List.count_cons_of_ne hne]
            exact ⟨(leads_load hnumber hwork).trans hleads, hstops⟩

/-- Some workers have ended, and those behind them are free. -/
def line (ended free : Nat) : List Hand := List.replicate ended .ended ++ List.replicate free .free

/-- Every worker stands in the line. -/
theorem length_line (ended free : Nat) : (line ended free).length = ended + free := by
  rw [line, List.length_append, List.length_replicate, List.length_replicate]

/-- The first of those who are free is replaced. -/
theorem line_set (ended free : Nat) (hand : Hand) :
    (line ended (free + 1)).set ended hand
      = List.replicate ended .ended ++ hand :: List.replicate free .free := by
  rw [line, List.set_append_right _ _ (by simp), List.length_replicate, Nat.sub_self]
  rfl

/-- Where there are stops enough, each of the workers ends, one after the other. -/
theorem leads_runEach (read : Path → Content) (crew : Crew) (ended workers : Nat) (shop : Workshop)
    (hstops : shop.hub.queue.tasks.count .stop = workers) :
    Leads read { crew with shop, hands := line ended workers }
      { crew with shop := shop.runEach read workers, hands := line (ended + workers) 0 } := by
  induction workers generalizing shop ended with
  | zero => exact Leads.refl _ _
  | succ workers ih =>
      have hstop : .stop ∈ shop.hub.queue.tasks := List.count_pos_iff.1 (by omega)
      have hnumber : ended < (line ended (workers + 1)).length := by
        rw [length_line]
        omega
      obtain ⟨hone, hless⟩ := @leads_runFor { crew with hands := line ended (workers + 1) }
        ended read shop hnumber _ hstop (Nat.le_refl _)
      have hnext : (line ended (workers + 1)).set ended .ended = line (ended + 1) workers := by
        rw [line_set, line, List.replicate_succ', List.append_assoc]
        rfl
      rw [place, place, hnext, line_set] at hone
      have hrest := ih (ended + 1) (shop.run read) (by rw [Workshop.run, LoadQueue.length]; omega)
      rw [Nat.add_assoc, Nat.add_comm 1] at hrest
      exact hone.trans hrest

/-- Where all workers have ended they are waited for, and the shutdown returns. -/
theorem leads_join (read : Path → Content) (crew : Crew) (left : Nat)
    (hleft : crew.joined + left = crew.hands.length)
    (hended : ∀ number < crew.hands.length, crew.hands[number]? = some .ended) :
    Leads read { crew with closing := some 0 }
      { crew with joined := crew.hands.length, closing := none } := by
  induction left generalizing crew with
  | zero =>
      have hleave := act_eq_some_iff.2
        (@Move.leave { crew with closing := some 0 } rfl hleft)
      rw [← hleft]
      exact .aside hleave nofun nofun
  | succ left ih =>
      have hlt : crew.joined < crew.hands.length := by omega
      have hjoin := act_eq_some_iff.2
        (@Move.join { crew with closing := some 0 } rfl (hended _ hlt))
      refine Leads.trans (.aside hjoin nofun nofun) ?_
      exact ih { crew with joined := crew.joined + 1 } (by simp only; omega) hended

/-- Stops are put behind the tasks that wait. -/
theorem tasks_putStops (count : Nat) (shop : Workshop) :
    (shop.putStops count).hub.queue.tasks
      = shop.hub.queue.tasks ++ List.replicate count .stop := by
  induction count generalizing shop with
  | zero => exact (List.append_nil _).symm
  | succ count ih =>
      rw [Workshop.putStops, ih, List.replicate_succ]
      exact List.append_assoc _ _ _

/-- **To let the workers take their tasks one worker after the other** is one of the courses of a
crew that is shut down. -/
theorem leads_shutdown (read : Path → Content) (pool : Pool) (hstop : .stop ∉ shop.hub.queue.tasks) :
    ∃ crew, Leads read (ofPool pool shop) crew ∧ crew.isShutDown = true ∧
      crew.shop = (pool.shutdown read shop).2 := by
  have hstops : (shop.putStops pool.workers).hub.queue.tasks.count .stop = pool.workers := by
    rw [tasks_putStops, List.count_append, List.count_eq_zero.2 hstop, Nat.zero_add]
    exact List.count_replicate_self
  have hbegin : Leads read (ofPool pool shop)
      { ofPool pool shop with closing := some (List.replicate pool.workers Hand.free).length } :=
    .aside (act_eq_some_iff.2 (.shutDown rfl)) nofun nofun
  rw [List.length_replicate] at hbegin
  have hput := leads_putStops read (ofPool pool shop) pool.workers
  have hworkers := leads_runEach read { ofPool pool shop with closing := some 0 } 0 pool.workers
    (shop.putStops pool.workers) hstops
  rw [Nat.zero_add] at hworkers
  have hlength : (line pool.workers 0).length = pool.workers := length_line _ _
  have hjoin := leads_join read ⟨(pool.shutdown read shop).2, line pool.workers 0, 0, none⟩
    pool.workers (by rw [Nat.zero_add, hlength]) fun number hnumber => by
      rw [hlength] at hnumber
      rw [line, List.replicate_zero, List.append_nil, List.getElem?_replicate, if_pos hnumber]
  refine ⟨_, hbegin.trans (hput.trans (.trans hworkers hjoin)), ?_, rfl⟩
  rw [isShutDown, decide_eq_true rfl, decide_eq_true rfl, Bool.and_self]

end Crew

end FileServer
