import FileServer.Disk.Worker
import FileServer.Proofs.Cache.Loading

/-!
# A worker that does all loads

Where nothing but loads is queued, one worker does them all, in the order of the queue: it puts the
content of each key into the cache and marks the ticket. `Loaded` says what is shared afterwards:
nothing is queued, all these tickets are complete and those that were complete before, and the cache
is what storing the contents one after the other makes of it.
-/

namespace FileServer.Workshop

variable {read : Path → Content} {shop next : Workshop} {loads rest : List (String × Ticket)}

/-- The content that a worker puts into the cache under a key. -/
def contentOf (read : Path → Content) (key : String) : Content := read (Text.encode key)

/-- The task of a load. -/
def taskOf (load : String × Ticket) : Task := .load load.1 load.2

/-- What is left when a list of loads is done. -/
structure Loaded (read : Path → Content) (loads : List (String × Ticket)) (shop next : Workshop) :
    Prop where
  /-- No ticket is issued. -/
  size_tickets : next.hub.queue.tickets.size = shop.hub.queue.tickets.size
  /-- Tickets that were complete stay so. -/
  kept : ∀ ticket, shop.hub.queue.isComplete ticket = true →
    next.hub.queue.isComplete ticket = true
  /-- The tickets of the loads are complete. -/
  complete : ∀ load ∈ loads, load.2.number < shop.hub.queue.tickets.size →
    next.hub.queue.isComplete load.2 = true
  /-- The same budget. -/
  budget : next.hub.cache.budget = shop.hub.cache.budget
  /-- The contents are stored in the order of the loads. -/
  cache : ∀ cells, shop.hub.cache.Represents cells → ∃ stored, next.hub.cache.Represents stored ∧
    stored.map Prod.snd = (Recency.stockAll shop.hub.cache.budget (contentOf read)
      (cells.map Prod.snd) (loads.map Prod.fst))

/-- Without loads nothing is done. -/
theorem loaded_nil (shop : Workshop) : Loaded read [] shop shop where
  size_tickets := rfl
  kept _ := id
  complete _ hload := absurd hload List.not_mem_nil
  budget := rfl
  cache cells hcells := ⟨cells, hcells, rfl⟩

/-- One load more, in front of others. -/
theorem Loaded.cons {tasks : List Task} (load : String × Ticket)
    (h : Loaded read rest
      (Workshop.load read load.1 load.2 { shop with hub.queue.tasks := tasks }) next) :
    Loaded read (load :: rest) shop next := by
  obtain ⟨key, ticket⟩ := load
  have hsize : (shop.hub.queue.complete ticket).tickets.size = shop.hub.queue.tickets.size :=
    Array.size_setIfInBounds
  have hmarked : ∀ marked, (shop.hub.queue.complete ticket).isComplete marked = true →
      next.hub.queue.isComplete marked = true := fun marked => h.kept marked
  refine ⟨h.size_tickets.trans hsize, ?_, ?_, ?_, ?_⟩
  · intro other hother
    apply hmarked
    rw [LoadQueue.isComplete_complete]
    split
    · rfl
    · exact hother
  · intro other hother hissued
    rcases List.mem_cons.1 hother with rfl | hlater
    · apply hmarked
      rw [LoadQueue.isComplete_complete, if_pos ⟨rfl, hissued⟩]
    · exact h.complete other hlater (hsize.symm ▸ hissued)
  · exact h.budget.trans (Cache.budget_put shop.hub.cache key _)
  · intro cells hcells
    obtain ⟨kept, hkept, heq⟩ := hcells.put key (contentOf read key)
    obtain ⟨stored, hstored, hall⟩ := h.cache kept hkept
    refine ⟨stored, hstored, hall.trans ?_⟩
    rw [heq]
    exact congrArg (fun budget => Recency.stockAll budget (contentOf read) _ (rest.map Prod.fst))
      (Cache.budget_put shop.hub.cache key _)

/-- A worker does one load after the other. -/
theorem loaded_runFor (htasks : shop.hub.queue.tasks = loads.map taskOf) :
    Loaded read loads shop (shop.runFor read loads.length) ∧
      (shop.runFor read loads.length).hub.queue.tasks = [] := by
  induction loads generalizing shop with
  | nil => exact ⟨loaded_nil shop, htasks⟩
  | cons load rest ih =>
      have hwork : shop.work read = (.loaded, Workshop.load read load.1 load.2
          { shop with hub.queue.tasks := rest.map taskOf }) := by
        rw [work, LoadQueue.take?, htasks]
        rfl
      rw [List.length_cons, runFor, hwork]
      obtain ⟨hloaded, hnone⟩ := @ih (Workshop.load read load.1 load.2
        { shop with hub.queue.tasks := rest.map taskOf }) rfl
      exact ⟨hloaded.cons load, hnone⟩

/-- **All loads are done** by one worker, if nothing else is queued. -/
theorem loaded_run (htasks : shop.hub.queue.tasks = loads.map taskOf) :
    Loaded read loads shop (shop.run read) ∧ (shop.run read).hub.queue.tasks = [] := by
  have hlength : shop.hub.queue.length = loads.length := by
    rw [LoadQueue.length, htasks, List.length_map]
  rw [run, hlength]
  exact loaded_runFor htasks

end FileServer.Workshop
