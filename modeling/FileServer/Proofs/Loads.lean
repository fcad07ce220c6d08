import FileServer.LoadQueue

/-!
# Tickets and the loads that carry them

A ticket is issued when a load is asked for. The load carries it through the queue and in the hands
of a worker, until the ticket is marked complete; whoever asked holds it. `Accounted` is the account
of this: `carried` are the loads in the queue and in hand, and `held` says which load somebody waits
for. No ticket is carried twice or held twice, what is carried is not complete, and what is held and
not complete is carried.

Asking for a load and marking its ticket are the two entries of the account (`Accounted.request`,
`Accounted.complete`). Taking a load off the queue only changes where it is (`Accounted.take`), and
whoever holds a ticket may forget it (`Accounted.release`). What the account comes to for one ticket
is said by `carried_once` and `carried_none`.
-/

namespace FileServer

/-- The load that a task asks for. -/
def Task.load? : Task → Option (String × Ticket)
  | .load key ticket => some (key, ticket)
  | .stop => none

namespace LoadQueue

/-- The loads that wait in a queue, the oldest first. -/
def loads (queue : LoadQueue) : List (String × Ticket) := queue.tasks.filterMap Task.load?

/-- A load that is asked for comes last. -/
theorem loads_request (queue : LoadQueue) (key : String) :
    (queue.request key).loads = queue.loads ++ [(key, queue.nextTicket)] := by
  simp [loads, request, Task.load?]

/-- The ticket that is issued next is not complete. -/
theorem isComplete_nextTicket (queue : LoadQueue) : queue.isComplete queue.nextTicket = false := by
  simp [isComplete, nextTicket]

/-- The account of tickets: which loads carry them, and who holds them. -/
structure Accounted (queue : LoadQueue) (carried : List (String × Ticket))
    (held : Nat → Option (String × Ticket)) : Prop where
  /-- No ticket is carried twice. -/
  carried_nodup : (carried.map Prod.snd).Nodup
  /-- A ticket that is carried was issued and is not complete. -/
  carried_open : ∀ load ∈ carried,
    load.2.number < queue.tickets.size ∧ queue.isComplete load.2 = false
  /-- A ticket that is held was issued, and is complete or carried. -/
  held_carried : ∀ who load, held who = some load → load.2.number < queue.tickets.size ∧
    (queue.isComplete load.2 = false → load ∈ carried)
  /-- No ticket is held twice. -/
  held_distinct : ∀ who other load rival, held who = some load → held other = some rival →
    load.2 = rival.2 → who = other

namespace Accounted

variable {queue next : LoadQueue} {carried others : List (String × Ticket)}
  {held after : Nat → Option (String × Ticket)} {who : Nat} {key : String} {ticket : Ticket}

/-- Where nobody has asked for a load, the account is right. -/
theorem empty : LoadQueue.empty.Accounted [] fun _ => none where
  carried_nodup := List.nodup_nil
  carried_open _ h := absurd h List.not_mem_nil
  held_carried _ _ h := nomatch h
  held_distinct _ _ _ _ h := nomatch h

/-- It does not matter where a load is. -/
theorem perm (h : queue.Accounted carried held) (hperm : carried.Perm others) :
    queue.Accounted others held where
  carried_nodup := (hperm.map Prod.snd).nodup_iff.1 h.carried_nodup
  carried_open load hload := h.carried_open load (hperm.mem_iff.2 hload)
  held_carried who load hheld := by
    obtain ⟨hissued, hcarried⟩ := h.held_carried who load hheld
    exact ⟨hissued, fun hopen => hperm.mem_iff.1 (hcarried hopen)⟩
  held_distinct := h.held_distinct

/-- Only the tickets of the queue matter. -/
theorem congr (h : queue.Accounted carried held) (htickets : next.tickets = queue.tickets) :
    next.Accounted carried held where
  carried_nodup := h.carried_nodup
  carried_open := by
    simp only [isComplete, htickets]
    exact h.carried_open
  held_carried := by
    simp only [isComplete, htickets]
    exact h.held_carried
  held_distinct := h.held_distinct

/-- **Taking a task** off the queue leaves its load with whoever has taken it. -/
theorem take {task : Task} (h : queue.Accounted (queue.loads ++ others) held)
    (htake : queue.take? = some (task, next)) :
    next.Accounted (next.loads ++ (task.load?.toList ++ others)) held := by
  rw [take?] at htake
  rcases htasks : queue.tasks with _ | ⟨first, tasks⟩
  · rw [htasks] at htake
    cases htake
  · rw [htasks] at htake
    obtain ⟨rfl, rfl⟩ := Prod.mk.inj (Option.some.inj htake)
    have hloads : queue.loads = first.load?.toList ++ tasks.filterMap Task.load? := by
      rw [loads, htasks, List.filterMap_cons]
      cases first.load? <;> rfl
    rw [hloads, List.append_assoc] at h
    exact (h.perm (List.perm_append_comm_assoc _ _ _)).congr rfl

/-- Somebody no longer waits. -/
theorem release (h : queue.Accounted carried held)
    (hless : ∀ who load, after who = some load → held who = some load) :
    queue.Accounted carried after where
  carried_nodup := h.carried_nodup
  carried_open := h.carried_open
  held_carried who load hheld := h.held_carried who load (hless who load hheld)
  held_distinct who other load rival hload hrival :=
    h.held_distinct who other load rival (hless who load hload) (hless other rival hrival)

/-- **Asking for a load** issues a ticket that nobody has. -/
theorem request (h : queue.Accounted carried held) (who : Nat) (key : String) :
    (queue.request key).Accounted ((key, queue.nextTicket) :: carried)
      fun other => if other = who then some (key, queue.nextTicket) else held other := by
  have hsize : (queue.request key).tickets.size = queue.tickets.size + 1 := Array.size_push _
  have hfresh : ∀ ticket : Ticket, ticket.number < queue.tickets.size →
      ticket ≠ queue.nextTicket := by
    rintro ticket hissued rfl
    exact absurd hissued (Nat.lt_irrefl _)
  have hnew : queue.nextTicket.number < (queue.request key).tickets.size := by
    rw [hsize]
    exact Nat.lt_succ_self _
  have hopen : (queue.request key).isComplete queue.nextTicket = false := by
    rw [isComplete_request, isComplete_nextTicket]
  constructor
  · rw [List.map_cons, List.nodup_cons]
    refine ⟨?_, h.carried_nodup⟩
    intro hmem
    obtain ⟨load, hload, heq⟩ := List.mem_map.1 hmem
    exact hfresh load.2 (h.carried_open load hload).1 heq
  · intro load hload
    rcases List.mem_cons.1 hload with rfl | hold
    · exact ⟨hnew, hopen⟩
    · obtain ⟨hissued, hincomplete⟩ := h.carried_open load hold
      rw [isComplete_request]
      exact ⟨by omega, hincomplete⟩
  · intro other load hheld
    by_cases heq : other = who
    · rw [if_pos heq] at hheld
      obtain rfl := Option.some.inj hheld
      exact ⟨hnew, fun _ => List.mem_cons_self⟩
    · rw [if_neg heq] at hheld
      obtain ⟨hissued, hcarried⟩ := h.held_carried other load hheld
      rw [isComplete_request]
      exact ⟨by omega, fun hincomplete => List.mem_cons_of_mem _ (hcarried hincomplete)⟩
  · intro first second load rival hload hrival hsame
    by_cases hone : first = who
    · by_cases htwo : second = who
      · rw [hone, htwo]
      · rw [if_pos hone] at hload
        rw [if_neg htwo] at hrival
        obtain rfl := Option.some.inj hload
        exact absurd hsame.symm (hfresh rival.2 (h.held_carried second rival hrival).1)
    · rw [if_neg hone] at hload
      by_cases htwo : second = who
      · rw [if_pos htwo] at hrival
        obtain rfl := Option.some.inj hrival
        exact absurd hsame (hfresh load.2 (h.held_carried first load hload).1)
      · rw [if_neg htwo] at hrival
        exact h.held_distinct first second load rival hload hrival hsame

/-- **Marking a ticket** ends its load. -/
theorem complete (h : queue.Accounted ((key, ticket) :: carried) held) :
    (queue.complete ticket).Accounted carried held := by
  obtain ⟨hnot, hnodup⟩ := List.nodup_cons.1 h.carried_nodup
  have hsize : (queue.complete ticket).tickets.size = queue.tickets.size :=
    Array.size_setIfInBounds
  -- The tickets of the other loads stay as they are.
  have hother : ∀ marked : Ticket, marked ≠ ticket →
      (queue.complete ticket).isComplete marked = queue.isComplete marked := by
    intro marked hne
    rw [isComplete_complete, if_neg fun hboth => hne hboth.1]
  have hmarked : (queue.complete ticket).isComplete ticket = true := by
    rw [isComplete_complete, if_pos ⟨rfl, (h.carried_open _ List.mem_cons_self).1⟩]
  constructor
  · exact hnodup
  · intro load hload
    have hne : load.2 ≠ ticket := by
      rintro rfl
      exact hnot (List.mem_map.2 ⟨load, hload, rfl⟩)
    rw [hsize, hother load.2 hne]
    exact h.carried_open load (List.mem_cons_of_mem _ hload)
  · intro who load hheld
    obtain ⟨hissued, hcarried⟩ := h.held_carried who load hheld
    refine ⟨hsize ▸ hissued, fun hincomplete => ?_⟩
    by_cases heq : load.2 = ticket
    · rw [heq, hmarked] at hincomplete
      cases hincomplete
    · rw [hother load.2 heq] at hincomplete
      rcases List.mem_cons.1 (hcarried hincomplete) with rfl | hrest
      · exact absurd rfl heq
      · exact hrest
  · exact h.held_distinct

/-- A ticket that is held and not complete is carried by one load, for the key that is waited
for. -/
theorem carried_once (h : queue.Accounted carried held) (hheld : held who = some (key, ticket))
    (hopen : queue.isComplete ticket = false) :
    (carried.filter fun load => load.2 = ticket) = [(key, ticket)] := by
  have hmem := (h.held_carried who (key, ticket) hheld).2 hopen
  obtain ⟨before, behind, rfl⟩ := List.append_of_mem hmem
  have hnodup := h.carried_nodup
  rw [List.map_append, List.map_cons, List.perm_middle.nodup_iff, List.nodup_cons] at hnodup
  have hrest : ∀ load ∈ before ++ behind, load.2 ≠ ticket := by
    rintro load hload rfl
    refine hnodup.1 ?_
    rw [← List.map_append]
    exact List.mem_map.2 ⟨load, hload, rfl⟩
  refine List.filter_eq_cons_iff.2 ⟨before, behind, rfl, ?_, by simp, ?_⟩
  · intro load hload
    simpa using hrest load (List.mem_append_left _ hload)
  · rw [List.filter_eq_nil_iff]
    intro load hload
    simpa using hrest load (List.mem_append_right _ hload)

/-- A ticket that is complete is carried by no load. -/
theorem carried_none (h : queue.Accounted carried held)
    (hcomplete : queue.isComplete ticket = true) :
    (carried.filter fun load => load.2 = ticket) = [] := by
  rw [List.filter_eq_nil_iff]
  intro load hload heq
  rw [decide_eq_true_eq] at heq
  have hopen := (h.carried_open load hload).2
  rw [heq, hcomplete] at hopen
  cases hopen

end Accounted

end LoadQueue

end FileServer
