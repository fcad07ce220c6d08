/-!
# The load queue

Requests for content that is not cached wait in a queue for a disk worker. Every load that is asked
for carries a ticket, and whoever asked keeps the ticket's number: a worker marks the ticket
complete once the result is in the cache.

What a complete ticket and a miss mean together depends on which was looked at first. A waiter that
sees its ticket complete, and finds nothing in the cache after that, knows that the result was
dropped again. A waiter that looks into the cache first, and finds its ticket complete after that,
does not know it: the result may have come in between. Connections look in this second order, and
ask once more in either case.

A worker that takes a stop off the queue ends; there is one stop for each worker.
-/

namespace FileServer

/-- The number of a load that was asked for. -/
structure Ticket where
  /-- Tickets are numbered in the order in which they are issued. -/
  number : Nat
deriving DecidableEq, Repr

/-- What a worker takes off the queue. -/
inductive Task where
  /-- Load the file at `key` into the cache and mark the ticket. -/
  | load (key : String) (ticket : Ticket)
  /-- End the worker that takes this. -/
  | stop
deriving DecidableEq, Repr

/-- Tasks in order of arrival, and the tickets issued so far. -/
structure LoadQueue where
  /-- The waiting tasks, the oldest first. -/
  tasks : List Task
  /-- For each ticket issued, whether it is complete. -/
  tickets : Array Bool
deriving DecidableEq, Repr

namespace LoadQueue

/-- A queue without tasks and tickets. -/
def empty : LoadQueue := ⟨[], #[]⟩

/-- The number of waiting tasks. -/
def length (queue : LoadQueue) : Nat := queue.tasks.length

/-- Whether no task waits. -/
def isEmpty (queue : LoadQueue) : Bool := queue.tasks.isEmpty

/-- The ticket that is issued next. -/
def nextTicket (queue : LoadQueue) : Ticket := ⟨queue.tickets.size⟩

/-- Appends a task. -/
def put (queue : LoadQueue) (task : Task) : LoadQueue :=
  { queue with tasks := queue.tasks ++ [task] }

/-- Issues the next ticket and appends the load that carries it. -/
def request (queue : LoadQueue) (key : String) : LoadQueue :=
  { tasks := queue.tasks ++ [.load key queue.nextTicket], tickets := queue.tickets.push false }

/-- Takes the oldest task. -/
def take? (queue : LoadQueue) : Option (Task × LoadQueue) :=
  match queue.tasks with
  | [] => none
  | task :: tasks => some (task, { queue with tasks })

/-- Marks a ticket complete. -/
def complete (queue : LoadQueue) (ticket : Ticket) : LoadQueue :=
  { queue with tickets := queue.tickets.setIfInBounds ticket.number true }

/-- Whether a ticket is complete. -/
def isComplete (queue : LoadQueue) (ticket : Ticket) : Bool :=
  queue.tickets[ticket.number]?.getD false

/-- A ticket just issued is not complete, and no other ticket changes. -/
theorem isComplete_request (queue : LoadQueue) (key : String) (ticket : Ticket) :
    (queue.request key).isComplete ticket = queue.isComplete ticket := by
  simp only [isComplete, request, Array.getElem?_push]
  split
  · rename_i h; simp [h]
  · rfl

/-- Marking a ticket changes that ticket alone, if it was issued. -/
theorem isComplete_complete (queue : LoadQueue) (marked ticket : Ticket) :
    (queue.complete marked).isComplete ticket
      = if ticket = marked ∧ marked.number < queue.tickets.size then true
        else queue.isComplete ticket := by
  obtain ⟨m⟩ := marked
  obtain ⟨t⟩ := ticket
  simp only [isComplete, complete, Array.getElem?_setIfInBounds, Ticket.mk.injEq]
  by_cases h : m = t
  · subst h
    by_cases hlt : m < queue.tickets.size <;> simp [hlt]
  · simp [h, Ne.symm h]

end LoadQueue

end FileServer
