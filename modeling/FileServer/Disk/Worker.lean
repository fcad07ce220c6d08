import FileServer.Hub
import FileServer.Notifier
import FileServer.Error

/-!
# Disk workers

A disk worker takes tasks off the load queue, one at a time. For a load it reads the file, puts the
result into the cache under the key of the task, marks the ticket, and signals the notifier once,
in this order; a failed load is a result like any other. It ends when it takes a stop.

A pool is a number of workers on one queue. To shut it down, one stop for each worker is put behind
the tasks that are waiting, so that those are still done.

What a file holds comes from a function on paths, so that the workers are the same over any source
of files.
-/

namespace FileServer

/-- What the reactor and the workers share, with the means to wake the reactor. -/
structure Workshop where
  /-- Cache, queue and counters. -/
  hub : Hub
  /-- Wakes the reactor. -/
  notifier : Notifier

namespace Hub

/-- Puts the result of a load into the cache and counts it. -/
def publish (hub : Hub) (key : String) (content : Content) : Hub :=
  let failed := match content with
    | .failed _ => 1
    | .file _ => 0
  { hub with
    cache := hub.cache.put key content
    counters := { hub.counters with
      loads := hub.counters.loads + 1
      failures := hub.counters.failures + failed } }

end Hub

/-- What a worker found on the queue. -/
inductive Work where
  /-- Nothing; a worker waits then. -/
  | idle
  /-- A stop; the worker ends. -/
  | stopped
  /-- A load, which is done. -/
  | loaded
deriving DecidableEq, Repr

namespace Workshop

/-- A workshop with an empty cache of the given budget. -/
def empty (budget : Nat) : Workshop := ⟨.empty budget, .quiet⟩

/-- Does a load that was taken off the queue. -/
def load (read : Path → Content) (key : String) (ticket : Ticket) (shop : Workshop) : Workshop where
  hub := (shop.hub.publish key (read (Text.encode key))).complete ticket
  notifier := shop.notifier.signal

/-- One worker takes one task and does it. -/
def work (read : Path → Content) (shop : Workshop) : Work × Workshop :=
  match shop.hub.queue.take? with
  | none => (.idle, shop)
  | some (.stop, queue) => (.stopped, { shop with hub.queue := queue })
  | some (.load key ticket, queue) =>
    (.loaded, { shop with hub.queue := queue }.load read key ticket)

/-- One worker takes tasks until it takes a stop, at most `count` of them. -/
def runFor (read : Path → Content) : Nat → Workshop → Workshop
  | 0, shop => shop
  | count + 1, shop =>
    match shop.work read with
    | (.loaded, shop) => runFor read count shop
    | (_, shop) => shop

/-- One worker takes tasks until it takes a stop or nothing is left. -/
def run (read : Path → Content) (shop : Workshop) : Workshop :=
  runFor read shop.hub.queue.length shop

/-- Puts a task on the queue. -/
def put (task : Task) (shop : Workshop) : Workshop :=
  { shop with hub.queue := shop.hub.queue.put task }

/-- Puts a number of stops on the queue. -/
def putStops : Nat → Workshop → Workshop
  | 0, shop => shop
  | count + 1, shop => putStops count (shop.put .stop)

/-- A number of workers take tasks until each has taken a stop, one worker after the other. -/
def runEach (read : Path → Content) : Nat → Workshop → Workshop
  | 0, shop => shop
  | workers + 1, shop => runEach read workers (shop.run read)

end Workshop

/-- A number of disk workers on one queue. -/
structure Pool where
  /-- How many of them have not been told to stop. -/
  workers : Nat
deriving DecidableEq, Repr

namespace Pool

/-- How many bytes the list of the workers takes for each of them. -/
def recordSize : Nat := 24

/-- The most bytes that a list can have. -/
def mostBytes : Nat := UInt64.size / 2 - 1

/-- How many bytes of memory a host has; its system never gives more in one piece. -/
def memory : Nat := 0x800000000

/-- Starts a number of workers. There must be one at least, and room for the list of them. -/
def start (workers : Nat) : Except StartError Pool :=
  if workers = 0 then .error .noWorkers
  else if mostBytes < recordSize * workers then .error .overflow
  else if memory < recordSize * workers then .error (.memory (recordSize * workers))
  else .ok ⟨workers⟩

/-- Whether no worker is left. -/
def isEmpty (pool : Pool) : Bool := pool.workers = 0

/-- Tells every worker to stop and waits until all have ended. A pool that was shut down has nobody
left to tell. -/
def shutdown (read : Path → Content) (pool : Pool) (shop : Workshop) : Pool × Workshop :=
  (⟨0⟩, (shop.putStops pool.workers).runEach read pool.workers)

end Pool

end FileServer
