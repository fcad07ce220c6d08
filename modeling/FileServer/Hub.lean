import FileServer.Cache.Basic
import FileServer.LoadQueue
import FileServer.Counters
import FileServer.Key

/-!
# The hub

The reactor, which owns the connections, and the disk workers, which read files, meet in two places
only: requests for content go through the load queue, and loaded content comes back through the
cache. The hub is these two and the counters. The settings beside it never change while a server
runs.
-/

namespace FileServer

/-- What every connection of a server is told. -/
structure Settings where
  /-- The directory under which resources are looked for. -/
  root : Path
  /-- Whether a connection stays open after a response. -/
  keepAlive : Bool
  /-- Whether the stream is corked while a response is sent. -/
  cork : Bool

/-- What the reactor and the disk workers share. -/
structure Hub where
  /-- Loaded content. -/
  cache : Cache
  /-- Loads that were asked for. -/
  queue : LoadQueue
  /-- What has happened so far. -/
  counters : Counters

namespace Hub

/-- A hub with an empty cache of the given budget. -/
def empty (budget : Nat) : Hub := ⟨.empty budget, .empty, {}⟩

/-- Looks a content up and counts a hit if there is one. -/
def lookup (hub : Hub) (key : String) : Option Content × Hub :=
  let (found, cache) := hub.cache.get? key
  let counters :=
    if found.isSome then { hub.counters with hits := hub.counters.hits + 1 } else hub.counters
  (found, { hub with cache, counters })

/-- Asks for a load and counts a miss. -/
def request (hub : Hub) (key : String) : Ticket × Hub :=
  (hub.queue.nextTicket,
    { hub with
      queue := hub.queue.request key
      counters := { hub.counters with misses := hub.counters.misses + 1 } })

/-- Stores a content without counting it. -/
def store (hub : Hub) (key : String) (content : Content) : Hub :=
  { hub with cache := hub.cache.put key content }

/-- Marks a ticket complete. -/
def complete (hub : Hub) (ticket : Ticket) : Hub :=
  { hub with queue := hub.queue.complete ticket }

end Hub

end FileServer
