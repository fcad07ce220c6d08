/-!
# Counters

The server counts what happens to connections, requests, cache lookups and disk loads. Counters
only grow; the gauge of parked connections follows the reactor. A counter is kept as a number of
any size and is read as a word of 64 bits (`reading`), so that a counter that has run past the
largest word starts over from zero.
-/

namespace FileServer

/-- Everything the server counts. -/
structure Counters where
  /-- Connections accepted. -/
  accepted : Nat := 0
  /-- Connections closed. -/
  closed : Nat := 0
  /-- Responses sent to their last byte. -/
  served : Nat := 0
  /-- Bytes that transports have accepted. -/
  bytes : Nat := 0
  /-- Lookups that found a content. -/
  hits : Nat := 0
  /-- Loads asked for because a lookup found none. -/
  misses : Nat := 0
  /-- Loads done by the disk workers. -/
  loads : Nat := 0
  /-- Loads that ended in a failure. -/
  failures : Nat := 0
  /-- Connections that wait for a load. -/
  waiting : Nat := 0
deriving DecidableEq, Repr

namespace Counters

/-- A counter as a word of 64 bits. -/
def reading (counter : Nat) : Nat := counter % UInt64.size

/-- The growing counters by name, as they are reported. -/
def toList (counters : Counters) : List (String × Nat) :=
  [("accepted", counters.accepted), ("closed", counters.closed), ("served", counters.served),
   ("bytes", counters.bytes), ("hits", counters.hits), ("misses", counters.misses),
   ("loads", counters.loads), ("failures", counters.failures)]

/-- How much every counter has grown since an earlier state, leaving out those that have not. -/
def growth (earlier later : Counters) : List (String × Nat) :=
  (earlier.toList.zipWith (fun e l => (l.1, reading (l.2 - e.2))) later.toList).filter
    fun change => change.2 ≠ 0

end Counters

end FileServer
