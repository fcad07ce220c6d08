import Mathlib.Algebra.BigOperators.Group.List.Basic
import Mathlib.Algebra.GroupWithZero.Nat
import FileServer.Proofs.Connection.Books
import FileServer.Proofs.Reactor.Arming

/-!
# The connections and what is counted of them

What the counters of a reactor are held against is spread over its parts: the connections that are
open (`Reactor.connections`), the bytes written to all sockets (`Reactor.written`), and the loads in
the queue. This is how the operations of the reactor change them. Acting on one connection leaves
the others (`exists_connections`); accepting adds connections that have done nothing; and a
connection that gets what it needs stays as it is or is closed (`Provided`).
-/

namespace FileServer

/-- All is counted alike, but for the gauge of parked connections. -/
structure Counters.Alike (counters next : Counters) : Prop where
  /-- The same connections are accepted. -/
  accepted : next.accepted = counters.accepted := by rfl
  /-- The same are closed. -/
  closed : next.closed = counters.closed := by rfl
  /-- The same responses are served. -/
  served : next.served = counters.served := by rfl
  /-- The same bytes are written. -/
  bytes : next.bytes = counters.bytes := by rfl
  /-- The same lookups find something. -/
  hits : next.hits = counters.hits := by rfl
  /-- The same loads are asked for. -/
  misses : next.misses = counters.misses := by rfl
  /-- The same are done. -/
  loads : next.loads = counters.loads := by rfl
  /-- The same have failed. -/
  failures : next.failures = counters.failures := by rfl

namespace Connection

variable {conns others : List Connection}

/-- The number of responses that some connections have counted. -/
def servedBy (conns : List Connection) : Nat := (conns.map served).sum

/-- The number of responses that some connections owe. -/
def owedBy (conns : List Connection) : Nat := conns.countP fun conn => conn.phase.owes

/-- The order of connections does not matter for what they have served. -/
theorem servedBy_perm (h : conns.Perm others) : servedBy conns = servedBy others :=
  (h.map served).sum_eq

/-- The order of connections does not matter for what they owe. -/
theorem owedBy_perm (h : conns.Perm others) : owedBy conns = owedBy others :=
  h.countP_eq _

end Connection

namespace Reactor

variable {reactor next : Reactor} {key : Nat} {slot : Slot} {need : Need}

/-- What was counted so far. -/
def counters (reactor : Reactor) : Counters := reactor.shop.hub.counters

/-- The open connections. -/
def connections (reactor : Reactor) : List Connection := reactor.conns.values.map Slot.conn

/-- The number of bytes written to all sockets. -/
def written (reactor : Reactor) : Nat := (reactor.past.map fun done => done.2.length).sum

/-- Beside the connection under a key there are others, whatever is done to that one. -/
theorem exists_connections (reactor : Reactor) (key : Nat) : ∃ others : List Connection,
    ∀ next : Reactor, (∀ other, other ≠ key → next.conns.get? other = reactor.conns.get? other) →
      next.connections.Perm (((next.conns.get? key).map Slot.conn).toList ++ others) := by
  obtain ⟨others, hothers⟩ := reactor.conns.exists_others key
  refine ⟨others.map Slot.conn, fun next hsame => ?_⟩
  have hperm := (hothers next.conns hsame).map Slot.conn
  rw [List.map_append] at hperm
  rwa [Option.toList_map]

/-- Closing a connection counts it. -/
theorem counters_close (hslot : reactor.conns.get? key = some slot) :
    (reactor.close key).counters
      = { reactor.counters with closed := reactor.counters.closed + 1 } := by
  unfold close
  rw [hslot]
  rfl

/-- What becomes of a connection that gets what it needs. -/
inductive Provided (reactor : Reactor) (key : Nat) (slot : Slot) (need : Need) (next : Reactor) :
    Prop where
  /-- It is the same and open, and at most the gauge of parked connections has changed. -/
  | kept (hopen : need ≠ .close)
      (hconn : (next.conns.get? key).map Slot.conn = some slot.conn)
      (hcounters : reactor.counters.Alike next.counters)
  /-- It is closed, because nothing else was to be done, or because its watch cannot be armed. -/
  | closed (hnone : next.conns.get? key = none)
      (hcounters : next.counters = { reactor.counters with closed := reactor.counters.closed + 1 })
      (hwhy : need = .close ∨ true ∈ reactor.poller.refusals)

/-- Arming a watch that is there. -/
theorem provided_watch {watch : Watch} (interest : Interest) (hopen : need ≠ .close)
    (hslot : reactor.conns.get? key = some slot)
    (hwatch : reactor.poller.watch? (.socket slot.socket) = some watch) :
    Provided reactor key slot need (reactor.watch key slot interest) := by
  unfold Reactor.watch
  rcases hrearm : reactor.poller.rearm (.socket slot.socket) interest
    (reactor.network.ready slot.socket) with ⟨armed, poller⟩
  cases armed with
  | true =>
      refine .kept hopen ?_ {}
      show (reactor.conns.get? key).map Slot.conn = some slot.conn
      rw [hslot]
      rfl
  | false =>
      refine .closed ?_ (counters_close hslot) (Or.inr (Poller.refused_of_rearm hrearm hwatch))
      exact (get?_close { reactor with poller } key key).trans (if_pos rfl)

/-- **A connection that gets what it needs** stays as it is or is closed. -/
theorem provided {watch : Watch} (reactor : Reactor) (need : Need)
    (hslot : reactor.conns.get? key = some slot)
    (hwatch : reactor.poller.watch? (.socket slot.socket) = some watch) :
    Provided reactor key slot need (reactor.provide key need) := by
  unfold provide
  rw [hslot]
  cases need with
  | input => exact provided_watch .readable Need.noConfusion hslot hwatch
  | output => exact provided_watch .writable Need.noConfusion hslot hwatch
  | disk =>
      refine .kept Need.noConfusion ?_ {}
      have hself := Slab.get?_modify_of_get? hslot ({ · with parked := true }) key
      rw [if_pos rfl] at hself
      exact congrArg (Option.map Slot.conn) hself
  | close =>
      refine .closed ?_ (counters_close hslot) (Or.inl rfl)
      exact (get?_close reactor key key).trans (if_pos rfl)

/-- Whoever is taken in has done nothing yet, and is counted; whoever is dismissed is not. -/
theorem Registered.connections {socket : Nat} (h : Registered reactor socket next) :
    ∃ count, next.connections.Perm (List.replicate count .fresh ++ reactor.connections) ∧
      next.counters = { reactor.counters with accepted := reactor.counters.accepted + count } ∧
      next.poller.refusals ⊆ reactor.poller.refusals := by
  cases h with
  | dismissed _ _ _ hrefusals => exact ⟨0, .refl _, rfl, hrefusals⟩
  | taken _ _ _ hrefusals =>
      refine ⟨1, ?_, rfl, hrefusals⟩
      obtain ⟨others, hothers⟩ := reactor.exists_connections reactor.conns.nextKey
      have hget := Slab.get?_insert reactor.conns ⟨.fresh, socket, false⟩
      have hbefore := hothers reactor fun _ _ => rfl
      have hself := (hget reactor.conns.nextKey).trans (if_pos rfl)
      rw [Slab.get?_nextKey] at hbefore
      refine (hothers _ fun other hne => (hget other).trans (if_neg hne)).trans ?_
      refine .trans (.of_eq ?_) (hbefore.symm.cons _)
      exact congrArg (fun found => (Option.map Slot.conn found).toList ++ others) hself

/-- Accepting adds connections that have done nothing, and counts them. -/
theorem Accepted.connections (h : Accepted reactor next) :
    ∃ count, next.connections.Perm (List.replicate count .fresh ++ reactor.connections) ∧
      next.counters = { reactor.counters with accepted := reactor.counters.accepted + count } ∧
      next.poller.refusals ⊆ reactor.poller.refusals := by
  induction h with
  | done => exact ⟨0, .refl _, rfl, List.Subset.refl _⟩
  | client _ hfirst _ ih =>
      obtain ⟨one, hperm, hcounters, hrefusals⟩ := hfirst.connections
      obtain ⟨more, hperm', hcounters', hrefusals'⟩ := ih
      refine ⟨more + one, ?_, ?_, fun _ hmem => hrefusals (hrefusals' hmem)⟩
      · rw [List.replicate_add, List.append_assoc]
        exact hperm'.trans (hperm.append_left _)
      · rw [hcounters', hcounters, Nat.add_comm more, ← Nat.add_assoc]
        rfl

end Reactor

end FileServer
