import FileServer.Proofs.Connection.Course
import FileServer.Proofs.Disk.Batch
import FileServer.Proofs.Reactor.Conditions
import FileServer.Proofs.Reactor.Keys
import FileServer.Proofs.Reactor.Publications

/-!
# Thrashing does not stop progress

Once the loads of all parked connections are done, each of them is revived and looks for its content
again. If the budget is small, most of that content is gone by then, and those connections ask for
it once more; a server could go on like this for ever. It does not: the content that was stored last
is there, revivals only look contents up, and so the connection that waits for it finds it, wherever
it is listed (`Stalled.progress`). If all contents fit the budget together, everybody finds theirs.

What the revivals of other connections do is kept apart in `Revivals`: they leave the connection
that comes later and what the cache holds, and only add to the queue and to the list.
-/

namespace FileServer

open Workshop (contentOf taskOf)

namespace LoadQueue

variable {queue next last : LoadQueue}

/-- A queue from which nothing is taken while loads are asked for. -/
structure Extends (queue next : LoadQueue) : Prop where
  /-- New tasks come behind the others. -/
  tasks : queue.tasks <+: next.tasks
  /-- What is complete stays so. -/
  complete : ∀ ticket, queue.isComplete ticket = true → next.isComplete ticket = true

/-- A queue extends itself. -/
theorem Extends.refl (queue : LoadQueue) : queue.Extends queue where
  tasks := List.prefix_refl _
  complete _ := id

/-- A queue may be extended again. -/
theorem Extends.trans (h : queue.Extends next) (hlast : next.Extends last) :
    queue.Extends last where
  tasks := h.tasks.trans hlast.tasks
  complete ticket hticket := hlast.complete ticket (h.complete ticket hticket)

/-- Asking for a load extends the queue. -/
theorem extends_request (queue : LoadQueue) (key : String) : queue.Extends (queue.request key) where
  tasks := List.prefix_append _ _
  complete ticket hticket := by rwa [isComplete_request]

/-- Where no stop is queued, all that is queued are loads. -/
theorem map_taskOf_loads (h : .stop ∉ queue.tasks) : queue.loads.map taskOf = queue.tasks := by
  rw [loads, List.map_filterMap]
  refine (List.filterMap_congr fun task htask => ?_).trans List.filterMap_some
  cases task with
  | load key ticket => rfl
  | stop => exact absurd htask h

/-- The loads that are queued, if these are queued in some order and nothing else. -/
theorem loads_of_perm {loads : List (String × Ticket)} (h : queue.tasks.Perm (loads.map taskOf)) :
    queue.tasks = queue.loads.map taskOf ∧ queue.loads.Perm loads := by
  constructor
  · refine (map_taskOf_loads fun hstop => ?_).symm
    obtain ⟨load, -, hload⟩ := List.mem_map.1 (h.mem_iff.1 hstop)
    cases hload
  · refine (h.filterMap Task.load?).trans (.of_eq ?_)
    rw [List.filterMap_map]
    exact List.filterMap_some

end LoadQueue

namespace Turn

variable {settings : Settings} {turn : Turn} {entries : Recency} {name : String} {ticket : Ticket}

/-- A step puts nothing into the cache and drops nothing from it. -/
theorem stores_step (settings : Settings) (turn : Turn) (h : turn.hub.Stores entries) :
    (turn.step settings).turn.hub.Stores entries := by
  rcases cache_step settings turn with hsame | ⟨key, hlooked⟩
  · exact h.congr hsame
  · exact (h.lookup key).congr hlooked

/-- A step only extends the queue. -/
theorem extends_step (settings : Settings) (turn : Turn) :
    turn.hub.queue.Extends (turn.step settings).turn.hub.queue := by
  rcases (asks_step settings turn).queue with hsame | ⟨key, hasked⟩
  · rw [hsame]
    exact .refl _
  · rw [hasked]
    exact turn.hub.queue.extends_request key

/-- A drive puts nothing into the cache and drops nothing from it. -/
theorem stores_drive (settings : Settings) (turn : Turn) (h : turn.hub.Stores entries) :
    (turn.drive settings).2.hub.Stores entries :=
  invariant_drive (stores_step settings) turn h

/-- A drive takes nothing from the queue. -/
theorem extends_drive (settings : Settings) (turn : Turn) :
    turn.hub.queue.Extends (turn.drive settings).2.hub.queue := by
  have hstep : ∀ next : Turn, turn.hub.queue.Extends next.hub.queue →
      turn.hub.queue.Extends (next.step settings).turn.hub.queue :=
    fun next hnext => hnext.trans (extends_step settings next)
  exact invariant_drive hstep turn (.refl _)

/-- **A hit is counted** by the steps that find a content, and by no other. -/
theorem hits_step (settings : Settings) (turn : Turn) :
    (turn.step settings).turn.hub.counters.hits = turn.hub.counters.hits + turn.finds.toNat := by
  unfold step finds
  split
  · rename_i hphase
    rw [hub_read, hphase]
    rfl
  · rename_i key ticket hphase
    rw [hub_resolve, hphase, Hub.hits_lookup]
  · rename_i hphase
    rw [hub_miss, hphase]
    rfl
  · rename_i hphase
    rw [hphase]
    rfl
  · rename_i out hphase
    rw [hphase, Turn.write]
    split
    · rfl
    · simp only
      split <;> rfl
  · rename_i keepAlive hphase
    rw [hphase, Turn.finish]
    simp only
    split <;> simp [Progress.turn, enter]
  · rename_i hphase
    rw [hphase]
    rfl

/-- A drive that begins with finding a content counts a hit. -/
theorem hits_drive (settings : Settings) (hfinds : turn.finds = true) :
    turn.hub.counters.hits < (turn.drive settings).2.hub.counters.hits := by
  have hstep : ∀ next : Turn, turn.hub.counters.hits < next.hub.counters.hits →
      turn.hub.counters.hits < (next.step settings).turn.hub.counters.hits := by
    intro next hnext
    rw [hits_step]
    omega
  have hfirst := hits_step settings turn
  rw [hfinds] at hfirst
  cases hnext : turn.step settings with
  | on next =>
      rw [hnext] at hfirst
      rw [drive_of_on hnext]
      refine invariant_drive hstep next ?_
      exact hfirst ▸ Nat.lt_succ_self _
  | rest need next =>
      rw [hnext] at hfirst
      rw [drive_of_rest hnext]
      exact hfirst ▸ Nat.lt_succ_self _

/-- **A connection whose load is done and whose content is gone** asks for it once more, and does
nothing else. -/
theorem drive_of_gone (settings : Settings)
    (hphase : turn.conn.phase = .resolving name (some ticket))
    (hgone : turn.hub.lookup name = (none, turn.hub))
    (hcomplete : turn.hub.queue.isComplete ticket = true) :
    turn.drive settings = (.disk,
      { turn.enter (.resolving name (some turn.hub.queue.nextTicket)) with
        hub := (turn.hub.request name).2 }) := by
  have hresolve : turn.step settings = .on (turn.enter (.missed name (some ticket))) := by
    rw [step, hphase]
    simp only [Turn.resolve, hgone]
  have hmiss : (turn.enter (.missed name (some ticket))).step settings
      = .on (turn.enter (.asking name)) := if_pos hcomplete
  rw [drive_of_on hresolve, drive_of_on hmiss]
  exact drive_of_rest rfl

end Turn

namespace Reactor

variable {reactor next last : Reactor} {key : Nat} {keys others : List Nat} {slot : Slot}
  {entries : Recency} {name : String} {ticket : Ticket}

/-! ### Revivals -/

/-- Takes a parked connection up again. -/
def wake (reactor : Reactor) (key : Nat) (slot : Slot) : Reactor :=
  { reactor with conns := reactor.conns.modify key ({ · with parked := false }) }.renew slot

/-- A connection that is woken is not parked. -/
theorem get?_wake (hslot : reactor.conns.get? key = some slot) :
    (reactor.wake key slot).conns.get? key = some { slot with parked := false } :=
  (Slab.get?_modify_of_get? hslot _ key).trans (if_pos rfl)

/-- A revival is a drive of a connection that was taken up. -/
theorem revive_of_parked (hslot : reactor.conns.get? key = some slot)
    (hparked : slot.parked = true) :
    reactor.revive key = (reactor.wake key slot).conclude key { slot with parked := false }
      (((reactor.wake key slot).turn slot).drive reactor.settings).1
      (((reactor.wake key slot).turn slot).drive reactor.settings).2 := by
  have hwoken : Slab.get? (reactor.conns.modify key ({ · with parked := false })) key
      = some { slot with parked := false } := get?_wake hslot
  rw [revive, hslot]
  simp only [hparked, if_true]
  rw [drive, hwoken]
  rfl

/-- A revival that begins with finding a content counts a hit. -/
theorem hits_revive (hslot : reactor.conns.get? key = some slot) (hparked : slot.parked = true)
    (hfinds : ((reactor.wake key slot).turn slot).finds = true) :
    reactor.shop.hub.counters.hits < (reactor.revive key).shop.hub.counters.hits := by
  rw [revive_of_parked hslot hparked, conclude, (sameHub_provide _ key _).hits]
  exact Turn.hits_drive reactor.settings hfinds

/-- What the revivals of some connections leave as it is. -/
structure Revivals (reactor : Reactor) (keys : List Nat) (next : Reactor) : Prop where
  /-- The other connections. -/
  conns : ∀ key, key ∉ keys → next.conns.get? key = reactor.conns.get? key
  /-- Those that are listed; only revived connections are listed behind them. -/
  listed : ∃ more, List.Sublist more keys ∧ next.waiting = reactor.waiting ++ more
  /-- What is queued and which tickets are complete. -/
  queue : reactor.shop.hub.queue.Extends next.shop.hub.queue
  /-- What the cache holds. -/
  stores : ∀ entries, reactor.shop.hub.Stores entries → next.shop.hub.Stores entries

/-- Where nobody is revived nothing changes. -/
theorem Revivals.refl (reactor : Reactor) (keys : List Nat) : reactor.Revivals keys reactor where
  conns _ _ := rfl
  listed := ⟨[], List.nil_sublist keys, (List.append_nil _).symm⟩
  queue := .refl _
  stores _ := id

/-- Connections may be revived after others. -/
theorem Revivals.trans (h : reactor.Revivals keys next) (hlast : next.Revivals others last) :
    reactor.Revivals (keys ++ others) last where
  conns key hkey := by
    rw [List.mem_append, not_or] at hkey
    exact (hlast.conns key hkey.2).trans (h.conns key hkey.1)
  listed := by
    obtain ⟨more, hmore, hwaiting⟩ := h.listed
    obtain ⟨later, hlater, hwaiting'⟩ := hlast.listed
    exact ⟨more ++ later, hmore.append hlater, by rw [hwaiting', hwaiting, List.append_assoc]⟩
  queue := h.queue.trans hlast.queue
  stores entries hstores := hlast.stores entries (h.stores entries hstores)

/-- **One revival**. -/
theorem revivals_revive (reactor : Reactor) (key : Nat) :
    reactor.Revivals [key] (reactor.revive key) := by
  rcases hslot : reactor.conns.get? key with _ | slot
  · rw [revive, hslot]
    exact .refl reactor [key]
  cases hparked : slot.parked with
  | false =>
      rw [revive, hslot]
      simp only [hparked, if_false, Bool.false_eq_true]
      exact .refl reactor [key]
  | true =>
      have hwoken : reactor.Acted key (reactor.wake key slot) := by
        refine .of_modify hslot rfl rfl (Or.inl ⟨rfl, ?_⟩) rfl Array.size_modify rfl
        intro hflag
        cases hflag
      rw [revive_of_parked hslot hparked]
      generalize hturn : (reactor.wake key slot).turn slot = turn
      have hhub : turn.hub = reactor.shop.hub := hturn ▸ rfl
      have hacted := hwoken.trans rfl (acted_conclude (get?_wake hslot)
        (turn.drive reactor.settings).1 (turn.drive reactor.settings).2)
      refine ⟨fun other hother => hacted.others other (by simpa using hother), ?_, ?_, ?_⟩
      · rcases hacted.listed with hsame | ⟨hlisted, -⟩
        · exact ⟨[], List.nil_sublist _, hsame.trans (List.append_nil _).symm⟩
        · exact ⟨[key], List.Sublist.refl _, hlisted⟩
      · rw [conclude, (sameHub_provide _ key _).queue, ← hhub]
        exact turn.extends_drive reactor.settings
      · intro entries hstores
        rw [← hhub] at hstores
        exact (turn.stores_drive reactor.settings hstores).congr (sameHub_provide _ key _).cache

/-- Any number of revivals. -/
theorem revivals_reviveEach (reactor : Reactor) (keys : List Nat) :
    reactor.Revivals keys (keys.foldl revive reactor) := by
  induction keys generalizing reactor with
  | nil => exact .refl reactor []
  | cons key keys ih => exact (revivals_revive reactor key).trans (ih (reactor.revive key))

/-! ### The turn of one connection -/

/-- The reactor when the turn of a listed connection comes: those listed before it were revived. -/
def upTo (reactor : Reactor) (key : Nat) : Reactor :=
  (reactor.waiting.takeWhile fun other => other ≠ key).foldl revive { reactor with waiting := [] }

/-- **A hit**: when its turn comes, the connection is as it was parked, its drive begins with a
lookup that finds the content, and this is counted. -/
def Hits (reactor : Reactor) (key : Nat) : Prop :=
  ∃ slot, reactor.conns.get? key = some slot ∧ (reactor.upTo key).conns.get? key = some slot ∧
    (((reactor.upTo key).wake key slot).turn slot).finds = true ∧
    (reactor.upTo key).shop.hub.counters.hits
      < ((reactor.upTo key).revive key).shop.hub.counters.hits

/-- **Asking once more** for the content of `name`, and waiting on. -/
structure AsksOnce (reactor : Reactor) (key : Nat) (slot : Slot) (name : String) : Prop where
  /-- In its turn the connection puts one load into the queue, with a ticket of its own. -/
  request : ((reactor.upTo key).revive key).shop.hub.queue
    = (reactor.upTo key).shop.hub.queue.request name
  /-- The load is still queued at the end. -/
  queued : .load name (reactor.upTo key).shop.hub.queue.nextTicket
    ∈ reactor.reviveAll.shop.hub.queue.tasks
  /-- The connection holds that ticket at the end, and is as it was in all else. -/
  conn : reactor.reviveAll.conns.get? key = some { slot with
    conn.phase := .resolving name (some (reactor.upTo key).shop.hub.queue.nextTicket) }
  /-- It is parked. -/
  parked : slot.parked = true
  /-- It is listed once. -/
  listed : reactor.reviveAll.waiting.count key = 1

/-- The other connections are revived before and after the turn of one. -/
theorem revivals_upTo (hnodup : reactor.waiting.Nodup) (hkey : key ∈ reactor.waiting) :
    ∃ front back, key ∉ front ∧ key ∉ back ∧
      Revivals { reactor with waiting := [] } front (reactor.upTo key) ∧
      Revivals ((reactor.upTo key).revive key) back reactor.reviveAll := by
  obtain ⟨front, back, hsplit⟩ := List.append_of_mem hkey
  rw [hsplit, List.nodup_middle, List.nodup_cons, List.mem_append, not_or] at hnodup
  obtain ⟨⟨hfront, hback⟩, -⟩ := hnodup
  have hupTo : reactor.upTo key = front.foldl revive { reactor with waiting := [] } := by
    have htaken : (front ++ key :: back).takeWhile (fun other => other ≠ key) = front := by
      rw [List.takeWhile_append_of_pos, List.takeWhile_cons_of_neg (by simp), List.append_nil]
      intro other hother
      have hne : other ≠ key := fun heq => hfront (heq ▸ hother)
      simpa using hne
    rw [upTo, hsplit, htaken]
  have hall : reactor.reviveAll
      = (back.foldl revive ((reactor.upTo key).revive key)).showWaiting := by
    rw [reviveAll, hsplit, List.foldl_append, List.foldl_cons, hupTo]
  refine ⟨front, back, hfront, hback, ?_, ?_⟩
  · rw [hupTo]
    exact revivals_reviveEach _ front
  · have hrest := revivals_reviveEach ((reactor.upTo key).revive key) back
    rw [hall]
    exact ⟨hrest.conns, hrest.listed, hrest.queue,
      fun entries hstores => (hrest.stores entries hstores).congr rfl⟩

/-- **What the cache holds is found**, whatever was revived before. -/
theorem hits_of_stores {content : Content} (hnodup : reactor.waiting.Nodup)
    (hkey : key ∈ reactor.waiting) (hslot : reactor.conns.get? key = some slot)
    (hparked : slot.parked = true)
    (hphase : slot.conn.phase = .resolving name (some ticket))
    (hstores : reactor.shop.hub.Stores entries) (hentry : (name, content) ∈ entries) :
    reactor.Hits key := by
  obtain ⟨front, back, hfront, -, hbefore, -⟩ := revivals_upTo hnodup hkey
  have hsame : (reactor.upTo key).conns.get? key = some slot :=
    (hbefore.conns key hfront).trans hslot
  have hfinds : (((reactor.upTo key).wake key slot).turn slot).finds = true := by
    have hturn : (((reactor.upTo key).wake key slot).turn slot).conn.phase
        = .resolving name (some ticket) := hphase
    rw [Turn.finds, hturn]
    exact (hbefore.stores entries hstores).isSome_lookup hentry
  exact ⟨slot, hslot, hsame, hfinds, hits_revive hsame hparked hfinds⟩

/-- The revival of a connection whose load is done and whose content is gone. -/
theorem revive_of_gone (hslot : reactor.conns.get? key = some slot) (hparked : slot.parked = true)
    (hphase : slot.conn.phase = .resolving name (some ticket))
    (hgone : reactor.shop.hub.lookup name = (none, reactor.shop.hub))
    (hcomplete : reactor.shop.hub.queue.isComplete ticket = true) :
    (reactor.revive key).shop.hub.queue = reactor.shop.hub.queue.request name ∧
      (reactor.revive key).waiting = reactor.waiting ++ [key] ∧
      (reactor.revive key).conns.get? key = some { slot with
        conn.phase := .resolving name (some reactor.shop.hub.queue.nextTicket) } := by
  have hdrive := ((reactor.wake key slot).turn slot).drive_of_gone reactor.settings hphase hgone
    hcomplete
  rw [revive_of_parked hslot hparked, hdrive]
  generalize hturn : ({ ((reactor.wake key slot).turn slot).enter _ with hub := _ } : Turn) = turn
  have hback : (((reactor.wake key slot).putBack key { slot with parked := false } turn).answer
      { slot with parked := false }).conns.get? key
        = some { slot with parked := false, conn := turn.conn } :=
    (Slab.get?_modify_of_get? (get?_wake hslot) _ key).trans (if_pos rfl)
  have hpark : (((reactor.wake key slot).putBack key { slot with parked := false } turn).park
      key).conns.get? key = some { slot with parked := true, conn := turn.conn } :=
    (Slab.get?_modify_of_get? hback _ key).trans (if_pos rfl)
  rw [conclude, provide, hback]
  subst hturn
  refine ⟨rfl, rfl, hpark.trans ?_⟩
  rw [← hparked]
  rfl

/-- **What the cache does not hold** is asked for once more by a connection whose load is done. -/
theorem asksOnce_of_not_hits (hnodup : reactor.waiting.Nodup) (hkey : key ∈ reactor.waiting)
    (hslot : reactor.conns.get? key = some slot) (hparked : slot.parked = true)
    (hphase : slot.conn.phase = .resolving name (some ticket))
    (hstores : reactor.shop.hub.Stores entries)
    (hcomplete : reactor.shop.hub.queue.isComplete ticket = true) (hnot : ¬reactor.Hits key) :
    reactor.AsksOnce key slot name := by
  obtain ⟨front, back, hfront, hback, hbefore, hafter⟩ := revivals_upTo hnodup hkey
  have hsame : (reactor.upTo key).conns.get? key = some slot :=
    (hbefore.conns key hfront).trans hslot
  have hgone : (reactor.upTo key).shop.hub.lookup name = (none, (reactor.upTo key).shop.hub) := by
    apply (hbefore.stores entries hstores).lookup_of_isNone
    by_contra hfound
    have hfinds : (((reactor.upTo key).wake key slot).turn slot).finds = true := by
      have hturn : (((reactor.upTo key).wake key slot).turn slot).conn.phase
          = .resolving name (some ticket) := hphase
      rw [Turn.finds, hturn]
      exact Bool.eq_true_of_not_eq_false hfound
    exact hnot ⟨slot, hslot, hsame, hfinds, hits_revive hsame hparked hfinds⟩
  obtain ⟨hqueue, hwaiting, hconn⟩ := revive_of_gone hsame hparked hphase hgone
    (hbefore.queue.complete ticket hcomplete)
  refine ⟨hqueue, ?_, (hafter.conns key hback).trans hconn, hparked, ?_⟩
  · apply hafter.queue.tasks.subset
    rw [hqueue]
    exact List.mem_append_right _ List.mem_cons_self
  · obtain ⟨early, hearly, hlisted⟩ := hbefore.listed
    obtain ⟨late, hlate, hlisted'⟩ := hafter.listed
    rw [hlisted', hwaiting, hlisted, List.nil_append, List.count_append, List.count_append,
      List.count_eq_zero_of_not_mem fun hmem => hfront (hearly.subset hmem),
      List.count_eq_zero_of_not_mem fun hmem => hback (hlate.subset hmem)]
    simp

/-! ### A stalled server -/

/-- The loads that the parked connections wait for. -/
def awaited (reactor : Reactor) : List (String × Ticket) := reactor.waiting.filterMap reactor.held

/-- Every parked connection waits for a load that is queued, and nothing else is queued. Cache and
budget are any. -/
structure Stalled (reactor : Reactor) : Prop where
  /-- No connection is listed twice. -/
  nodup : reactor.waiting.Nodup
  /-- What is listed is parked and holds a ticket. -/
  parked : ∀ key ∈ reactor.waiting, ∃ slot name ticket, reactor.conns.get? key = some slot ∧
    slot.parked = true ∧ slot.conn.phase = .resolving name (some ticket) ∧
    ticket.number < reactor.shop.hub.queue.tickets.size
  /-- The queue consists of the loads that are waited for, in some order. -/
  queued : reactor.shop.hub.queue.tasks.Perm (reactor.awaited.map taskOf)
  /-- The cache is a recency list. -/
  cache : ∃ cells, reactor.shop.hub.cache.Represents cells

/-- The disk does everything that is queued. -/
def loadAll (reactor : Reactor) (read : Path → Content) : Reactor :=
  { reactor with shop := reactor.shop.run read }

/-- A connection that waits for a load holds its ticket. -/
theorem held_of_resolving (hslot : reactor.conns.get? key = some slot)
    (hphase : slot.conn.phase = .resolving name (some ticket)) :
    reactor.held key = some (name, ticket) := by
  rw [held, hslot, Option.bind_some, hphase]
  rfl

/-- The load of a connection that is listed is awaited. -/
theorem mem_awaited (hkey : key ∈ reactor.waiting) (hslot : reactor.conns.get? key = some slot)
    (hphase : slot.conn.phase = .resolving name (some ticket)) :
    (name, ticket) ∈ reactor.awaited :=
  List.mem_filterMap.2 ⟨key, hkey, held_of_resolving hslot hphase⟩

namespace Stalled

/-- Every load that is awaited is awaited by a connection. -/
theorem exists_waiting (h : reactor.Stalled) {load : String × Ticket}
    (hload : load ∈ reactor.awaited) : ∃ key ∈ reactor.waiting, ∃ slot,
      reactor.conns.get? key = some slot ∧ slot.parked = true ∧
        slot.conn.phase = .resolving load.1 (some load.2) := by
  obtain ⟨key, hkey, hheld⟩ := List.mem_filterMap.1 hload
  obtain ⟨slot, name, ticket, hslot, hparked, hphase, -⟩ := h.parked key hkey
  rw [held_of_resolving hslot hphase] at hheld
  obtain rfl := Option.some.inj hheld
  exact ⟨key, hkey, slot, hslot, hparked, hphase⟩

/-- **The disk step**: all loads are done, and their contents were stored in the order of the
queue. -/
theorem loaded (h : reactor.Stalled) (read : Path → Content) :
    (reactor.loadAll read).shop.hub.queue.tasks = [] ∧
      (∀ load ∈ reactor.awaited, load.2.number < reactor.shop.hub.queue.tickets.size →
        (reactor.loadAll read).shop.hub.queue.isComplete load.2 = true) ∧
      ∃ entries, (reactor.loadAll read).shop.hub.Stores
        (Recency.stockAll reactor.shop.hub.cache.budget (contentOf read) entries
          (reactor.shop.hub.queue.loads.map Prod.fst)) := by
  obtain ⟨htasks, hperm⟩ := LoadQueue.loads_of_perm h.queued
  obtain ⟨hloaded, hnone⟩ := Workshop.loaded_run htasks
  obtain ⟨cells, hcells⟩ := h.cache
  obtain ⟨stored, hstored, heq⟩ := hloaded.cache cells hcells
  refine ⟨hnone, fun load hload => hloaded.complete load (hperm.mem_iff.2 hload), ?_⟩
  exact ⟨cells.map Prod.snd, stored, hstored, .of_eq heq⟩

/-- **At least one hit**, where anybody waits: by the one who waits for the last load of the
queue. -/
theorem exists_hits (h : reactor.Stalled) (hsome : reactor.waiting ≠ []) (read : Path → Content) :
    ∃ key ∈ reactor.waiting, (reactor.loadAll read).Hits key := by
  obtain ⟨-, -, entries, hstores⟩ := h.loaded read
  have hperm := (LoadQueue.loads_of_perm h.queued).2
  rcases reactor.shop.hub.queue.loads.eq_nil_or_concat with hempty | ⟨before, last, hlast⟩
  · obtain ⟨first, hfirst⟩ := List.exists_mem_of_ne_nil _ hsome
    obtain ⟨slot, name, ticket, hslot, -, hphase, -⟩ := h.parked first hfirst
    have hqueued := hperm.mem_iff.2 (mem_awaited hfirst hslot hphase)
    rw [hempty] at hqueued
    exact absurd hqueued List.not_mem_nil
  · rw [List.concat_eq_append] at hlast
    have hawaited : last ∈ reactor.awaited := by
      rw [← hperm.mem_iff, hlast]
      exact List.mem_append_right _ List.mem_cons_self
    obtain ⟨key, hkey, slot, hslot, hparked, hphase⟩ := h.exists_waiting hawaited
    rw [hlast, List.map_append] at hstores
    have hentry := Recency.mem_stockAll_last reactor.shop.hub.cache.budget (contentOf read) entries
      (before.map Prod.fst) last.1
    exact ⟨key, hkey, hits_of_stores h.nodup hkey hslot hparked hphase hstores hentry⟩

/-- **Nothing but hits**, where all contents that are waited for fit the budget together. -/
theorem hits_of_fits (h : reactor.Stalled) (read : Path → Content)
    (hfits : ∑ name ∈ (reactor.awaited.map Prod.fst).toFinset, (contentOf read name).weight
      ≤ reactor.shop.hub.cache.budget) (hkey : key ∈ reactor.waiting) :
    (reactor.loadAll read).Hits key := by
  obtain ⟨-, -, entries, hstores⟩ := h.loaded read
  obtain ⟨slot, name, ticket, hslot, hparked, hphase, -⟩ := h.parked key hkey
  have hnames := (LoadQueue.loads_of_perm h.queued).2.map Prod.fst
  rw [← List.toFinset_eq_of_perm _ _ hnames] at hfits
  have hname : name ∈ reactor.shop.hub.queue.loads.map Prod.fst := by
    rw [hnames.mem_iff]
    exact List.mem_map_of_mem (mem_awaited hkey hslot hphase)
  exact hits_of_stores h.nodup hkey hslot hparked hphase hstores
    (Recency.mem_stockAll_of_fits entries hfits hname)

/-- **Whoever has no hit** asks once more. -/
theorem asksOnce (h : reactor.Stalled) (read : Path → Content) (hkey : key ∈ reactor.waiting)
    (hnot : ¬(reactor.loadAll read).Hits key) :
    ∃ slot name ticket, reactor.conns.get? key = some slot ∧
      slot.conn.phase = .resolving name (some ticket) ∧
      (reactor.loadAll read).AsksOnce key slot name := by
  obtain ⟨-, hcomplete, entries, hstores⟩ := h.loaded read
  obtain ⟨slot, name, ticket, hslot, hparked, hphase, hissued⟩ := h.parked key hkey
  have hdone := hcomplete (name, ticket) (mem_awaited hkey hslot hphase) hissued
  exact ⟨slot, name, ticket, hslot, hphase,
    asksOnce_of_not_hits h.nodup hkey hslot hparked hphase hstores hdone hnot⟩

/-- **Thrashing does not stop progress.** Whatever the budget and the contents of the cache, when
the disk has done the loads that parked connections wait for, and all these connections are revived
with nothing done by the disk in between:

* at least one of them has a hit;
* all of them have one if the contents that they wait for fit the budget together;
* one that has no hit asks for exactly one load more and stays parked. -/
theorem progress (h : reactor.Stalled) (hsome : reactor.waiting ≠ []) (read : Path → Content) :
    (reactor.loadAll read).shop.hub.queue.tasks = [] ∧
      (∃ key ∈ reactor.waiting, (reactor.loadAll read).Hits key) ∧
      (∑ name ∈ (reactor.awaited.map Prod.fst).toFinset, (contentOf read name).weight
          ≤ reactor.shop.hub.cache.budget →
        ∀ key ∈ reactor.waiting, (reactor.loadAll read).Hits key) ∧
      ∀ key ∈ reactor.waiting, ¬(reactor.loadAll read).Hits key →
        ∃ slot name ticket, reactor.conns.get? key = some slot ∧
          slot.conn.phase = .resolving name (some ticket) ∧
          (reactor.loadAll read).AsksOnce key slot name := by
  refine ⟨(h.loaded read).1, h.exists_hits hsome read, ?_, ?_⟩
  · intro hfits key hkey
    exact h.hits_of_fits read hfits hkey
  · intro key hkey hnot
    exact h.asksOnce read hkey hnot

end Stalled

end Reactor

namespace Threads

variable {state : Threads} {actions : List Action}

/-- **Servers stall.** Between two rounds it takes no more than that the queue consists of the loads
that the parked connections wait for. -/
theorem stalled_of_follow (settings : Settings) (noDelay : Bool) (budget : Nat)
    (refusals : Refusals) (workers : Nat)
    (hfollow : (opening settings noDelay (.empty budget) refusals workers).follow actions
      = some state) (hcheck : state.thread = .check)
    (hqueued : state.reactor.shop.hub.queue.tasks.Perm (state.reactor.awaited.map taskOf)) :
    state.reactor.Stalled := by
  have howned := owned_of_reachable
    (owned_opening settings noDelay (.empty budget) refusals workers)
    (reachable_follow .refl hfollow)
  rw [Owned, hcheck] at howned
  have hkept := (kept_opening settings noDelay budget refusals workers).follow hfollow
  have hempty : Hub.Stocked []
      (opening settings noDelay (.empty budget) refusals workers).reactor.shop.hub :=
    Hub.stocked_empty budget
  obtain ⟨cells, hcells, -⟩ := stocked_follow hempty hfollow
  refine ⟨howned.parked_nodup, fun key hkey => ?_, hqueued, cells, hcells⟩
  obtain ⟨slot, hslot, -, ⟨name, ticket, hphase⟩, hflag, -⟩ := howned.parked_of_mem hkey
  have hissued := (hkept.account.held_carried key (name, ticket)
    (Reactor.held_of_resolving hslot hphase)).1
  exact ⟨slot, name, ticket, hslot, hflag, hphase, hissued⟩

/-- Two clients ask for two files. -/
def crowding : List Action :=
  [.connect, .client 0 (.send (Text.encode "/a\n")), .connect,
    .client 1 (.send (Text.encode "/b\n"))] ++ List.replicate 19 (.reactor 8)

/-- Where no file fits the budget, at least one of the two is served. -/
theorem progress_crowding : ∃ state,
    (opening ⟨[], true, false⟩ false (.empty 0) {} 1).follow crowding = some state ∧
      state.reactor.waiting = [0, 1] ∧
      (∃ key ∈ [0, 1], (state.reactor.loadAll fun _ => .file [1, 2, 3]).Hits key) ∧
      ∀ key ∈ [0, 1], ¬(state.reactor.loadAll fun _ => .file [1, 2, 3]).Hits key →
        ∃ slot name ticket, state.reactor.conns.get? key = some slot ∧
          slot.conn.phase = .resolving name (some ticket) ∧
          (state.reactor.loadAll fun _ => .file [1, 2, 3]).AsksOnce key slot name := by
  have hrun : ((opening ⟨[], true, false⟩ false (.empty 0) {} 1).follow crowding).map
      (fun state => (state.thread, state.reactor.waiting,
        decide (state.reactor.shop.hub.queue.tasks = state.reactor.awaited.map taskOf)))
        = some (.check, [0, 1], true) := by
    decide +kernel
  obtain ⟨state, hfollow, heq⟩ := Option.map_eq_some_iff.1 hrun
  obtain ⟨hcheck, hboth⟩ := Prod.mk.inj heq
  obtain ⟨hwaiting, hqueued⟩ := Prod.mk.inj hboth
  have hstalled := stalled_of_follow _ _ _ _ _ hfollow hcheck (.of_eq (of_decide_eq_true hqueued))
  have hprogress := hstalled.progress (by rw [hwaiting]; exact List.cons_ne_nil _ _)
    fun _ => .file [1, 2, 3]
  rw [hwaiting] at hprogress
  exact ⟨state, hfollow, hwaiting, hprogress.2.1, hprogress.2.2.2⟩

end Threads

end FileServer
