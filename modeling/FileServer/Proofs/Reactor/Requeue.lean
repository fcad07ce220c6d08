import FileServer.Proofs.Reactor.Publications

/-!
# Asking again

A connection whose lookup has found nothing looks at its ticket next, and asks for a new load if
the ticket is complete. Its load was published then (`requeued`), and if nothing was published under
the key since the lookup, then before the lookup, so that the content was dropped again and is not
in the cache.

Lookup and ticket are two accesses, and a worker may publish and mark between them. The connection
asks again then although its content has just come and nothing was ever dropped
(`requeued_unseen`).
-/

namespace FileServer

namespace Threads

variable {state next before looked later asked : Threads} {key most : Nat} {phase : Phase}
  {name : String} {ticket : Ticket}

/-- The reactor drives a connection that is in this phase. -/
def At (state : Threads) (key : Nat) (phase : Phase) : Prop :=
  state.thread.driven? = some key ∧
    (state.reactor.conns.get? key).map (fun slot => slot.conn.phase) = some phase

instance (state : Threads) (key : Nat) (phase : Phase) : Decidable (state.At key phase) :=
  inferInstanceAs (Decidable (_ ∧ _))

/-- A stroke that looks for the content of a load that was asked for, and finds nothing. -/
structure Misses (before looked : Threads) (key : Nat) (name : String) (ticket : Ticket) :
    Prop where
  /-- It is a stroke of the reactor. -/
  stroke : ∃ most, before.strike most = some looked
  /-- The connection was about to look for the content. -/
  resolving : before.At key (.resolving name (some ticket))
  /-- The lookup has found nothing. -/
  missed : looked.At key (.missed name (some ticket))

/-- A stroke that makes a connection ask for its content once more. -/
structure AsksAgain (later asked : Threads) (key : Nat) (name : String) (ticket : Ticket) :
    Prop where
  /-- It is a stroke of the reactor. -/
  stroke : ∃ most, later.strike most = some asked
  /-- The lookup has found nothing. -/
  missed : later.At key (.missed name (some ticket))
  /-- The connection is about to ask for a load. -/
  asking : asked.At key (.asking name)

/-- A stroke of a reactor that drives a connection is a step in its drive. `after` is where the
reactor stands if that was the last one. -/
theorem driven_of_thread {slot : Slot} (hthread : state.thread.driven? = some key)
    (hslot : state.reactor.conns.get? key = some slot) (hstrike : state.strike most = some next) :
    ∃ after : Thread, after.driven? = none ∧ Driven state key slot state.thread after next := by
  rcases hat : state.thread with _ | _ | _ | ⟨driven, batch, signalled⟩ | _ | _ | ⟨driven, keys⟩ | _
  all_goals rw [hat] at hthread
  case serve =>
    obtain rfl := Option.some.inj hthread
    rw [strike, hat] at hstrike
    obtain rfl := Option.some.inj hstrike
    exact ⟨.dispatch batch signalled, rfl, driven_stepDrive hslot _ _⟩
  case reviving =>
    obtain rfl := Option.some.inj hthread
    rw [strike, hat] at hstrike
    obtain rfl := Option.some.inj hstrike
    exact ⟨.revive keys, rfl, driven_stepDrive hslot _ _⟩
  all_goals cases hthread

/-- Where the reactor drives one connection before and after a stroke, the stroke is a step in the
drive of it, and not the last. -/
theorem At.step (h : state.At key phase) (hstrike : state.strike most = some next)
    {reached : Phase} (hnext : next.At key reached) :
    ∃ turn result : Turn, turn.conn.phase = phase ∧ turn.hub = state.reactor.shop.hub ∧
      turn.step state.reactor.settings = .on result ∧ result.conn.phase = reached ∧
      next.reactor.shop.hub = result.hub := by
  obtain ⟨hthread, hphase⟩ := h
  obtain ⟨hdriven, hreached⟩ := hnext
  obtain ⟨slot, hslot, rfl⟩ := Option.map_eq_some_iff.1 hphase
  obtain ⟨after, hafter, hstroke⟩ := driven_of_thread hthread hslot hstrike
  rcases hstroke with ⟨hstep⟩ | ⟨hstep⟩
  · rename_i result
    refine ⟨state.reactor.turn slot, result, rfl, rfl, hstep, ?_, rfl⟩
    have hback : (state.reactor.putBack key slot result).conns.get? key
        = some { slot with conn := result.conn } := by
      rw [Reactor.putBack, Slab.get?_modify_of_get? hslot, if_pos rfl]
    rw [hback] at hreached
    exact Option.some.inj hreached
  · rw [show _ = none from hafter] at hdriven
    cases hdriven

/-- What is not found is not there, and looking for it changes nothing that is shared. -/
theorem Misses.absent (h : before.Misses looked key name ticket)
    {entries : List (String × Content)} (hstocked : before.reactor.shop.hub.Stocked entries) :
    looked.reactor.shop.hub = before.reactor.shop.hub ∧
      before.reactor.shop.hub.cache.contains name = false := by
  obtain ⟨most, hstrike⟩ := h.stroke
  obtain ⟨turn, result, hphase, hhub, hstep, hreached, hlooked⟩ := h.resolving.step hstrike h.missed
  rw [← hhub] at hstocked ⊢
  have hresolve : turn.resolve before.reactor.settings name (some ticket) = .on result := by
    rw [Turn.step, hphase] at hstep
    exact hstep
  have habsent : turn.hub.cache.contains name = false := by
    rw [← hstocked.isSome_lookup]
    unfold Turn.resolve at hresolve
    simp only at hresolve
    split at hresolve
    · -- A connection that has found the content sends it.
      obtain rfl := Progress.on.inj hresolve
      cases hreached
    · rename_i hnone
      rw [hnone]
      rfl
  refine ⟨?_, habsent⟩
  simp only [Turn.resolve, Hub.lookup_of_absent habsent] at hresolve
  obtain rfl := Progress.on.inj hresolve
  exact hlooked

/-- A connection asks again for what is complete, and deciding on that changes nothing that is
shared. -/
theorem AsksAgain.complete (h : later.AsksAgain asked key name ticket) :
    asked.reactor.shop.hub = later.reactor.shop.hub ∧
      later.reactor.shop.hub.queue.isComplete ticket = true := by
  obtain ⟨most, hstrike⟩ := h.stroke
  obtain ⟨turn, result, hphase, hhub, hstep, hreached, hasked⟩ := h.missed.step hstrike h.asking
  rw [Turn.step, hphase] at hstep
  rw [← hhub]
  simp only [Turn.miss] at hstep
  split at hstep
  · rename_i hcomplete
    obtain rfl := Progress.on.inj hstep
    exact ⟨hasked, hcomplete⟩
  · cases hstep

/-- A connection that is about to ask again waits for the load so far. -/
theorem At.held (h : state.At key phase) : state.reactor.held key = phase.load? := by
  obtain ⟨slot, hslot, rfl⟩ := Option.map_eq_some_iff.1 h.2
  rw [Reactor.held, hslot]
  rfl

/-- What is not in the cache comes into it by being published. -/
theorem absent_follow {actions : List Action} {entries : List (String × Content)}
    (hstocked : state.reactor.shop.hub.Stocked entries)
    (habsent : state.reactor.shop.hub.cache.contains name = false)
    (hfollow : state.follow actions = some next)
    (hnone : ∀ publication ∈ state.published actions, publication.key ≠ name) :
    next.reactor.shop.hub.cache.contains name = false := by
  obtain ⟨there, hthere, hcontained⟩ := hstocked.exists_entries
  rw [← Bool.not_eq_true]
  intro hcontains
  obtain ⟨content, hmem⟩ := (stocked_follow hthere hfollow).mem_of_contains hcontains
  rcases List.mem_append.1 hmem with hold | hnew
  · have hin := hcontained (name, content) hold
    rw [habsent] at hin
    cases hin
  · obtain ⟨publication, hpublication, hentry⟩ := List.mem_map.1 hnew
    exact hnone publication hpublication (congrArg Prod.fst hentry)

/-- **A connection asks again** for what was published. In a run of the whole server, whenever the
drive of a connection looks for the content of its load, finds nothing, and after any strokes of
others goes on to ask for another load, the content was not in the cache at the lookup, and its load
was published before the connection asks. If nothing was published under the key since the lookup,
the load was published before the lookup, and the content is not in the cache now either. -/
theorem requeued (settings : Settings) (noDelay : Bool) (budget : Nat) (refusals : Refusals)
    (workers : Nat) {first between : List Action}
    (hfirst : (opening settings noDelay (.empty budget) refusals workers).follow first
      = some before)
    (hmiss : before.Misses looked key name ticket)
    (hbetween : looked.follow between = some later)
    (hagain : later.AsksAgain asked key name ticket) :
    let start := opening settings noDelay (.empty budget) refusals workers
    looked.reactor.shop.hub.cache.contains name = false ∧
    (∃ publication ∈ start.published first ++ looked.published between,
      publication.load = (name, ticket)) ∧
    ((∀ publication ∈ looked.published between, publication.key ≠ name) →
      (∃ publication ∈ start.published first, publication.load = (name, ticket)) ∧
        asked.reactor.shop.hub.cache.contains name = false) := by
  intro start
  obtain ⟨most, hlook⟩ := hmiss.stroke
  have hstocked := stocked_follow (Hub.stocked_empty budget) hfirst
  obtain ⟨hsame, habsent⟩ := hmiss.absent hstocked
  obtain ⟨hunchanged, hcomplete⟩ := hagain.complete
  rw [← hsame] at hstocked habsent
  -- The lookup publishes nothing.
  have hlooked : looked.Kept (start.published first ++ []) :=
    Kept.act ((kept_opening settings noDelay budget refusals workers).follow hfirst)
      (show before.act (.reactor most) = some looked from hlook)
  rw [List.append_nil] at hlooked
  have hload := (hlooked.follow hbetween).done key (name, ticket) hagain.missed.held hcomplete
  obtain ⟨publication, hmem, hpublication⟩ := List.mem_map.1 hload
  refine ⟨habsent, ⟨publication, hmem, hpublication⟩, ?_⟩
  intro hnone
  refine ⟨⟨publication, ?_, hpublication⟩, ?_⟩
  · apply (List.mem_append.1 hmem).resolve_right
    intro hlate
    exact hnone publication hlate (congrArg Prod.fst hpublication)
  · rw [hunchanged]
    exact absent_follow hstocked habsent hbetween hnone

/-- Two clients ask for a file each, and the reactor parks both connections. -/
def parked : List Action :=
  [.connect, .client 0 (.send (Text.encode "/a\n")), .connect,
    .client 1 (.send (Text.encode "/b\n"))] ++ List.replicate 20 (.reactor 8)

/-- A worker loads both files, and the second takes the place of the first. The reactor is about to
look for the first. -/
def displaced : List Action :=
  parked ++ List.replicate 4 (.worker 0 (.file [104])) ++
    List.replicate 4 (.worker 0 (.file [105])) ++ List.replicate 5 (.reactor 8)

/-- The content was published, and is not there any more, when the connection asks again. -/
theorem requeued_displaced : ∃ before looked asked,
    (opening ⟨[], true, false⟩ false (.empty 1) {} 1).follow displaced = some before ∧
      before.Misses looked 0 "a" ⟨0⟩ ∧ looked.AsksAgain asked 0 "a" ⟨0⟩ ∧
      (∃ publication ∈ (opening ⟨[], true, false⟩ false (.empty 1) {} 1).published displaced,
        publication.load = ("a", ⟨0⟩)) ∧
      asked.reactor.shop.hub.cache.contains "a" = false := by
  have hrun : (((opening ⟨[], true, false⟩ false (.empty 1) {} 1).follow displaced).bind
      fun before => (before.strike 8).bind fun looked => (looked.strike 8).map fun asked =>
        decide (before.At 0 (.resolving "a" (some ⟨0⟩)) ∧ looked.At 0 (.missed "a" (some ⟨0⟩)) ∧
          asked.At 0 (.asking "a"))) = some true := by
    decide +kernel
  obtain ⟨before, hfirst, hrest⟩ := Option.bind_eq_some_iff.1 hrun
  obtain ⟨looked, hlook, hrest⟩ := Option.bind_eq_some_iff.1 hrest
  obtain ⟨asked, hask, hat⟩ := Option.map_eq_some_iff.1 hrest
  obtain ⟨hresolving, hmissed, hasking⟩ := of_decide_eq_true hat
  have hmiss : before.Misses looked 0 "a" ⟨0⟩ := ⟨⟨8, hlook⟩, hresolving, hmissed⟩
  have hagain : looked.AsksAgain asked 0 "a" ⟨0⟩ := ⟨⟨8, hask⟩, hmissed, hasking⟩
  have hnothing : looked.follow [] = some looked := rfl
  obtain ⟨-, -, hearlier⟩ := requeued _ _ _ _ _ hfirst hmiss hnothing hagain
  refine ⟨before, looked, asked, hfirst, hmiss, hagain, hearlier ?_⟩
  intro publication hmem
  cases hmem

/-- A worker loads the first file, and the reactor is about to look for the second. -/
def ahead : List Action :=
  parked ++ List.replicate 4 (.worker 0 (.file [104])) ++ List.replicate 11 (.reactor 8)

/-- The worker takes the second load, publishes the content and marks the ticket. -/
def late : List Action := List.replicate 3 (.worker 0 (.file [105]))

/-- A content that comes between the lookup and the look at the ticket is not seen. Everything that
was published is in the cache, no other load of the key is asked for, and yet the connection asks
for its content a second time. -/
theorem requeued_unseen : ∃ before looked later asked after,
    (opening ⟨[], true, false⟩ false (.empty 100) {} 1).follow ahead = some before ∧
      before.Misses looked 1 "b" ⟨1⟩ ∧ looked.follow late = some later ∧
      later.AsksAgain asked 1 "b" ⟨1⟩ ∧
      (∀ publication ∈ (opening ⟨[], true, false⟩ false (.empty 100) {} 1).published ahead ++
        looked.published late,
        asked.reactor.shop.hub.cache.contains publication.key = true) ∧
      asked.reactor.shop.hub.cache.contains "b" = true ∧
      asked.reactor.shop.hub.queue.tasks = [] ∧
      asked.strike 8 = some after ∧ after.reactor.shop.hub.queue.tasks = [.load "b" ⟨2⟩] := by
  have hrun : (((opening ⟨[], true, false⟩ false (.empty 100) {} 1).follow ahead).bind
      fun before => (before.strike 8).bind fun looked => (looked.follow late).bind fun later =>
        (later.strike 8).bind fun asked => (asked.strike 8).map fun after =>
          decide (before.At 1 (.resolving "b" (some ⟨1⟩)) ∧
            looked.At 1 (.missed "b" (some ⟨1⟩)) ∧ later.At 1 (.missed "b" (some ⟨1⟩)) ∧
            asked.At 1 (.asking "b") ∧
            (∀ publication ∈
              (opening ⟨[], true, false⟩ false (.empty 100) {} 1).published ahead ++
                looked.published late,
              asked.reactor.shop.hub.cache.contains publication.key = true) ∧
            asked.reactor.shop.hub.cache.contains "b" = true ∧
            asked.reactor.shop.hub.queue.tasks = [] ∧
            after.reactor.shop.hub.queue.tasks = [.load "b" ⟨2⟩])) = some true := by
    decide +kernel
  obtain ⟨before, hfirst, hrest⟩ := Option.bind_eq_some_iff.1 hrun
  obtain ⟨looked, hlook, hrest⟩ := Option.bind_eq_some_iff.1 hrest
  obtain ⟨later, hlate, hrest⟩ := Option.bind_eq_some_iff.1 hrest
  obtain ⟨asked, hask, hrest⟩ := Option.bind_eq_some_iff.1 hrest
  obtain ⟨after, hafter, hat⟩ := Option.map_eq_some_iff.1 hrest
  obtain ⟨hresolving, hmissed, hlater, hasking, hcached, hcontains, hempty, hqueued⟩ :=
    of_decide_eq_true hat
  exact ⟨before, looked, later, asked, after, hfirst, ⟨⟨8, hlook⟩, hresolving, hmissed⟩, hlate,
    ⟨⟨8, hask⟩, hlater, hasking⟩, hcached, hcontains, hempty, hafter, hqueued⟩

end Threads

end FileServer
