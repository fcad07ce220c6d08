import FileServer.Proofs.Network
import FileServer.Proofs.Reactor.Ownership

/-!
# Connections that come in, and events that are taken

A client that connects waits in the backlog until its socket is accepted, and is then in the hands
of the poller (`Owned.connect`, `Owned.acceptAll`). A wait takes connections out of the hands of
the poller: those in whose events it ends, in their order, and each once (`Owned.wait`).
-/

namespace FileServer

/-- The connection that an event is about. -/
def Event.key? (event : Event) : Option Nat :=
  match event.token with
  | .connection key => some key
  | _ => none

/-- The connections that some events are about. -/
def Event.keys (events : List Event) : List Nat := events.filterMap Event.key?

/-- An event with a key is one of a connection. -/
theorem Event.token_of_key? {event : Event} {key : Nat} (h : event.key? = some key) :
    event.token = .connection key := by
  rw [Event.key?] at h
  split at h
  · rename_i found hfound
    rw [hfound, Option.some.inj h]
  · cases h

/-- An event of a connection is about it. -/
theorem Event.keys_cons {event : Event} {key : Nat} (htoken : event.token = .connection key)
    (batch : List Event) : Event.keys (event :: batch) = key :: Event.keys batch := by
  apply List.filterMap_cons_some
  rw [Event.key?, htoken]

/-- An event of anything else is about none. -/
theorem Event.keys_cons_of_key? {event : Event} (hkey : event.key? = none) (batch : List Event) :
    Event.keys (event :: batch) = Event.keys batch :=
  List.filterMap_cons_none hkey

namespace Reactor

variable {reactor : Reactor} {held parked : List Nat} {socket : Nat}

/-! ### Connecting and accepting -/

/-- A socket that no connection has, and that does not wait for one. -/
structure Loose (reactor : Reactor) (socket : Nat) : Prop where
  /-- It exists. -/
  lt : socket < reactor.network.sockets.size
  /-- It is not in the backlog. -/
  notMem : socket ∉ reactor.network.backlog
  /-- It is not a connection's. -/
  ne : ∀ key slot, reactor.conns.get? key = some slot → slot.socket ≠ socket

/-- A socket that a connection has, or had. -/
def Settled (reactor : Reactor) (socket : Nat) : Prop :=
  socket < reactor.network.sockets.size ∧ socket ∉ reactor.network.backlog

/-- A client that connects leaves those settled who are. -/
theorem Settled.connect (h : reactor.Settled socket) : reactor.connect.2.Settled socket := by
  refine ⟨?_, ?_⟩
  · show socket < (reactor.network.sockets.push .fresh).size
    rw [Array.size_push]
    exact Nat.lt_succ_of_lt h.1
  · show socket ∉ reactor.network.backlog ++ [reactor.network.sockets.size]
    intro hmem
    rcases List.mem_append.1 hmem with hold | hnew
    · exact h.2 hold
    · exact absurd h.1 (List.mem_singleton.1 hnew ▸ Nat.lt_irrefl _)

/-- The new socket is the last in the backlog. -/
theorem backlog_connect (hnodup : reactor.network.backlog.Nodup)
    (hlt : ∀ socket ∈ reactor.network.backlog, socket < reactor.network.sockets.size) :
    reactor.connect.2.network.backlog.Nodup ∧
      ∀ socket ∈ reactor.connect.2.network.backlog,
        socket < reactor.connect.2.network.sockets.size := by
  have hsize : reactor.connect.2.network.sockets.size = reactor.network.sockets.size + 1 :=
    Array.size_push _
  have hbacklog : reactor.connect.2.network.backlog
      = reactor.network.backlog ++ [reactor.network.sockets.size] := rfl
  rw [hbacklog, hsize, List.nodup_append]
  refine ⟨⟨hnodup, List.nodup_singleton _, ?_⟩, ?_⟩
  · intro one hone two htwo
    rw [List.mem_singleton.1 htwo]
    exact Nat.ne_of_lt (hlt one hone)
  · intro socket hsocket
    rcases List.mem_append.1 hsocket with hold | hnew
    · exact Nat.lt_succ_of_lt (hlt socket hold)
    · rw [List.mem_singleton.1 hnew]
      exact Nat.lt_succ_self _

/-! ### Taking a client in -/

/-- What becomes of a client whose socket was asked for. -/
inductive Registered (reactor : Reactor) (socket : Nat) : Reactor → Prop where
  /-- It gets no slot and no watch. -/
  | dismissed {network : Net.Network} {poller : Poller}
      (hnetwork : reactor.network.SameWires network)
      (hwatch : ∀ source, poller.watch? source = reactor.poller.watch? source)
      (hpending : reactor.poller.pending ⊆ poller.pending)
      (hrefusals : poller.refusals ⊆ reactor.poller.refusals) :
      Registered reactor socket { reactor with network, poller }
  /-- It gets a slot, and its watch is armed for reading. -/
  | taken {network : Net.Network} {poller : Poller}
      (hnetwork : reactor.network.SameWires network)
      (hwatch : ∀ source, poller.watch? source = if source = .socket socket then
          some (Slot.watch ⟨.fresh, socket, false⟩ reactor.conns.nextKey .readable true)
        else reactor.poller.watch? source)
      (hpending : reactor.poller.pending ⊆ poller.pending)
      (hrefusals : poller.refusals ⊆ reactor.poller.refusals) :
      Registered reactor socket ({ reactor with
        network
        poller
        conns := reactor.conns.insert ⟨.fresh, socket, false⟩ }.count
          fun counters => { counters with accepted := counters.accepted + 1 })

/-- **Registering** a socket gives it a slot and a watch, or neither. -/
theorem registered_register (reactor : Reactor) (socket : Nat) :
    Registered reactor socket (reactor.register socket).2 := by
  have hoptions := Net.Network.sameWires_setOptions socket reactor.options reactor.network
  unfold register
  split
  · rename_i network hnetwork
    rw [hnetwork] at hoptions
    exact .dismissed (hoptions.trans (.modify network socket fun _ => rfl)) (fun _ => rfl)
      (List.Subset.refl _) (List.Subset.refl _)
  · rename_i network hnetwork
    rw [hnetwork] at hoptions
    simp only
    split
    · rename_i poller hadd
      refine .dismissed (hoptions.trans (.modify network socket fun _ => rfl))
        (Poller.watch?_add_of_refused hadd) (fun _ => Poller.mem_pending_add hadd) ?_
      rw [Poller.refusals_add hadd]
      exact fun _ => List.mem_of_mem_tail
    · rename_i poller hadd
      refine .taken hoptions (Poller.watch?_add hadd) (fun _ => Poller.mem_pending_add hadd) ?_
      rw [Poller.refusals_add hadd]
      exact fun _ => List.mem_of_mem_tail

namespace Registered

variable {next : Reactor} (h : Registered reactor socket next)
include h

/-- All streams are as they were, and the same clients wait. -/
theorem sameWires : reactor.network.SameWires next.network := by
  cases h with
  | dismissed hnetwork _ _ _ => exact hnetwork
  | taken hnetwork _ _ _ => exact hnetwork

/-- Under a key is what was there, or a new connection, which is watched under it. -/
theorem conns (key : Nat) : next.conns.get? key = reactor.conns.get? key ∨
    reactor.conns.get? key = none ∧ next.conns.get? key = some ⟨.fresh, socket, false⟩ ∧
      next.poller.watch? (.socket socket)
        = some (Slot.watch ⟨.fresh, socket, false⟩ key .readable true) := by
  cases h with
  | dismissed => exact Or.inl rfl
  | taken _ hwatch =>
      have hinsert := Slab.get?_insert reactor.conns ⟨.fresh, socket, false⟩ key
      split at hinsert
      · rename_i heq
        subst heq
        exact Or.inr ⟨reactor.conns.get?_nextKey, hinsert, (hwatch _).trans (if_pos rfl)⟩
      · exact Or.inl hinsert

/-- The connections that were there stay. -/
theorem conns_of_some {key : Nat} {slot : Slot} (hslot : reactor.conns.get? key = some slot) :
    next.conns.get? key = some slot := by
  rcases h.conns key with hsame | ⟨hnone, -⟩
  · exact hsame.trans hslot
  · rw [hslot] at hnone
    cases hnone

/-- A connection is the new one, or one that was there. -/
theorem conns_or {key : Nat} {slot : Slot} (hslot : next.conns.get? key = some slot) :
    slot = ⟨.fresh, socket, false⟩ ∨ reactor.conns.get? key = some slot := by
  rcases h.conns key with hsame | ⟨-, hnew, -⟩
  · exact Or.inr (hsame.symm.trans hslot)
  · exact Or.inl (Option.some.inj (hslot.symm.trans hnew))

/-- A watch is that of the new connection, or one that was there. -/
theorem watch?_or {source : Source} {watch : Watch}
    (hwatch : next.poller.watch? source = some watch) :
    source = .socket socket ∧
        (∃ key, watch = Slot.watch ⟨.fresh, socket, false⟩ key .readable true ∧
          next.conns.get? key = some ⟨.fresh, socket, false⟩) ∨
      reactor.poller.watch? source = some watch := by
  cases h with
  | dismissed _ hsame => exact Or.inr ((hsame source).symm.trans hwatch)
  | taken _ hnew =>
      have hnew := (hnew source).symm.trans hwatch
      split at hnew
      · rename_i heq
        refine Or.inl ⟨heq, reactor.conns.nextKey, (Option.some.inj hnew).symm, ?_⟩
        exact (Slab.get?_insert _ _ _).trans (if_pos rfl)
      · exact Or.inr hnew

/-- The watches of others stay. -/
theorem watch?_of_ne {source : Source} (hne : source ≠ .socket socket) :
    next.poller.watch? source = reactor.poller.watch? source := by
  cases h with
  | dismissed _ hsame => exact hsame source
  | taken _ hnew => exact (hnew source).trans (if_neg hne)

end Registered

/-- Registering a loose socket leaves all connections on different sockets. -/
theorem Loose.distinct_registered {next : Reactor} (hloose : reactor.Loose socket)
    (hnext : Registered reactor socket next)
    (h : ∀ key other slot rival, reactor.conns.get? key = some slot →
      reactor.conns.get? other = some rival → slot.socket = rival.socket → key = other)
    {first second : Nat} {one two : Slot} (hone : next.conns.get? first = some one)
    (htwo : next.conns.get? second = some two) (hsame : one.socket = two.socket) :
    first = second := by
  cases hnext with
  | dismissed => exact h first second one two hone htwo hsame
  | taken =>
      have hone' := (Slab.get?_insert _ _ first).symm.trans hone
      have htwo' := (Slab.get?_insert _ _ second).symm.trans htwo
      split at hone' <;> split at htwo'
      · rename_i hfirst hsecond
        rw [hfirst, hsecond]
      · obtain rfl := Option.some.inj hone'
        exact absurd hsame.symm (hloose.ne second two htwo')
      · obtain rfl := Option.some.inj htwo'
        exact absurd hsame (hloose.ne first one hone')
      · exact h first second one two hone' htwo' hsame

/-- Registering a loose socket settles it, and leaves those settled who are. -/
theorem Loose.settled_registered {next : Reactor} (hloose : reactor.Loose socket)
    (hnext : Registered reactor socket next)
    (h : ∀ key slot, reactor.conns.get? key = some slot → reactor.Settled slot.socket)
    {key : Nat} {slot : Slot} (hslot : next.conns.get? key = some slot) :
    next.Settled slot.socket := by
  rw [Settled, hnext.sameWires.size, hnext.sameWires.backlog]
  rcases hnext.conns_or hslot with rfl | hold
  · exact ⟨hloose.lt, hloose.notMem⟩
  · exact h key slot hold

/-! ### Accepting -/

/-- What accepting comes to: clients leave the backlog in their order, each to be taken in or
dismissed, until none waits or a request for one fails. -/
inductive Accepted : Reactor → Reactor → Prop where
  /-- No client is accepted any more. -/
  | done (reactor : Reactor) (faults : List (Option Fault)) :
      Accepted reactor { reactor with network.faults := faults }
  /-- The first client is, and then others may be. -/
  | client {reactor next last : Reactor} {socket : Nat} {backlog : List Nat}
      {faults : List (Option Fault)} (hbacklog : reactor.network.backlog = socket :: backlog)
      (hfirst : Registered { reactor with network := { reactor.network with faults, backlog } }
        socket next)
      (hrest : Accepted next last) : Accepted reactor last

/-- The faults that are still to come do not matter. -/
theorem Accepted.of_faults {faults : List (Option Fault)} {last : Reactor}
    (h : Accepted { reactor with network.faults := faults } last) : Accepted reactor last := by
  cases h with
  | done _ others => exact .done reactor others
  | client hbacklog hfirst hrest => exact .client hbacklog hfirst hrest

/-- The client in front of the backlog is loose once it is taken off. -/
theorem loose_of_backlog {backlog : List Nat} (faults : List (Option Fault))
    (hbacklog : reactor.network.backlog = socket :: backlog)
    (hnodup : reactor.network.backlog.Nodup)
    (hlt : ∀ other ∈ reactor.network.backlog, other < reactor.network.sockets.size)
    (haccepted : ∀ key slot, reactor.conns.get? key = some slot → reactor.Settled slot.socket) :
    Loose { reactor with network := { reactor.network with faults, backlog } } socket := by
  have hmem : socket ∈ reactor.network.backlog := hbacklog ▸ List.mem_cons_self
  refine ⟨hlt socket hmem, (List.nodup_cons.1 (hbacklog ▸ hnodup)).1, ?_⟩
  rintro key slot hslot rfl
  exact (haccepted key slot hslot).2 hmem

/-- Who is settled stays so when a client is taken off the backlog. -/
theorem Settled.unqueue {other : Nat} {backlog : List Nat} (faults : List (Option Fault))
    (h : reactor.Settled socket) (hbacklog : reactor.network.backlog = other :: backlog) :
    Settled { reactor with network := { reactor.network with faults, backlog } } socket :=
  ⟨h.1, mt (fun hmem => hbacklog ▸ List.mem_cons_of_mem _ hmem) h.2⟩

/-- **Accepting** clients, whatever becomes of the requests for them. -/
theorem accepted_acceptAll (reactor : Reactor) : Accepted reactor reactor.acceptAll := by
  induction reactor using acceptAll.induct with
  | case1 reactor socket network haccept ih =>
      rw [acceptAll, haccept]
      obtain ⟨faults, backlog, hbacklog, rfl⟩ := Net.Network.exists_of_accept haccept
      exact .client hbacklog (registered_register _ socket) ih
  | case2 reactor network haccept ih =>
      rw [acceptAll, haccept]
      obtain ⟨faults, rfl⟩ := Net.Network.exists_of_accept_error haccept
      exact ih.of_faults
  | case3 reactor cause network hcause haccept =>
      have hend : reactor.acceptAll = { reactor with network } := by
        rw [acceptAll, haccept]
        simp
      obtain ⟨faults, rfl⟩ := Net.Network.exists_of_accept_error haccept
      rw [hend]
      exact .done reactor faults

namespace Owned

/-- The client in front of the backlog is asked for. -/
theorem unqueue {backlog : List Nat} (faults : List (Option Fault))
    (h : reactor.Owned held parked) (hbacklog : reactor.network.backlog = socket :: backlog) :
    Owned held parked { reactor with network := { reactor.network with faults, backlog } } := by
  have hrest : backlog ⊆ reactor.network.backlog := hbacklog ▸ List.subset_cons_self _ _
  exact {
    owner := h.owner
    held_nodup := h.held_nodup
    parked_nodup := h.parked_nodup
    held_open := h.held_open
    parked_open := h.parked_open
    distinct := h.distinct
    watched := h.watched
    listener := h.listener
    notifier := h.notifier
    accepted := fun key slot hslot => Settled.unqueue faults (h.accepted key slot hslot) hbacklog
    backlog_nodup := (List.nodup_cons.1 (hbacklog ▸ h.backlog_nodup)).2
    backlog_lt := fun other hother => h.backlog_lt other (hrest hother) }

/-- **A new connection** is in the hands of the poller, and a client that is dismissed in nobody's.
-/
theorem registered {next : Reactor} (h : reactor.Owned held parked)
    (hloose : reactor.Loose socket) (hnext : Registered reactor socket next) :
    next.Owned held parked := by
  have hopen : ∀ other, (reactor.conns.get? other).isSome → (next.conns.get? other).isSome := by
    intro other hsome
    obtain ⟨rival, hrival⟩ := Option.isSome_iff_exists.1 hsome
    rw [hnext.conns_of_some hrival]
    rfl
  have hvacant : ∀ {key : Nat} {keys : List Nat}, reactor.conns.get? key = none →
      (∀ other ∈ keys, (reactor.conns.get? other).isSome) → key ∉ keys := by
    intro key keys hnone hopen hmem
    have hsome := hopen key hmem
    rw [hnone] at hsome
    cases hsome
  refine {
    owner := ?_
    held_nodup := h.held_nodup
    parked_nodup := h.parked_nodup
    held_open := fun other hmem => hopen other (h.held_open other hmem)
    parked_open := fun other hmem => hopen other (h.parked_open other hmem)
    distinct := fun _ _ _ _ hone htwo hsame =>
      hloose.distinct_registered hnext h.distinct hone htwo hsame
    watched := ?_
    listener := (hnext.watch?_of_ne (by simp)).trans h.listener
    notifier := (hnext.watch?_of_ne (by simp)).trans h.notifier
    accepted := fun _ _ hslot => hloose.settled_registered hnext h.accepted hslot
    backlog_nodup := hnext.sameWires.backlog ▸ h.backlog_nodup
    backlog_lt := by
      rw [hnext.sameWires.size, hnext.sameWires.backlog]
      exact h.backlog_lt }
  · intro other rival hrival
    rcases hnext.conns other with hsame | ⟨hnone, hnew, hwatch⟩
    · have hget := hsame.symm.trans hrival
      have hne := hloose.ne other rival hget
      exact (h.owner other rival hget).congr (hnext.watch?_of_ne (by simpa using hne))
        Iff.rfl Iff.rfl
    · obtain rfl := Option.some.inj (hrival.symm.trans hnew)
      exact .poller .readable hwatch rfl rfl (hvacant hnone h.held_open)
        (hvacant hnone h.parked_open)
  · intro number watch hsome
    rcases hnext.watch?_or hsome with ⟨heq, key, -, hget⟩ | hold
    · exact ⟨key, _, hget, (Source.socket.inj heq).symm⟩
    · obtain ⟨other, rival, hrival, hsame⟩ := h.watched number watch hold
      exact ⟨other, rival, hnext.conns_of_some hrival, hsame⟩

/-- **Accepting** clients keeps everything in the hands of its owner. -/
theorem acceptAll (h : reactor.Owned held parked) : reactor.acceptAll.Owned held parked := by
  have haccepted := reactor.accepted_acceptAll
  generalize reactor.acceptAll = last at haccepted
  induction haccepted with
  | done reactor faults => exact h.congr rfl (fun _ => rfl) rfl rfl
  | @client reactor _ _ _ _ faults hbacklog hfirst _ ih =>
      have hloose :=
        loose_of_backlog faults hbacklog h.backlog_nodup h.backlog_lt h.accepted
      exact ih ((h.unqueue faults hbacklog).registered hloose hfirst)

/-- A client that connects waits to be accepted. -/
theorem connect (h : reactor.Owned held parked) : reactor.connect.2.Owned held parked := by
  have hwatch : ∀ source, reactor.connect.2.poller.watch? source = reactor.poller.watch? source :=
    fun source => Poller.watch?_raise _ _ _ _
  obtain ⟨hnodup, hlt⟩ := backlog_connect h.backlog_nodup h.backlog_lt
  exact {
    owner := fun key slot hslot => (h.owner key slot hslot).congr (hwatch _) Iff.rfl Iff.rfl
    held_nodup := h.held_nodup
    parked_nodup := h.parked_nodup
    held_open := h.held_open
    parked_open := h.parked_open
    distinct := h.distinct
    watched := fun socket watch hsome => h.watched socket watch ((hwatch _).symm.trans hsome)
    listener := (hwatch _).trans h.listener
    notifier := (hwatch _).trans h.notifier
    accepted := fun key slot hslot => Settled.connect (h.accepted key slot hslot)
    backlog_nodup := hnodup
    backlog_lt := hlt }

/-! ### Waiting -/

/-- An event of a lasting watch takes nothing out of the hands of the poller. -/
theorem spend_lasting {source : Source} {watch : Watch} (h : reactor.Owned held parked)
    (hwatch : reactor.poller.watch? source = some watch) (hlasting : watch.oneShot = false) :
    Owned held parked { reactor with poller := reactor.poller.disarm source } := by
  refine h.congr rfl (fun other => ?_) rfl rfl
  refine (Poller.watch?_disarm reactor.poller source other).trans ?_
  split
  · rename_i heq
    rw [heq, hwatch, Option.map_some, Watch.spent, hlasting, if_neg Bool.false_ne_true]
  · rfl

/-- An event of a connection puts it into the hands of the reactor. -/
theorem spend_socket {watch : Watch} (h : reactor.Owned held parked)
    (hwatch : reactor.poller.watch? (.socket socket) = some watch) (harmed : watch.armed = true) :
    ∃ key, watch.token = .connection key ∧
      Owned (held ++ [key]) parked
        { reactor with poller := reactor.poller.disarm (.socket socket) } := by
  obtain ⟨key, slot, hslot, rfl⟩ := h.watched socket watch hwatch
  have hdisarm := Poller.watch?_disarm reactor.poller (.socket slot.socket)
  cases h.owner key slot hslot with
  | reactor interest hold =>
      rw [hwatch] at hold
      obtain rfl := Option.some.inj hold
      cases harmed
  | load interest hold =>
      rw [hwatch] at hold
      obtain rfl := Option.some.inj hold
      cases harmed
  | poller interest hold hfits hflag hnot hunlisted =>
      rw [hwatch] at hold
      obtain rfl := Option.some.inj hold
      refine ⟨key, rfl, h.move slot hslot ?_ rfl ?_ rfl rfl ⟨?_, ?_⟩
        ⟨h.parked_nodup, fun _ _ => Iff.rfl⟩ ?_⟩
      · intro other
        split
        · rename_i heq
          exact heq ▸ hslot
        · rfl
      · intro source hne
        exact (hdisarm source).trans (if_neg hne)
      · rw [List.nodup_append]
        refine ⟨h.held_nodup, List.nodup_singleton key, ?_⟩
        intro one hone two htwo
        rw [List.mem_singleton.1 htwo]
        intro heq
        exact hnot (heq ▸ hone)
      · intro other hne
        simp [hne]
      · refine .reactor interest ?_ hflag (by simp) hunlisted
        refine (hdisarm _).trans ?_
        rw [if_pos rfl, hwatch]
        rfl

/-- **A wait** takes every connection that it reports, once. -/
theorem wait {poller next : Poller} {events : List Event}
    (hcollected : Poller.Collected poller events next)
    (h : Owned held parked { reactor with poller }) :
    Owned (held ++ Event.keys events) parked { reactor with poller := next } := by
  induction hcollected generalizing held with
  | done pending =>
      rw [Event.keys, List.filterMap_nil, List.append_nil]
      exact h.congr rfl (fun _ => rfl) rfl rfl
  | @event poller next source watch ready events hwatch harmed _ ih =>
      cases source with
      | socket socket =>
          obtain ⟨key, htoken, hspent⟩ := h.spend_socket hwatch harmed
          rw [Event.keys_cons htoken, List.append_cons]
          exact ih hspent
      | listener =>
          obtain rfl := Option.some.inj (hwatch.symm.trans h.listener)
          rw [Event.keys_cons_of_key? rfl]
          exact ih (h.spend_lasting hwatch rfl)
      | notifier =>
          obtain rfl := Option.some.inj (hwatch.symm.trans h.notifier)
          rw [Event.keys_cons_of_key? rfl]
          exact ih (h.spend_lasting hwatch rfl)

end Owned

end Reactor

end FileServer
