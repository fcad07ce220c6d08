import FileServer.Proofs.Reactor.Events

/-!
# Keys, tokens and sockets

The token of a watch is a bare key, and a key is given again once its connection is closed. What
stays with a connection is its socket. `Keyed` ties them: a watch with the token of a key is on the
socket of the connection that stands under the key, and no two connections have one socket. Nothing
is asked of who owns a connection, so this holds whatever a wait ends in.

Acting on the connection under a key (`Acted`) leaves all others, and a connection that it closes is
not watched any more; accepting adds connections, on sockets that were not a connection's before.
Both keep `Keyed`.
-/

namespace FileServer.Reactor

variable {reactor next last : Reactor} {key other socket : Nat} {slot : Slot}

/-- Watches and connections belong together. -/
structure Keyed (reactor : Reactor) : Prop where
  /-- A watch with the token of a connection is on its socket. -/
  watched : ∀ source watch key, reactor.poller.watch? source = some watch →
    watch.token = .connection key →
    ∃ slot, reactor.conns.get? key = some slot ∧ source = .socket slot.socket
  /-- No two connections have the same socket. -/
  distinct : ∀ key other slot rival, reactor.conns.get? key = some slot →
    reactor.conns.get? other = some rival → slot.socket = rival.socket → key = other
  /-- The sockets of connections are accepted. -/
  accepted : ∀ key slot, reactor.conns.get? key = some slot → reactor.Settled slot.socket
  /-- No socket waits twice to be accepted. -/
  backlog_nodup : reactor.network.backlog.Nodup
  /-- Sockets that wait to be accepted exist. -/
  backlog_lt : ∀ socket ∈ reactor.network.backlog, socket < reactor.network.sockets.size

/-! ### Acting on one connection -/

/-- What acting on the connection under a key leaves as it is. -/
structure Acted (reactor : Reactor) (key : Nat) (next : Reactor) : Prop where
  /-- All other connections. -/
  others : ∀ other, other ≠ key → next.conns.get? other = reactor.conns.get? other
  /-- The socket of the connection. -/
  socket : ∀ slot after, reactor.conns.get? key = some slot → next.conns.get? key = some after →
    after.socket = slot.socket
  /-- A vacant key. -/
  vacant : reactor.conns.get? key = none → next.conns.get? key = none
  /-- The list, unless the connection is parked. -/
  listed : next.waiting = reactor.waiting ∨
    next.waiting = reactor.waiting ++ [key] ∧ (next.conns.get? key).isSome
  /-- The flag, unless the connection is parked. -/
  flag : ∀ slot after, reactor.conns.get? key = some slot → next.conns.get? key = some after →
    after.parked = true → slot.parked = true ∨ next.waiting = reactor.waiting ++ [key]
  /-- The tokens of the watches. -/
  keeps : reactor.poller.Keeps next.poller
  /-- Nothing of a connection that is closed is watched. -/
  closed : ∀ slot, reactor.conns.get? key = some slot → next.conns.get? key = none →
    next.poller.watch? (.socket slot.socket) = none
  /-- The number of sockets. -/
  size : next.network.sockets.size = reactor.network.sockets.size
  /-- Those who wait to be accepted. -/
  backlog : next.network.backlog = reactor.network.backlog

namespace Acted

/-- What leaves all connections alone counts as acting on whichever is named. -/
theorem of_eq (key : Nat) (hconns : next.conns = reactor.conns)
    (hwaiting : next.waiting = reactor.waiting) (hkeeps : reactor.poller.Keeps next.poller)
    (hsize : next.network.sockets.size = reactor.network.sockets.size)
    (hbacklog : next.network.backlog = reactor.network.backlog) : reactor.Acted key next where
  others _ _ := by rw [hconns]
  socket slot after hslot hafter := by
    rw [hconns, hslot] at hafter
    rw [Option.some.inj hafter]
  vacant := hconns ▸ id
  listed := Or.inl hwaiting
  flag slot after hslot hafter hparked := by
    rw [hconns, hslot] at hafter
    exact Or.inl (Option.some.inj hafter ▸ hparked)
  keeps := hkeeps
  closed slot hslot hnone := by
    rw [hconns, hslot] at hnone
    cases hnone
  size := hsize
  backlog := hbacklog

/-- The connection is changed, and keeps its socket. -/
theorem of_modify (hslot : reactor.conns.get? key = some slot) {f : Slot → Slot}
    (hsocket : (f slot).socket = slot.socket) (hconns : next.conns = reactor.conns.modify key f)
    (hwaiting : next.waiting = reactor.waiting ∧ ((f slot).parked = true → slot.parked = true) ∨
      next.waiting = reactor.waiting ++ [key])
    (hpoller : next.poller = reactor.poller)
    (hsize : next.network.sockets.size = reactor.network.sockets.size)
    (hbacklog : next.network.backlog = reactor.network.backlog) : reactor.Acted key next := by
  have hget := Slab.get?_modify_of_get? hslot f
  rw [← hconns] at hget
  have hself : next.conns.get? key = some (f slot) := (hget key).trans (if_pos rfl)
  refine {
    others := fun other hne => (hget other).trans (if_neg hne)
    socket := ?_
    vacant := ?_
    listed := hwaiting.imp And.left fun happended => ⟨happended, ?_⟩
    flag := ?_
    keeps := .of_eq fun _ => by rw [hpoller]
    closed := ?_
    size := hsize
    backlog := hbacklog }
  · intro old after hold hafter
    rw [hslot] at hold
    rw [hself] at hafter
    rw [← Option.some.inj hafter, ← Option.some.inj hold, hsocket]
  · intro hnone
    rw [hslot] at hnone
    cases hnone
  · rw [hself]
    rfl
  · intro old after hold hafter hparked
    obtain rfl := Option.some.inj (hslot.symm.trans hold)
    obtain rfl := Option.some.inj (hself.symm.trans hafter)
    exact hwaiting.imp (fun hsame => hsame.2 hparked) id
  · intro old _ hnone
    rw [hself] at hnone
    cases hnone

/-- The connection is acted on a second time, and is not parked the first time. -/
theorem trans (h : reactor.Acted key next) (hwaiting : next.waiting = reactor.waiting)
    (hlast : next.Acted key last) : reactor.Acted key last := by
  refine {
    others := fun other hne => (hlast.others other hne).trans (h.others other hne)
    socket := ?_
    vacant := fun hnone => hlast.vacant (h.vacant hnone)
    listed := hwaiting ▸ hlast.listed
    flag := ?_
    keeps := h.keeps.trans hlast.keeps
    closed := ?_
    size := hlast.size.trans h.size
    backlog := hlast.backlog.trans h.backlog }
  · intro slot after hslot hafter
    rcases hmiddle : next.conns.get? key with _ | middle
    · rw [hlast.vacant hmiddle] at hafter
      cases hafter
    · exact (hlast.socket middle after hmiddle hafter).trans (h.socket slot middle hslot hmiddle)
  · intro slot after hslot hafter hparked
    rcases hmiddle : next.conns.get? key with _ | middle
    · rw [hlast.vacant hmiddle] at hafter
      cases hafter
    · rcases hlast.flag middle after hmiddle hafter hparked with hflag | happended
      · rcases h.flag slot middle hslot hmiddle hflag with hbefore | happended
        · exact Or.inl hbefore
        · rw [hwaiting] at happended
          exact absurd (List.self_eq_append_right.1 happended) (List.cons_ne_nil _ _)
      · exact Or.inr (hwaiting ▸ happended)
  · intro slot hslot hnone
    rcases hmiddle : next.conns.get? key with _ | middle
    · rcases hwatch : last.poller.watch? (.socket slot.socket) with _ | watch
      · rfl
      · obtain ⟨old, hold, -⟩ := hlast.keeps _ watch hwatch
        rw [h.closed slot hslot hmiddle] at hold
        cases hold
    · rw [← h.socket slot middle hslot hmiddle]
      exact hlast.closed middle hmiddle hnone

/-- Every connection was there before, on the same socket. -/
theorem exists_before (h : reactor.Acted key next) {after : Slot}
    (hafter : next.conns.get? other = some after) :
    ∃ slot, reactor.conns.get? other = some slot ∧ slot.socket = after.socket := by
  by_cases hother : other = key
  · subst hother
    rcases hslot : reactor.conns.get? other with _ | slot
    · rw [h.vacant hslot] at hafter
      cases hafter
    · exact ⟨slot, rfl, (h.socket slot after hslot hafter).symm⟩
  · exact ⟨after, (h.others other hother).symm.trans hafter, rfl⟩

/-- Acting on a connection accepts nobody. -/
theorem settled (h : reactor.Acted key next) : next.Settled socket ↔ reactor.Settled socket := by
  rw [Settled, Settled, h.size, h.backlog]

end Acted

/-- Closing a connection acts on it alone. -/
theorem acted_close (reactor : Reactor) (key : Nat) : reactor.Acted key (reactor.close key) := by
  rcases hslot : reactor.conns.get? key with _ | slot
  · have hsame : reactor.close key = reactor := by rw [close, hslot]
    rw [hsame]
    exact .of_eq key rfl rfl (.of_eq fun _ => rfl) rfl rfl
  · have hget := get?_close reactor key
    have hnone : (reactor.close key).conns.get? key = none := (hget key).trans (if_pos rfl)
    have hkeeps := Poller.keeps_delete reactor.poller (.socket slot.socket)
    constructor
    case others => exact fun other hne => (hget other).trans (if_neg hne)
    case socket =>
      intro _ after _ hafter
      rw [hnone] at hafter
      cases hafter
    case vacant => exact fun _ => hnone
    case listed =>
      rw [close, hslot]
      exact Or.inl rfl
    case flag =>
      intro _ after _ hafter
      rw [hnone] at hafter
      cases hafter
    case keeps =>
      rw [close, hslot]
      exact hkeeps
    case closed =>
      intro old hold _
      obtain rfl := Option.some.inj (hslot.symm.trans hold)
      exact (watch?_close hslot _).trans (if_pos rfl)
    case size => exact size_close reactor key
    case backlog => exact backlog_close reactor key

/-- Arming the watch of a connection acts on it alone. -/
theorem acted_watch (reactor : Reactor) (key : Nat) (slot : Slot) (interest : Interest) :
    reactor.Acted key (reactor.watch key slot interest) := by
  unfold watch
  rcases hrearm : reactor.poller.rearm (.socket slot.socket) interest
    (reactor.network.ready slot.socket) with ⟨armed, poller⟩
  have hpoller : reactor.Acted key { reactor with poller } :=
    .of_eq key rfl rfl (Poller.keeps_rearm hrearm) rfl rfl
  cases armed with
  | false => exact hpoller.trans rfl (acted_close { reactor with poller } key)
  | true => exact hpoller

/-- **Whatever a connection gets**, the others are left alone. -/
theorem acted_provide (reactor : Reactor) (key : Nat) (need : Need) :
    reactor.Acted key (reactor.provide key need) := by
  unfold provide
  split
  · exact .of_eq key rfl rfl (.of_eq fun _ => rfl) rfl rfl
  · rename_i slot hslot
    cases need with
    | input => exact acted_watch reactor key slot .readable
    | output => exact acted_watch reactor key slot .writable
    | disk => exact .of_modify hslot rfl rfl (Or.inr rfl) rfl rfl rfl
    | close => exact acted_close reactor key

/-- A step in its drive acts on a connection alone. -/
theorem acted_putBack (hslot : reactor.conns.get? key = some slot) (turn : Turn) :
    reactor.Acted key (reactor.putBack key slot turn) :=
  .of_modify hslot rfl rfl (Or.inl ⟨rfl, id⟩) rfl Array.size_modify rfl

/-- What its client answers leaves all connections. -/
theorem acted_answer (reactor : Reactor) (key : Nat) (slot : Slot) :
    reactor.Acted key (reactor.answer slot) :=
  .of_eq key rfl rfl (.of_eq fun _ => rfl) Array.size_modify rfl

/-- The end of a drive acts on its connection alone. -/
theorem acted_conclude (hslot : reactor.conns.get? key = some slot) (need : Need) (turn : Turn) :
    reactor.Acted key (reactor.conclude key slot need turn) :=
  ((acted_putBack hslot turn).trans rfl (acted_answer _ key slot)).trans rfl
    (acted_provide _ key need)

/-- The beginning of its drive leaves all connections. -/
theorem acted_renew (reactor : Reactor) (key : Nat) (slot : Slot) :
    reactor.Acted key (reactor.renew slot) :=
  .of_eq key rfl rfl (.of_eq fun _ => rfl) Array.size_modify rfl

/-! ### Accepting -/

namespace Accepted

variable {last : Reactor} (h : Accepted reactor last)
include h

/-- Accepting adds new connections under vacant keys, on sockets that wait. -/
theorem conns (key : Nat) : last.conns.get? key = reactor.conns.get? key ∨
    reactor.conns.get? key = none ∧ ∃ socket ∈ reactor.network.backlog,
      last.conns.get? key = some ⟨.fresh, socket, false⟩ := by
  induction h with
  | done => exact Or.inl rfl
  | client hbacklog hfirst _ ih =>
      rw [hbacklog]
      rcases ih with hlast | ⟨hnone, socket, hmem, hnew⟩
      · rw [hlast]
        exact (hfirst.conns key).imp_right fun hnew =>
          ⟨hnew.1, _, List.mem_cons_self, hnew.2.1⟩
      · rw [hfirst.sameWires.backlog] at hmem
        rcases hfirst.conns key with hsame | ⟨-, hfound, -⟩
        · exact Or.inr ⟨hsame ▸ hnone, socket, List.mem_cons_of_mem _ hmem, hnew⟩
        · rw [hfound] at hnone
          cases hnone

/-- No socket comes or goes. -/
theorem size : last.network.sockets.size = reactor.network.sockets.size := by
  induction h with
  | done => rfl
  | client _ hfirst _ ih => exact ih.trans hfirst.sameWires.size

/-- Those who go on waiting have waited before. -/
theorem backlog_subset : last.network.backlog ⊆ reactor.network.backlog := by
  induction h with
  | done => exact List.Subset.refl _
  | client hbacklog hfirst _ ih =>
      rw [hfirst.sameWires.backlog] at ih
      rw [hbacklog]
      exact List.subset_cons_of_subset _ ih

/-- Accepting leaves those settled who are. -/
theorem settled (hsettled : reactor.Settled socket) : last.Settled socket :=
  ⟨h.size ▸ hsettled.1, mt (fun hmem => h.backlog_subset hmem) hsettled.2⟩

end Accepted

/-! ### What is kept -/

namespace Keyed

/-- **Acting on a connection** keeps watches and connections together. -/
theorem acted (h : reactor.Keyed) (hacted : reactor.Acted key next) : next.Keyed where
  watched source watch found hwatch htoken := by
    obtain ⟨old, hold, hsame⟩ := hacted.keeps source watch hwatch
    obtain ⟨slot, hslot, rfl⟩ := h.watched source old found hold (hsame.trans htoken)
    by_cases hfound : found = key
    · subst hfound
      rcases hafter : next.conns.get? found with _ | after
      · rw [hacted.closed slot hslot hafter] at hwatch
        cases hwatch
      · exact ⟨after, rfl, by rw [hacted.socket slot after hslot hafter]⟩
    · exact ⟨slot, (hacted.others found hfound).trans hslot, rfl⟩
  distinct first second one two hone htwo hsame := by
    obtain ⟨old, hold, heq⟩ := hacted.exists_before hone
    obtain ⟨old', hold', heq'⟩ := hacted.exists_before htwo
    exact h.distinct first second old old' hold hold' (by rw [heq, hsame, heq'])
  accepted found after hafter := by
    obtain ⟨slot, hslot, hsame⟩ := hacted.exists_before hafter
    rw [← hsame, hacted.settled]
    exact h.accepted found slot hslot
  backlog_nodup := hacted.backlog ▸ h.backlog_nodup
  backlog_lt := by
    rw [hacted.size, hacted.backlog]
    exact h.backlog_lt

/-- Only connections, tokens and the numbers of sockets matter. -/
theorem congr (h : reactor.Keyed) (hconns : next.conns = reactor.conns)
    (hkeeps : reactor.poller.Keeps next.poller)
    (hsize : next.network.sockets.size = reactor.network.sockets.size)
    (hbacklog : next.network.backlog = reactor.network.backlog) : next.Keyed where
  watched source watch key hwatch htoken := by
    obtain ⟨old, hold, hsame⟩ := hkeeps source watch hwatch
    rw [hconns]
    exact h.watched source old key hold (hsame.trans htoken)
  distinct := hconns ▸ h.distinct
  accepted := by
    rw [hconns]
    unfold Settled
    rw [hsize, hbacklog]
    exact h.accepted
  backlog_nodup := hbacklog ▸ h.backlog_nodup
  backlog_lt := by
    rw [hsize, hbacklog]
    exact h.backlog_lt

/-- **A new connection** is watched under its key, and nothing of a client that is dismissed. -/
theorem registered (h : reactor.Keyed) (hloose : reactor.Loose socket)
    (hnext : Registered reactor socket next) : next.Keyed where
  watched source watch key hwatch htoken := by
    rcases hnext.watch?_or hwatch with ⟨heq, found, rfl, hslot⟩ | hold
    · obtain rfl := Token.connection.inj htoken
      exact ⟨_, hslot, heq⟩
    · obtain ⟨slot, hslot, hsource⟩ := h.watched source watch key hold htoken
      exact ⟨slot, hnext.conns_of_some hslot, hsource⟩
  distinct _ _ _ _ hone htwo hsame := hloose.distinct_registered hnext h.distinct hone htwo hsame
  accepted _ _ hslot := hloose.settled_registered hnext h.accepted hslot
  backlog_nodup := hnext.sameWires.backlog ▸ h.backlog_nodup
  backlog_lt := by
    rw [hnext.sameWires.size, hnext.sameWires.backlog]
    exact h.backlog_lt

/-- The client in front of the backlog is asked for. -/
theorem unqueue {backlog : List Nat} (faults : List (Option Fault)) (h : reactor.Keyed)
    (hbacklog : reactor.network.backlog = socket :: backlog) :
    Keyed { reactor with network := { reactor.network with faults, backlog } } where
  watched := h.watched
  distinct := h.distinct
  accepted key slot hslot := (h.accepted key slot hslot).unqueue faults hbacklog
  backlog_nodup := (List.nodup_cons.1 (hbacklog ▸ h.backlog_nodup)).2
  backlog_lt other hother := h.backlog_lt other (hbacklog ▸ List.mem_cons_of_mem _ hother)

/-- **Accepting** clients. -/
theorem acceptAll (h : reactor.Keyed) : reactor.acceptAll.Keyed := by
  have haccepted := reactor.accepted_acceptAll
  generalize reactor.acceptAll = last at haccepted
  induction haccepted with
  | done => exact h.congr rfl (.of_eq fun _ => rfl) rfl rfl
  | @client reactor _ _ _ _ faults hbacklog hfirst _ ih =>
      have hloose :=
        loose_of_backlog faults hbacklog h.backlog_nodup h.backlog_lt h.accepted
      exact ih ((h.unqueue faults hbacklog).registered hloose hfirst)

/-- A client that connects waits to be accepted. -/
theorem connect (h : reactor.Keyed) : reactor.connect.2.Keyed := by
  have hwatch : ∀ source, reactor.connect.2.poller.watch? source = reactor.poller.watch? source :=
    fun source => Poller.watch?_raise _ _ _ _
  obtain ⟨hnodup, hlt⟩ := backlog_connect h.backlog_nodup h.backlog_lt
  exact {
    watched := fun source watch key hsome =>
      h.watched source watch key ((hwatch source).symm.trans hsome)
    distinct := h.distinct
    accepted := fun key slot hslot => (h.accepted key slot hslot).connect
    backlog_nodup := hnodup
    backlog_lt := hlt }

end Keyed

end FileServer.Reactor
