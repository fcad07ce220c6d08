import FileServer.Reactor.Basic
import FileServer.Proofs.Poller
import FileServer.Proofs.Slab

/-!
# Who owns a connection

Every connection of a reactor is in the hands of exactly one owner: the poller, which will report
it; the reactor, which has taken an event of it or drives it; or the list of those that wait for a
load. `Owned` says so of a reactor in the middle of its work, when `held` are the keys of the
connections it has in hand and `parked` the keys of those that wait.

Connections change hands in a few ways, and `Owned.move` is all of them: the connection under one
key gets another owner and the others keep theirs. Taking an event, driving, arming, parking and
taking up again are cases of it. Beside it stand accepting and closing, which add and remove a
connection.
-/

namespace FileServer

/-- The watch on the socket of a connection. -/
def Slot.watch (slot : Slot) (key : Nat) (interest : Interest) (armed : Bool) : Watch :=
  ⟨.socket slot.socket, .connection key, interest, true, armed⟩

/-- What a connection in this phase is watched for. -/
def Interest.Fits : Interest → Phase → Prop
  | .readable, phase => phase = .reading
  | .writable, phase => ∃ out, phase = .sending out

/-- A connection waits for a load that it has asked for. -/
def Phase.Parks (phase : Phase) : Prop := ∃ key ticket, phase = .resolving key (some ticket)

namespace Reactor

variable {reactor next : Reactor} {held parked : List Nat} {key other : Nat} {slot : Slot}

/-- The one owner of a connection. -/
inductive Owner (poller : Poller) (held parked : List Nat) (key : Nat) (slot : Slot) : Prop where
  /-- The poller reports the connection. -/
  | poller (interest : Interest)
      (hwatch : poller.watch? (.socket slot.socket) = some (slot.watch key interest true))
      (hfits : interest.Fits slot.conn.phase) (hflag : slot.parked = false)
      (hheld : key ∉ held) (hparked : key ∉ parked)
  /-- The reactor has it in hand. -/
  | reactor (interest : Interest)
      (hwatch : poller.watch? (.socket slot.socket) = some (slot.watch key interest false))
      (hflag : slot.parked = false) (hheld : key ∈ held) (hparked : key ∉ parked)
  /-- It waits for a load. -/
  | load (interest : Interest)
      (hwatch : poller.watch? (.socket slot.socket) = some (slot.watch key interest false))
      (hphase : slot.conn.phase.Parks) (hflag : slot.parked = true)
      (hheld : key ∉ held) (hparked : key ∈ parked)

/-- Every connection has one owner, and nothing else is owned. -/
structure Owned (held parked : List Nat) (reactor : Reactor) : Prop where
  /-- Every connection has an owner. -/
  owner : ∀ key slot, reactor.conns.get? key = some slot →
    Owner reactor.poller held parked key slot
  /-- No connection is in hand twice. -/
  held_nodup : held.Nodup
  /-- No connection is listed twice. -/
  parked_nodup : parked.Nodup
  /-- What is in hand is a connection. -/
  held_open : ∀ key ∈ held, (reactor.conns.get? key).isSome
  /-- What is listed is a connection. -/
  parked_open : ∀ key ∈ parked, (reactor.conns.get? key).isSome
  /-- No two connections have the same socket. -/
  distinct : ∀ key other slot rival, reactor.conns.get? key = some slot →
    reactor.conns.get? other = some rival → slot.socket = rival.socket → key = other
  /-- Every watch on a socket belongs to a connection. -/
  watched : ∀ socket watch, reactor.poller.watch? (.socket socket) = some watch →
    ∃ key slot, reactor.conns.get? key = some slot ∧ slot.socket = socket
  /-- The listener is watched all the time. -/
  listener : reactor.poller.watch? .listener = some ⟨.listener, .listener, .readable, false, true⟩
  /-- So is the notifier. -/
  notifier : reactor.poller.watch? .notifier = some ⟨.notifier, .notifier, .readable, false, true⟩
  /-- The sockets of connections are accepted. -/
  accepted : ∀ key slot, reactor.conns.get? key = some slot →
    slot.socket < reactor.network.sockets.size ∧ slot.socket ∉ reactor.network.backlog
  /-- No socket waits twice to be accepted. -/
  backlog_nodup : reactor.network.backlog.Nodup
  /-- Sockets that wait to be accepted exist. -/
  backlog_lt : ∀ socket ∈ reactor.network.backlog, socket < reactor.network.sockets.size

/-- Closing removes the connection under the key, if there is one, and no other. -/
theorem get?_close (reactor : Reactor) (key other : Nat) :
    (reactor.close key).conns.get? other
      = if other = key then none else reactor.conns.get? other := by
  unfold Reactor.close
  split
  · rename_i hnone
    split
    · rename_i heq
      rw [heq, hnone]
    · rfl
  · exact Slab.get?_erase reactor.conns key other

/-- What was open after closing one connection was open before, and is another one. -/
theorem of_get?_close {rival : Slot} (h : (reactor.close key).conns.get? other = some rival) :
    other ≠ key ∧ reactor.conns.get? other = some rival := by
  rw [get?_close] at h
  split at h
  · cases h
  · rename_i hne
    exact ⟨hne, h⟩

/-- Closing a connection takes its watch away, and no other. -/
theorem watch?_close (hslot : reactor.conns.get? key = some slot) (source : Source) :
    (reactor.close key).poller.watch? source
      = if source = .socket slot.socket then none else reactor.poller.watch? source := by
  rw [Reactor.close, hslot]
  exact Poller.watch?_delete reactor.poller (.socket slot.socket) source

/-- Closing a connection leaves the number of the sockets. -/
theorem size_close (reactor : Reactor) (key : Nat) :
    (reactor.close key).network.sockets.size = reactor.network.sockets.size := by
  unfold Reactor.close
  split
  · rfl
  · exact Array.size_modify

/-- Closing a connection leaves those who wait to be accepted. -/
theorem backlog_close (reactor : Reactor) (key : Nat) :
    (reactor.close key).network.backlog = reactor.network.backlog := by
  unfold Reactor.close
  split <;> rfl

/-- An owner stays where neither its watch nor the lists change. -/
theorem Owner.congr {poller after : Poller} {held' parked' : List Nat}
    (h : Owner poller held parked key slot)
    (hwatch : after.watch? (.socket slot.socket) = poller.watch? (.socket slot.socket))
    (hheld : key ∈ held' ↔ key ∈ held) (hparked : key ∈ parked' ↔ key ∈ parked) :
    Owner after held' parked' key slot := by
  cases h with
  | poller interest hold hfits hflag hnot hunlisted =>
      exact .poller interest (hwatch.trans hold) hfits hflag (mt hheld.1 hnot)
        (mt hparked.1 hunlisted)
  | reactor interest hold hflag hin hunlisted =>
      exact .reactor interest (hwatch.trans hold) hflag (hheld.2 hin) (mt hparked.1 hunlisted)
  | load interest hold hphase hflag hnot hlisted =>
      exact .load interest (hwatch.trans hold) hphase hflag (mt hheld.1 hnot) (hparked.2 hlisted)

/-- Where one connection has changed, every connection is on a socket that it was on before. -/
theorem exists_of_changed {slot' : Slot} (hslot : reactor.conns.get? key = some slot)
    (hconns : ∀ other, next.conns.get? other
      = if other = key then some slot' else reactor.conns.get? other)
    (hsocket : slot'.socket = slot.socket) {rival : Slot}
    (hrival : next.conns.get? other = some rival) :
    ∃ old, reactor.conns.get? other = some old ∧ old.socket = rival.socket := by
  rw [hconns] at hrival
  split at hrival
  · rename_i heq
    obtain rfl := Option.some.inj hrival
    exact ⟨slot, heq ▸ hslot, hsocket.symm⟩
  · exact ⟨rival, hrival, rfl⟩

/-- Where one connection has changed, a list that names it or not still names connections only. -/
theorem open_of_changed {slot' : Slot} {names names' : List Nat}
    (hconns : ∀ other, next.conns.get? other
      = if other = key then some slot' else reactor.conns.get? other)
    (hnames : ∀ other, other ≠ key → (other ∈ names' ↔ other ∈ names))
    (hopen : ∀ other ∈ names, (reactor.conns.get? other).isSome) (hmem : other ∈ names') :
    (next.conns.get? other).isSome := by
  rw [hconns]
  split
  · rfl
  · rename_i hne
    exact hopen other ((hnames other hne).1 hmem)

namespace Owned

/-- **A connection changes hands.** The one under `key` is as `slot'` says and has an owner, and
nothing happens to the others. -/
theorem move (slot' : Slot) {held' parked' : List Nat} (h : reactor.Owned held parked)
    (hslot : reactor.conns.get? key = some slot)
    (hconns : ∀ other, next.conns.get? other
      = if other = key then some slot' else reactor.conns.get? other)
    (hsocket : slot'.socket = slot.socket)
    (hwatch : ∀ source, source ≠ .socket slot.socket →
      next.poller.watch? source = reactor.poller.watch? source)
    (hsize : next.network.sockets.size = reactor.network.sockets.size)
    (hbacklog : next.network.backlog = reactor.network.backlog)
    (hheld : held'.Nodup ∧ ∀ other, other ≠ key → (other ∈ held' ↔ other ∈ held))
    (hparked : parked'.Nodup ∧ ∀ other, other ≠ key → (other ∈ parked' ↔ other ∈ parked))
    (howner : Owner next.poller held' parked' key slot') : next.Owned held' parked' := by
  have hself : next.conns.get? key = some slot' := by rw [hconns, if_pos rfl]
  have hother : ∀ other, other ≠ key → next.conns.get? other = reactor.conns.get? other := by
    intro other hne
    rw [hconns, if_neg hne]
  constructor
  case owner =>
    intro other rival hrival
    by_cases heq : other = key
    · subst heq
      rw [hself] at hrival
      obtain rfl := Option.some.inj hrival
      exact howner
    · have hrival' := (hother other heq).symm.trans hrival
      have hne : rival.socket ≠ slot.socket := fun hsame =>
        heq (h.distinct other key rival slot hrival' hslot hsame)
      exact (h.owner other rival hrival').congr (hwatch _ (by simpa using hne))
        (hheld.2 other heq) (hparked.2 other heq)
  case held_nodup => exact hheld.1
  case parked_nodup => exact hparked.1
  case held_open => exact fun other => open_of_changed hconns hheld.2 h.held_open
  case parked_open => exact fun other => open_of_changed hconns hparked.2 h.parked_open
  case distinct =>
    intro first second one two hone htwo hsame
    obtain ⟨old, hold, heq⟩ := exists_of_changed hslot hconns hsocket hone
    obtain ⟨old', hold', heq'⟩ := exists_of_changed hslot hconns hsocket htwo
    exact h.distinct first second old old' hold hold' (by rw [heq, hsame, heq'])
  case watched =>
    intro socket watch hsome
    by_cases heq : socket = slot.socket
    · exact ⟨key, slot', hself, hsocket.trans heq.symm⟩
    · rw [hwatch _ (by simpa using heq)] at hsome
      obtain ⟨other, rival, hrival, hsame⟩ := h.watched socket watch hsome
      have hne : other ≠ key := by
        rintro rfl
        rw [hslot] at hrival
        obtain rfl := Option.some.inj hrival
        exact heq hsame.symm
      exact ⟨other, rival, (hother other hne).trans hrival, hsame⟩
  case listener => exact (hwatch _ (by simp)).trans h.listener
  case notifier => exact (hwatch _ (by simp)).trans h.notifier
  case accepted =>
    intro other rival hrival
    obtain ⟨old, hold, heq⟩ := exists_of_changed hslot hconns hsocket hrival
    rw [hsize, hbacklog, ← heq]
    exact h.accepted other old hold
  case backlog_nodup => exact hbacklog ▸ h.backlog_nodup
  case backlog_lt =>
    rw [hsize, hbacklog]
    exact h.backlog_lt

/-- Only connections, watches and the numbers of sockets matter. -/
theorem congr (h : reactor.Owned held parked) (hconns : next.conns = reactor.conns)
    (hwatch : ∀ source, next.poller.watch? source = reactor.poller.watch? source)
    (hsize : next.network.sockets.size = reactor.network.sockets.size)
    (hbacklog : next.network.backlog = reactor.network.backlog) : next.Owned held parked where
  owner key slot hslot :=
    (h.owner key slot (hconns ▸ hslot)).congr (hwatch _) Iff.rfl Iff.rfl
  held_nodup := h.held_nodup
  parked_nodup := h.parked_nodup
  held_open := hconns ▸ h.held_open
  parked_open := hconns ▸ h.parked_open
  distinct := hconns ▸ h.distinct
  watched socket watch hsome := by
    rw [hwatch] at hsome
    rw [hconns]
    exact h.watched socket watch hsome
  listener := (hwatch _).trans h.listener
  notifier := (hwatch _).trans h.notifier
  accepted := by
    rw [hconns, hsize, hbacklog]
    exact h.accepted
  backlog_nodup := hbacklog ▸ h.backlog_nodup
  backlog_lt := by
    rw [hsize, hbacklog]
    exact h.backlog_lt

/-! ### What is in hand -/

/-- What is in hand is not listed, has its watch disarmed and its flag down. -/
theorem of_held (h : reactor.Owned held parked) (hslot : reactor.conns.get? key = some slot)
    (hkey : key ∈ held) :
    slot.parked = false ∧ key ∉ parked ∧
      ∃ interest, reactor.poller.watch? (.socket slot.socket)
        = some (slot.watch key interest false) := by
  cases h.owner key slot hslot with
  | poller _ _ _ _ hheld => exact absurd hkey hheld
  | reactor interest hwatch hflag _ hparked => exact ⟨hflag, hparked, interest, hwatch⟩
  | load _ _ _ _ hheld => exact absurd hkey hheld

/-- Whatever a drive makes of a connection in hand. -/
theorem drive (h : reactor.Owned held parked) (hslot : reactor.conns.get? key = some slot)
    (hkey : key ∈ held) (conn : Connection) (hpoller : next.poller = reactor.poller)
    (hconns : next.conns = reactor.conns.modify key ({ · with conn }))
    (hsize : next.network.sockets.size = reactor.network.sockets.size)
    (hbacklog : next.network.backlog = reactor.network.backlog) : next.Owned held parked := by
  obtain ⟨hflag, hunlisted, interest, hwatch⟩ := h.of_held hslot hkey
  refine h.move { slot with conn } hslot ?_ rfl (fun _ _ => by rw [hpoller]) hsize hbacklog
    ⟨h.held_nodup, fun _ _ => Iff.rfl⟩ ⟨h.parked_nodup, fun _ _ => Iff.rfl⟩ ?_
  · intro other
    rw [hconns, Slab.get?_modify_of_get? hslot]
  · rw [hpoller]
    exact .reactor interest hwatch hflag hkey hunlisted

/-- Closing a connection in hand. -/
theorem close (h : reactor.Owned (key :: held) parked) : (reactor.close key).Owned held parked := by
  obtain ⟨slot, hslot⟩ := Option.isSome_iff_exists.1 (h.held_open key List.mem_cons_self)
  obtain ⟨-, hunlisted, -⟩ := h.of_held hslot List.mem_cons_self
  obtain ⟨hnot, hnodup⟩ := List.nodup_cons.1 h.held_nodup
  have hwatch := watch?_close hslot
  have hkept : ∀ other, other ≠ key →
      (reactor.close key).conns.get? other = reactor.conns.get? other := by
    intro other hne
    rw [get?_close, if_neg hne]
  constructor
  case owner =>
    intro other rival hrival
    obtain ⟨hne, hget⟩ := of_get?_close hrival
    have hsocket : rival.socket ≠ slot.socket := fun hsame =>
      hne (h.distinct other key rival slot hget hslot hsame)
    refine (h.owner other rival hget).congr ?_ ?_ Iff.rfl
    · rw [hwatch, if_neg (by simpa using hsocket)]
    · simp [hne]
  case held_nodup => exact hnodup
  case parked_nodup => exact h.parked_nodup
  case held_open =>
    intro other hmem
    have hne : other ≠ key := fun heq => hnot (heq ▸ hmem)
    rw [hkept other hne]
    exact h.held_open other (List.mem_cons_of_mem _ hmem)
  case parked_open =>
    intro other hmem
    have hne : other ≠ key := fun heq => hunlisted (heq ▸ hmem)
    rw [hkept other hne]
    exact h.parked_open other hmem
  case distinct =>
    intro first second one two hone htwo hsame
    exact h.distinct first second one two (of_get?_close hone).2 (of_get?_close htwo).2 hsame
  case watched =>
    intro socket watch hsome
    rw [hwatch] at hsome
    split at hsome
    · cases hsome
    · rename_i hne
      obtain ⟨other, rival, hrival, hsame⟩ := h.watched socket watch hsome
      have hother : other ≠ key := by
        rintro rfl
        rw [hslot] at hrival
        obtain rfl := Option.some.inj hrival
        exact hne (by rw [hsame])
      exact ⟨other, rival, (hkept other hother).trans hrival, hsame⟩
  case listener => exact (hwatch _).trans h.listener
  case notifier => exact (hwatch _).trans h.notifier
  case accepted =>
    intro other rival hrival
    rw [size_close, backlog_close]
    exact h.accepted other rival (of_get?_close hrival).2
  case backlog_nodup =>
    rw [backlog_close]
    exact h.backlog_nodup
  case backlog_lt =>
    rw [size_close, backlog_close]
    exact h.backlog_lt

/-- **Arming** the watch of a connection in hand gives it to the poller, or closes it. -/
theorem watch {interest : Interest} (h : reactor.Owned (key :: held) parked)
    (hslot : reactor.conns.get? key = some slot) (hfits : interest.Fits slot.conn.phase) :
    (reactor.watch key slot interest).Owned held parked := by
  obtain ⟨hflag, hunlisted, old, hold⟩ := h.of_held hslot List.mem_cons_self
  obtain ⟨hnot, hnodup⟩ := List.nodup_cons.1 h.held_nodup
  rcases hrearm : reactor.poller.rearm (.socket slot.socket) interest
    (reactor.network.ready slot.socket) with ⟨armed, poller⟩
  have hnext : reactor.watch key slot interest
      = if armed then { reactor with poller } else { reactor with poller }.close key := by
    rw [Reactor.watch, hrearm]
  rw [hnext]
  cases armed with
  | false =>
      have hkept : Owned (key :: held) parked { reactor with poller } :=
        h.congr rfl (fun source => Poller.watch?_rearm_of_refused hrearm source) rfl rfl
      exact hkept.close
  | true =>
      have hwatch := Poller.watch?_rearm hrearm
      rw [if_pos rfl]
      refine h.move slot hslot ?_ rfl ?_ rfl rfl ⟨hnodup, ?_⟩
        ⟨h.parked_nodup, fun _ _ => Iff.rfl⟩ ?_
      · intro other
        split
        · rename_i heq
          exact heq ▸ hslot
        · rfl
      · intro source hne
        exact (hwatch source).trans (if_neg hne)
      · intro other hne
        simp [hne]
      · refine .poller interest ?_ hfits hflag hnot hunlisted
        refine (hwatch _).trans ?_
        rw [if_pos rfl, hold]
        rfl

/-- **Parking** a connection in hand lists it. -/
theorem park (h : reactor.Owned (key :: held) parked)
    (hslot : reactor.conns.get? key = some slot) (hphase : slot.conn.phase.Parks) :
    (reactor.park key).Owned held (parked ++ [key]) := by
  obtain ⟨-, hunlisted, interest, hwatch⟩ := h.of_held hslot List.mem_cons_self
  obtain ⟨hnot, hnodup⟩ := List.nodup_cons.1 h.held_nodup
  refine h.move { slot with parked := true } hslot ?_ rfl (fun _ _ => rfl) rfl rfl ⟨hnodup, ?_⟩
    ⟨?_, ?_⟩ ?_
  · intro other
    exact Slab.get?_modify_of_get? hslot _ other
  · intro other hne
    simp [hne]
  · rw [List.nodup_append]
    refine ⟨h.parked_nodup, List.nodup_singleton key, ?_⟩
    intro one hone two htwo
    rw [List.mem_singleton.1 htwo]
    intro heq
    exact hunlisted (heq ▸ hone)
  · intro other hne
    simp [hne]
  · exact .load interest hwatch hphase rfl hnot (by simp)

/-- **Taking up** a parked connection again. -/
theorem unpark (h : reactor.Owned held (key :: parked))
    (hslot : reactor.conns.get? key = some slot) :
    slot.parked = true ∧
      Owned (key :: held) parked
        { reactor with conns := reactor.conns.modify key ({ · with parked := false }) } := by
  obtain ⟨hnot, hnodup⟩ := List.nodup_cons.1 h.parked_nodup
  cases h.owner key slot hslot with
  | poller _ _ _ _ _ hparked => exact absurd List.mem_cons_self hparked
  | reactor _ _ _ _ hparked => exact absurd List.mem_cons_self hparked
  | load interest hwatch _ hflag hheld _ =>
      refine ⟨hflag, h.move { slot with parked := false } hslot ?_ rfl (fun _ _ => rfl) rfl rfl
        ⟨List.nodup_cons.2 ⟨hheld, h.held_nodup⟩, ?_⟩ ⟨hnodup, ?_⟩ ?_⟩
      · intro other
        exact Slab.get?_modify_of_get? hslot _ other
      · intro other hne
        simp [hne]
      · intro other hne
        simp [hne]
      · exact .reactor interest hwatch rfl List.mem_cons_self hnot

end Owned

end Reactor

end FileServer
