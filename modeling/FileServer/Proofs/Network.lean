import FileServer.Net.Network

/-!
# What requests do to the network

What the server asks of the network beside reading and writing touches no stream: it sets options of
sockets, ends its side of them, and takes clients off the backlog (`SameWires`). A request for a
client takes the first one that waits, or none (`exists_of_accept`, `exists_of_accept_error`).
-/

namespace FileServer.Net.Network

variable {network next last : Network}

/-- What a change of one socket leaves as it is. -/
theorem map_modify {α : Type} (g : Socket → α) {f : Socket → Socket}
    (hkept : ∀ socket, g (f socket) = g socket) (network : Network) (number : Nat) :
    (network.modify number f).sockets.map g = network.sockets.map g := by
  apply Array.ext_getElem?
  intro i
  rw [modify, Array.getElem?_map, Array.getElem?_map, Array.getElem?_modify]
  split
  · rw [Option.map_map]
    congr 1
    funext socket
    exact hkept socket
  · rfl

/-- Two changes of the same socket are one. -/
theorem modify_modify (network : Network) (number : Nat) (f g : Socket → Socket) :
    (network.modify number f).modify number g
      = network.modify number fun socket => g (f socket) := by
  have hsockets : (network.sockets.modify number f).modify number g
      = network.sockets.modify number fun socket => g (f socket) := by
    apply Array.ext_getElem?
    intro i
    rw [Array.getElem?_modify, Array.getElem?_modify, Array.getElem?_modify]
    split
    · rw [Option.map_map]
      rfl
    · rfl
  rw [modify, modify, modify, hsockets]

/-- All streams are as they were, and the same clients wait. -/
structure SameWires (network next : Network) : Prop where
  /-- What the server has read and written is the same on every socket. -/
  wires : next.sockets.map Socket.wire = network.sockets.map Socket.wire
  /-- Nobody has joined the backlog or left it. -/
  backlog : next.backlog = network.backlog

/-- The wires of a network are the same as its own. -/
theorem SameWires.refl (network : Network) : network.SameWires network := ⟨rfl, rfl⟩

/-- What two changes leave the same, both together do. -/
theorem SameWires.trans (h : network.SameWires next) (hlast : next.SameWires last) :
    network.SameWires last :=
  ⟨hlast.wires.trans h.wires, hlast.backlog.trans h.backlog⟩

/-- No socket has come or gone. -/
theorem SameWires.size (h : network.SameWires next) :
    next.sockets.size = network.sockets.size := by
  rw [← Array.size_map (f := Socket.wire), h.wires, Array.size_map]

/-- A change of one socket that leaves its stream. -/
theorem SameWires.modify (network : Network) (number : Nat) {f : Socket → Socket}
    (hkept : ∀ socket, (f socket).wire = socket.wire) :
    network.SameWires (network.modify number f) :=
  ⟨map_modify Socket.wire hkept network number, rfl⟩

/-- An option is no matter of the wires. -/
theorem sameWires_setOption (network : Network) (number : Nat) (option : SocketOption) :
    network.SameWires (network.setOption number option).2 := by
  unfold setOption
  simp only
  split
  · exact ⟨rfl, rfl⟩
  · have hused : network.SameWires { network with refusals := network.refusals.tail } := ⟨rfl, rfl⟩
    exact hused.trans (.modify _ number fun _ => rfl)

/-- **Options** are no matter of the streams, whether they are set or refused. -/
theorem sameWires_setOptions (number : Nat) (options : List SocketOption) (network : Network) :
    network.SameWires (network.setOptions number options).2 := by
  induction options generalizing network with
  | nil => exact .refl network
  | cons option options ih =>
      have hfirst := sameWires_setOption network number option
      rw [setOptions]
      split
      · rename_i middle hmiddle
        rw [hmiddle] at hfirst
        exact hfirst.trans (ih middle)
      · rename_i middle hmiddle
        rw [hmiddle] at hfirst
        exact hfirst

/-- The client that is given is the first that waits. -/
theorem exists_of_accept {number : Nat} (h : network.accept = (.ok number, next)) :
    ∃ faults backlog, network.backlog = number :: backlog ∧
      next = { network with faults, backlog } := by
  unfold accept at h
  simp only at h
  split at h
  · cases h
  · cases h
  · rename_i backlog _ hbacklog
    obtain ⟨hnumber, rfl⟩ := Prod.mk.inj h
    cases hnumber
    exact ⟨_, backlog, hbacklog, rfl⟩

/-- Where no client is given, all of them go on waiting. -/
theorem exists_of_accept_error {cause : Fault} (h : network.accept = (.error cause, next)) :
    ∃ faults, next = { network with faults } := by
  unfold accept at h
  simp only at h
  split at h
  · obtain ⟨-, rfl⟩ := Prod.mk.inj h
    exact ⟨_, rfl⟩
  · obtain ⟨-, rfl⟩ := Prod.mk.inj h
    exact ⟨_, rfl⟩
  · cases h

end FileServer.Net.Network
