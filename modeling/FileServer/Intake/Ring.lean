/-!
# The read ring

A connection reads into a fixed buffer of 1024 bytes used as a ring. Two cursors run freely: `head`
counts the bytes taken out since the last reset, `tail` the bytes put in, and each is reduced
modulo the capacity only to find its place in the buffer. What lies between them is unread.

The free space may be in two pieces, one before the end of the buffer and one at its beginning. A
single read is offered only the piece that starts at `tail` (`writable`); `extend` fills both.
`compact` moves the unread bytes to the front and sets the cursors back around them.

The view of a ring is the list of its unread bytes (`toList`).
-/

namespace FileServer

/-- A buffer of fixed size with a reading and a writing cursor. -/
structure Ring where
  /-- The bytes, unread ones and left-over ones. -/
  buffer : Vector UInt8 1024
  /-- How many bytes have been taken out. -/
  head : Nat
  /-- How many bytes have been put in. -/
  tail : Nat
  /-- Only what was put in is taken out. -/
  head_le_tail : head ≤ tail
  /-- The unread bytes fit the buffer. -/
  tail_le : tail ≤ head + 1024

namespace Ring

/-- How many bytes a ring can hold. -/
abbrev capacity : Nat := 1024

/-- A ring that holds nothing. -/
def empty : Ring where
  buffer := Vector.replicate 1024 0
  head := 0
  tail := 0
  head_le_tail := by omega
  tail_le := by omega

/-- The number of unread bytes. -/
def length (ring : Ring) : Nat := ring.tail - ring.head

/-- Whether nothing is unread. -/
def isEmpty (ring : Ring) : Bool := ring.head = ring.tail

/-- Whether nothing more fits. -/
def isFull (ring : Ring) : Bool := ring.length = capacity

/-- The place of a cursor in the buffer. -/
def place (cursor : Nat) : Fin 1024 := ⟨cursor % 1024, Nat.mod_lt _ (by omega)⟩

/-- The byte that a cursor points at. -/
def byteAt (ring : Ring) (cursor : Nat) : UInt8 := ring.buffer[place cursor]

/-- The unread bytes, oldest first. -/
def toList (ring : Ring) : List UInt8 :=
  (List.range' ring.head ring.length).map ring.byteAt

/-- The size of the free region that starts at the writing cursor: it ends at the oldest unread
byte or at the end of the buffer, whichever comes first. -/
def writable (ring : Ring) : Nat :=
  min (capacity - ring.length) (capacity - ring.tail % capacity)

/-- Writes bytes into a buffer from a cursor on. -/
def write (buffer : Vector UInt8 1024) (cursor : Nat) : List UInt8 → Vector UInt8 1024
  | [] => buffer
  | b :: bs => write (buffer.set (place cursor) b) (cursor + 1) bs

/-- A ring holds no more than it has room for. -/
theorem length_le (ring : Ring) : ring.length ≤ 1024 := by
  have := ring.tail_le
  simp only [length]; omega

/-- What is in the ring and what can be written fit together. -/
theorem writable_le (ring : Ring) : ring.length + ring.writable ≤ 1024 := by
  have := ring.length_le
  simp only [writable, capacity]; omega

/-- There is room to write exactly when the ring is not full. -/
theorem writable_pos_iff (ring : Ring) : 0 < ring.writable ↔ ring.length < 1024 := by
  have := Nat.mod_lt ring.tail (show 0 < 1024 by omega)
  simp only [writable, capacity]; omega

/-- Puts as many of the bytes as the writable region takes behind the unread ones. -/
def fill (ring : Ring) (bytes : List UInt8) : Ring where
  buffer := write ring.buffer ring.tail (bytes.take ring.writable)
  head := ring.head
  tail := ring.tail + min bytes.length ring.writable
  head_le_tail := by have := ring.head_le_tail; omega
  tail_le := by
    have h := ring.writable_le
    have := ring.head_le_tail
    simp only [length] at h; omega

/-- As much is written as there is room for. -/
theorem length_fill (ring : Ring) (bytes : List UInt8) :
    (ring.fill bytes).length = ring.length + min bytes.length ring.writable := by
  have := ring.head_le_tail
  simp only [length, fill]; omega

/-- Puts as many of the bytes as fit into the ring, region by region. -/
def extend (ring : Ring) (bytes : List UInt8) : Ring :=
  if bytes.isEmpty || ring.isFull then ring
  else (ring.fill bytes).extend (bytes.drop ring.writable)
termination_by 1024 - ring.length
decreasing_by
  rename_i h
  have hopen : bytes ≠ [] ∧ ring.length ≠ 1024 := by simpa [isFull, capacity] using h
  have hfull := ring.length_le
  have hpos : 0 < ring.writable := ring.writable_pos_iff.2 (by omega)
  have hbytes : 0 < bytes.length := List.length_pos_iff.2 hopen.1
  rw [length_fill]; omega

/-- Takes the oldest unread byte out. -/
def pop? (ring : Ring) : Option (UInt8 × Ring) :=
  if h : ring.head = ring.tail then none
  else some (ring.byteAt ring.head,
    { ring with
      head := ring.head + 1
      head_le_tail := by have := ring.head_le_tail; omega
      tail_le := by have := ring.tail_le; omega })

/-- Moves the unread bytes to the front of the buffer. -/
def compact (ring : Ring) : Ring where
  buffer := write ring.buffer 0 ring.toList
  head := 0
  tail := ring.length
  head_le_tail := Nat.zero_le _
  tail_le := by have := ring.length_le; omega

/-- A byte taken out was the oldest, and the others stay. -/
theorem length_of_pop? {ring rest : Ring} {b : UInt8} (h : ring.pop? = some (b, rest)) :
    ring.length = rest.length + 1 := by
  have := ring.head_le_tail
  unfold pop? at h
  split at h
  · simp at h
  · simp only [Option.some.injEq, Prod.mk.injEq] at h
    obtain ⟨-, rfl⟩ := h
    simp only [length]; omega

/-- Nothing can be taken out of an empty ring, and only of an empty one. -/
theorem pop?_eq_none_iff (ring : Ring) : ring.pop? = none ↔ ring.length = 0 := by
  have := ring.head_le_tail
  unfold pop?
  split <;> simp [length] <;> omega

/-- Compacting loses nothing. -/
@[simp] theorem length_compact (ring : Ring) : ring.compact.length = ring.length := by
  simp [length, compact]

/-- The length is that of what the ring holds. -/
@[simp] theorem length_toList (ring : Ring) : ring.toList.length = ring.length := by
  simp [toList]

end Ring

end FileServer
