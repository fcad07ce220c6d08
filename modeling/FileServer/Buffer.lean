import FileServer.Text.Utf8

/-!
# Buffers

A buffer is a sequence of bytes that is used up from its front. Its length is kept beside the bytes,
so that taking something from it costs as much as what is taken, however much lies behind.

Several buffers may be used up together, one behind the other: `total` is the number of bytes in
them, and `pieces` are the parts of them that make up the first so many bytes (`flatten_pieces`).
-/

namespace FileServer

/-- Bytes whose number is known. -/
structure Buffer where
  /-- The bytes. -/
  bytes : Bytes
  /-- How many they are. -/
  size : Nat
  /-- The size is that of the bytes. -/
  size_eq : size = bytes.length
deriving DecidableEq

namespace Buffer

/-- A buffer of some bytes. -/
def ofBytes (bytes : Bytes) : Buffer := ⟨bytes, bytes.length, rfl⟩

/-- Whether nothing is left. -/
def isEmpty (buffer : Buffer) : Bool := buffer.size = 0

/-- The first `count` bytes, or all if there are no more. -/
def take (buffer : Buffer) (count : Nat) : Bytes :=
  if buffer.size ≤ count then buffer.bytes else buffer.bytes.take count

/-- What is behind the first `count` bytes. -/
def drop (buffer : Buffer) (count : Nat) : Buffer :=
  if buffer.size ≤ count then ⟨[], 0, rfl⟩
  else ⟨buffer.bytes.drop count, buffer.size - count, by simp [buffer.size_eq]⟩

/-- The number of bytes in several buffers. -/
def total : List Buffer → Nat
  | [] => 0
  | buffer :: buffers => buffer.size + total buffers

/-- The bytes of several buffers, one behind the other. -/
def joined (buffers : List Buffer) : Bytes := buffers.flatMap bytes

/-- The parts of several buffers that make up their first `count` bytes. -/
def pieces (count : Nat) : List Buffer → List Bytes
  | [] => []
  | buffer :: buffers => buffer.take count :: pieces (count - buffer.size) buffers

/-- A buffer of bytes holds these bytes. -/
@[simp] theorem bytes_ofBytes (bytes : Bytes) : (ofBytes bytes).bytes = bytes := rfl

/-- The front of a buffer is the front of its bytes. -/
@[simp] theorem take_eq (buffer : Buffer) (count : Nat) :
    buffer.take count = buffer.bytes.take count := by
  unfold take
  split
  · rename_i h
    rw [List.take_of_length_le (by rw [← buffer.size_eq]; exact h)]
  · rfl

/-- What is left of a buffer behind its front. -/
@[simp] theorem bytes_drop (buffer : Buffer) (count : Nat) :
    (buffer.drop count).bytes = buffer.bytes.drop count := by
  unfold drop
  split
  · rename_i h
    rw [List.drop_eq_nil_of_le (by rw [← buffer.size_eq]; exact h)]
  · rfl

/-- No buffers hold nothing. -/
@[simp] theorem joined_nil : joined [] = [] := rfl

/-- The bytes of the first buffer come first. -/
@[simp] theorem joined_cons (buffer : Buffer) (buffers : List Buffer) :
    joined (buffer :: buffers) = buffer.bytes ++ joined buffers := rfl

/-- The number of bytes is that of the bytes joined. -/
theorem total_eq_length (buffers : List Buffer) : total buffers = (joined buffers).length := by
  induction buffers with
  | nil => rfl
  | cons buffer buffers ih => simp [total, ih, buffer.size_eq]

/-- The pieces are the front part of the bytes joined. -/
theorem flatten_pieces (count : Nat) (buffers : List Buffer) :
    (pieces count buffers).flatten = (joined buffers).take count := by
  induction buffers generalizing count with
  | nil => simp [pieces]
  | cons buffer buffers ih =>
    simp [pieces, ih, List.take_append, buffer.size_eq]

end Buffer

end FileServer
