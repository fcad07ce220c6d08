import FileServer.Buffer
import FileServer.Http.Response

/-!
# Outgoing responses

A response on its way out is its header block, its body, and one cursor across both. As long as the
header block is not out, a write offers what is left of it together with the whole body; after
that it offers what is left of the body.

What is left of the two is kept as buffers beside them, so that a write costs as much as what it
takes. That the buffers stand where the cursor does is part of the type.
-/

namespace FileServer

/-- A response that is being written. -/
structure Outgoing where
  /-- The header block. -/
  head : Bytes
  /-- The body. -/
  body : Bytes
  /-- How many bytes of the two are written. -/
  written : Nat
  /-- Whether the connection stays open after this response. -/
  keepAlive : Bool
  /-- What is left of the header block. -/
  headLeft : Buffer
  /-- What is left of the body. -/
  bodyLeft : Buffer
  /-- The header block is written first. -/
  headLeft_eq : headLeft.bytes = head.drop written
  /-- The body is written behind it. -/
  bodyLeft_eq : bodyLeft.bytes = body.drop (written - head.length)
deriving DecidableEq

namespace Outgoing

/-- A response of which nothing is written. -/
def ofResponse (response : Http.Response) : Outgoing where
  head := response.head
  body := response.body
  written := 0
  keepAlive := response.keepAlive
  headLeft := .ofBytes response.head
  bodyLeft := .ofBytes response.body
  headLeft_eq := rfl
  bodyLeft_eq := by simp

/-- The number of bytes of the whole response. -/
def total (out : Outgoing) : Nat := out.head.length + out.body.length

/-- The number of bytes that are still to be written. -/
def remaining (out : Outgoing) : Nat := out.headLeft.size + out.bodyLeft.size

/-- The buffers that the next write offers. -/
def buffers (out : Outgoing) : List Buffer :=
  if out.headLeft.isEmpty then [out.bodyLeft] else [out.headLeft, out.bodyLeft]

/-- The number of bytes left of the header block. -/
theorem size_headLeft (out : Outgoing) : out.headLeft.size = out.head.length - out.written := by
  rw [out.headLeft.size_eq, out.headLeft_eq, List.length_drop]

/-- The number of bytes left of the body. -/
theorem size_bodyLeft (out : Outgoing) :
    out.bodyLeft.size = out.body.length - (out.written - out.head.length) := by
  rw [out.bodyLeft.size_eq, out.bodyLeft_eq, List.length_drop]

/-- The response after `count` more bytes are written. -/
def advance (out : Outgoing) (count : Nat) : Outgoing where
  head := out.head
  body := out.body
  written := out.written + count
  keepAlive := out.keepAlive
  headLeft := out.headLeft.drop count
  bodyLeft := out.bodyLeft.drop (count - out.headLeft.size)
  headLeft_eq := by simp [out.headLeft_eq, List.drop_drop]
  bodyLeft_eq := by
    rw [Buffer.bytes_drop, out.bodyLeft_eq, List.drop_drop, size_headLeft]
    congr 1
    omega

/-- All that is not written remains. -/
theorem remaining_eq (out : Outgoing) : out.remaining = out.total - out.written := by
  rw [remaining, total, size_headLeft, size_bodyLeft]
  omega

/-- What is written remains no longer. -/
theorem remaining_advance (out : Outgoing) (count : Nat) :
    (out.advance count).remaining = out.remaining - count := by
  rw [remaining_eq, remaining_eq, Nat.sub_sub]
  rfl

/-- What a write offers is what is still to be written. -/
theorem joined_buffers (out : Outgoing) :
    Buffer.joined out.buffers = (out.head ++ out.body).drop out.written := by
  have hhead := out.size_headLeft
  rw [List.drop_append, ← out.headLeft_eq, ← out.bodyLeft_eq]
  unfold buffers Buffer.isEmpty
  split
  · rename_i h
    have hnil : out.headLeft.bytes = [] := by
      rw [← List.length_eq_zero_iff, ← out.headLeft.size_eq]
      simpa using h
    simp [hnil]
  · simp

end Outgoing

end FileServer
