import FileServer.Http.Response
import FileServer.Text.Blank

/-!
# Reading responses

The client's side of the response format, written against the format alone and not against
`Http.Response`. Lines are read up to the first blank one. Of the header lines only two matter,
whatever the case of their names: the length of the body and whether the connection is kept. The
status is the second word of everything read so far. Then the body is taken, exactly as long as
was announced, whatever bytes it holds; what follows is left for the next response.
-/

namespace FileServer.Http

/-- A response as a client reads it. -/
structure Received where
  /-- The number on the status line. -/
  status : Nat
  /-- The header block as it came. -/
  head : String
  /-- The body. -/
  body : Bytes
  /-- Whether the server keeps the connection. -/
  keepAlive : Bool
deriving DecidableEq

/-- Why no response could be read. -/
inductive ReadFault where
  /-- A header line is not text. -/
  | header
  /-- The stream ended before the blank line. -/
  | closed
  /-- The announced length is not a number. -/
  | length
  /-- There is no status. -/
  | status
  /-- The stream ended before the end of the body. -/
  | body
deriving DecidableEq, Repr

namespace ReadFault

/-- A fault in words. -/
def message : ReadFault → String
  | header => "failed to read header"
  | closed => "connection closed mid-header"
  | length => "bad Content-Length"
  | status => "bad status line"
  | body => "failed to read body"

end ReadFault

namespace Reader

/-- What has been read of a header block. -/
structure Progress where
  /-- The lines so far. -/
  head : String
  /-- The length that was announced, zero if none was. -/
  length : Nat
  /-- Whether the connection is kept. -/
  keepAlive : Bool

/-- The first line of a stream, its line feed included, and what follows. -/
def takeLine : Bytes → Bytes × Bytes
  | [] => ([], [])
  | b :: bs =>
    if b = 0x0A then ([b], bs)
    else
      let (line, rest) := takeLine bs
      (b :: line, rest)

/-- The text of bytes that are nothing but text. -/
def strictText (bytes : Bytes) : Option String :=
  let text := Text.decode bytes
  if Text.encode text = bytes then some text else none

/-- A text in lower case, as far as its letters are those of ASCII. -/
def lower (cs : List Char) : List Char := cs.map Char.toLower

/-- A name and a value with a colon between them. -/
def nameAndValue (line : List Char) : Option (List Char × List Char) :=
  if ':' ∈ line then
    some (line.takeWhile (· ≠ ':'), (line.dropWhile (· ≠ ':')).drop 1)
  else none

/-- Takes note of one header line. -/
def note (progress : Progress) (line : List Char) : Except ReadFault Progress :=
  match nameAndValue line with
  | none => .ok progress
  | some (name, value) =>
    let value := Text.trim value
    if lower name = "content-length".toList then
      match Text.Decimal.readNat Text.Decimal.max64 value with
      | some length => .ok { progress with length }
      | none => .error .length
    else if lower name = "connection".toList then
      .ok { progress with keepAlive := lower value = "keep-alive".toList }
    else .ok progress

/-- A stream is its first line and what follows. -/
theorem length_takeLine (stream : Bytes) :
    (takeLine stream).1.length + (takeLine stream).2.length = stream.length := by
  induction stream with
  | nil => rfl
  | cons b bs ih =>
    unfold takeLine
    split
    · simp; omega
    · simp only [List.length_cons]; omega

/-- The first line of a stream that is not empty holds something. -/
theorem takeLine_ne_nil {b : UInt8} {bs : Bytes} : (takeLine (b :: bs)).1 ≠ [] := by
  unfold takeLine; split <;> simp

/-- Reads header lines up to the first blank one. -/
def readHead (progress : Progress) : Bytes → Except ReadFault (Progress × Bytes)
  | [] => .error .closed
  | b :: bs =>
    match strictText (takeLine (b :: bs)).1 with
    | none => .error .header
    | some line =>
      let progress := { progress with head := progress.head ++ line }
      let content := Text.trimEnd line.toList
      if content.isEmpty then .ok (progress, (takeLine (b :: bs)).2)
      else
        match note progress content with
        | .error fault => .error fault
        | .ok progress => readHead progress (takeLine (b :: bs)).2
termination_by stream => stream.length
decreasing_by
  have hlen := length_takeLine (b :: bs)
  have hpos := List.length_pos_iff.2 (show (takeLine (b :: bs)).1 ≠ [] from takeLine_ne_nil)
  omega

/-- The status in a header block: its second word. -/
def statusOf (head : String) : Option Nat :=
  ((Text.words head.toList)[1]?).bind (Text.Decimal.readNat 65535)

/-- Reads one response off the front of a stream. -/
def read (stream : Bytes) : Except ReadFault (Received × Bytes) :=
  match readHead ⟨"", 0, false⟩ stream with
  | .error fault => .error fault
  | .ok (progress, rest) =>
    match statusOf progress.head with
    | none => .error .status
    | some status =>
      let body := rest.take progress.length
      if body.length < progress.length then .error .body
      else .ok (⟨status, progress.head, body, progress.keepAlive⟩, rest.drop progress.length)

/-- The lines of a stream that have ended. -/
def endedLines (stream : Bytes) : Bytes :=
  (stream.reverse.dropWhile (· ≠ 0x0A)).reverse

/-- Reads one response off the front of a stream that may still go on. Gives nothing if what follows
can change the outcome. -/
def readSoFar (stream : Bytes) : Option (Except ReadFault (Received × Bytes)) :=
  match readHead ⟨"", 0, false⟩ (endedLines stream) with
  | .error .closed => none
  | .error fault => some (.error fault)
  | .ok _ =>
    match read stream with
    | .error .body => none
    | outcome => some outcome

end Reader

end FileServer.Http
