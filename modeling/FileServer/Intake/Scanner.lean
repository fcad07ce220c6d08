import FileServer.Intake.Ring
import FileServer.Text.Utf8

/-!
# The line scanner

The wire format of a request is one line: every byte up to the first line feed, kept as it is. The
scanner takes bytes out of a ring until it meets that line feed, and keeps what it has read between
calls, so a line may arrive in any number of pieces. A line feed that is missing only means that
more is to come, up to the limit: a line whose first 8193 bytes hold no line feed is refused.
-/

namespace FileServer

/-- What scanning led to. -/
inductive Scan where
  /-- A whole line has been read. -/
  | complete
  /-- The ring is empty and the line has not ended. -/
  | incomplete
  /-- The line is longer than the limit. -/
  | tooLong
deriving DecidableEq, Repr

/-- A line that is being read. -/
structure Scanner where
  /-- The bytes of the line that have been read, without the line feed. -/
  target : Array UInt8
  /-- Whether the line feed has been read. -/
  done : Bool

namespace Scanner

/-- Ends a line. -/
def lineFeed : UInt8 := 0x0A

/-- The greatest number of bytes that a line may have. -/
def limit : Nat := 8192

/-- A scanner before the first byte of a line. -/
def empty : Scanner := ⟨#[], false⟩

/-- Takes at most `count` bytes out of the ring, until the line ends or becomes too long. The byte
that makes it too long is taken out and not kept. -/
def scan (scanner : Scanner) (ring : Ring) : Nat → Scan × Scanner × Ring
  | 0 => (.incomplete, scanner, ring)
  | count + 1 =>
    match ring.pop? with
    | none => (.incomplete, scanner, ring)
    | some (b, rest) =>
      if b = lineFeed then (.complete, { scanner with done := true }, rest)
      else if limit ≤ scanner.target.size then (.tooLong, scanner, rest)
      else scan { scanner with target := scanner.target.push b } rest count

/-- Reads on in the ring until the line ends, becomes too long, or the ring is empty. A line that
has ended stays ended: nothing more is taken out for it. -/
def advance (scanner : Scanner) (ring : Ring) : Scan × Scanner × Ring :=
  if scanner.done then (.complete, scanner, ring) else scanner.scan ring ring.length

/-- The bytes of the line so far. -/
def bytes (scanner : Scanner) : Bytes := scanner.target.toList

/-- The line so far as text. -/
def text (scanner : Scanner) : String := Text.decode scanner.bytes

/-- Scanning a line to its end takes at least its line feed out of the ring; so does finding it too
long. -/
theorem length_scan (scanner : Scanner) (ring : Ring) (count : Nat) :
    (scanner.scan ring count).2.2.length
      + (if (scanner.scan ring count).1 = .incomplete then 0 else 1) ≤ ring.length := by
  induction count generalizing scanner ring with
  | zero => simp [scan]
  | succ count ih =>
    unfold scan
    split
    · simp
    · rename_i b rest h
      have hlen := Ring.length_of_pop? h
      split
      · simp; omega
      · split
        · simp; omega
        · have hrest := ih { scanner with target := scanner.target.push b } rest
          omega

end Scanner

end FileServer
