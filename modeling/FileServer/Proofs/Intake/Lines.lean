import FileServer.Proofs.Intake.Scanner

/-!
# Lines out of a stream

A stream reaches a scanner through a ring, in pieces whose sizes nobody promises, and the scanner
may be asked to read on after any of them. `Intake` is a stream on its way: the ring, the scanner,
how much of the stream the ring has taken, and the lines that were read.

Whatever the pieces are, what was taken is the lines that were read, the line that is being read and
what is in the ring, in this order (`Follows`); every action keeps this. So the outcome of the next
scan is settled by the stream alone and by how far it is fed (`Scan.Decides`), and the lines that
were read are the first lines of the stream (`lines_of_stream`).
-/

namespace FileServer

/-- A stream on its way through a ring and a scanner. -/
structure Intake where
  /-- Bytes of the stream that are not scanned. -/
  ring : Ring
  /-- The line that is being read. -/
  scanner : Scanner
  /-- How many bytes of the stream the ring has taken. -/
  fed : Nat
  /-- The lines that were read, the first in front. -/
  lines : List Bytes
  /-- Whether a line was found too long. -/
  refused : Bool

/-- The outcome of a scan is what a line calls for of which `seen` bytes are fed; `tail` is all
that is still to come of the stream, from the beginning of the line on. -/
structure Scan.Decides (tail : Bytes) (seen : Nat) (result : Scan × Scanner × Ring) : Prop where
  /-- A line that ends within the limit is complete once its line feed is fed, and not before. Then
  it is the line as it came, and what was fed behind it is in the ring. -/
  ended : ∀ i ≤ Scanner.limit, tail[i]? = some Scanner.lineFeed → Scanner.lineFeed ∉ tail.take i →
    (seen ≤ i → result.1 = .incomplete) ∧
      (i < seen → result.1 = .complete ∧ result.2.1.bytes = tail.take i ∧
        result.2.2.toList = (tail.take seen).drop (i + 1))
  /-- A line that does not end within the limit is too long once it is fed beyond the limit, and
  not before. The byte that makes it too long is the last that is taken. -/
  overlong : Scanner.limit < tail.length → Scanner.lineFeed ∉ tail.take (Scanner.limit + 1) →
    (seen ≤ Scanner.limit → result.1 = .incomplete) ∧
      (Scanner.limit < seen → result.1 = .tooLong ∧
        result.2.2.toList = (tail.take seen).drop (Scanner.limit + 1))
  /-- A stream that stops within a line leaves it incomplete, with all that was fed in it. -/
  unended : tail.length ≤ Scanner.limit → Scanner.lineFeed ∉ tail →
    result.1 = .incomplete ∧ result.2.1.bytes = tail.take seen ∧ result.2.2.toList = []

namespace Intake

open Scanner (lineFeed limit)

/-- What can be done with a ring and a scanner. -/
inductive Action where
  /-- At most `count` of the next bytes are offered to the whole free space of the ring. -/
  | extend (count : Nat)
  /-- At most `count` of the next bytes are offered to the writable region of the ring. -/
  | fill (count : Nat)
  /-- The scanner reads on in the ring. -/
  | advance
  /-- If the line has ended, the next one is begun, and the ring compacted. -/
  | renew

/-- Nothing is fed. -/
def fresh : Intake := ⟨.empty, .empty, 0, [], false⟩

/-- The ring has taken some of what it was offered; that is fed. -/
def feed (intake : Intake) (ring : Ring) : Intake :=
  { intake with ring, fed := intake.fed + (ring.length - intake.ring.length) }

/-- What an action leads to. -/
def act (stream : Bytes) (intake : Intake) : Action → Intake
  | .extend count => intake.feed (intake.ring.extend ((stream.drop intake.fed).take count))
  | .fill count => intake.feed (intake.ring.fill ((stream.drop intake.fed).take count))
  | .advance =>
    let (scan, scanner, ring) := intake.scanner.advance intake.ring
    { intake with scanner, ring, refused := intake.refused || scan = .tooLong }
  | .renew =>
    if intake.scanner.done then
      { intake with
        scanner := .empty
        ring := intake.ring.compact
        lines := intake.lines ++ [intake.scanner.bytes] }
    else intake

/-- What a sequence of actions leads to. -/
def run (stream : Bytes) (actions : List Action) : Intake := actions.foldl (act stream) fresh

/-- Lines as they come in a stream, each with its line feed. -/
def terminated (lines : List Bytes) : Bytes := lines.flatMap fun line => line ++ [lineFeed]

/-- What the scanner has taken out of the ring for the line that it reads. -/
def taken (scanner : Scanner) : Bytes := scanner.bytes ++ if scanner.done then [lineFeed] else []

/-- Of a line that has not ended, all was taken that was scanned. -/
theorem taken_of_open {scanner : Scanner} (hopen : scanner.done = false) :
    taken scanner = scanner.bytes := by
  simp [taken, hopen]

variable {stream line target left piece : Bytes} {seen : Nat} {intake : Intake}
  {scanner : Scanner} {ring : Ring}

/-- What is fed of a stream is the lines that were read, the line that is being read, and what is in
the ring. -/
structure Follows (stream : Bytes) (intake : Intake) : Prop where
  /-- Nothing but the stream is fed. -/
  fed_le : intake.fed ≤ stream.length
  /-- Nothing of it is lost. -/
  fed_eq : stream.take intake.fed
    = terminated intake.lines ++ (taken intake.scanner ++ intake.ring.toList)
  /-- Lines that were read hold no line feed. -/
  lines_whole : ∀ line ∈ intake.lines, lineFeed ∉ line
  /-- Nor does the line that is being read. -/
  line_whole : lineFeed ∉ intake.scanner.bytes
  /-- It is within the limit. -/
  line_short : intake.scanner.bytes.length ≤ limit

/-- A reader that has begun has the whole stream before it. -/
theorem follows_fresh (stream : Bytes) : Follows stream fresh where
  fed_le := Nat.zero_le _
  fed_eq := rfl
  lines_whole _ h := absurd h List.not_mem_nil
  line_whole := List.not_mem_nil
  line_short := Nat.zero_le _

/-! ### Actions -/

namespace Follows

/-- The line that is being read, with more of it. -/
theorem line_whole_append (h : Follows stream intake) (hmore : lineFeed ∉ piece) :
    lineFeed ∉ intake.scanner.bytes ++ piece := by
  intro hmem
  exact (List.mem_append.1 hmem).elim h.line_whole hmore

/-- **Feeding** takes the next bytes of the stream. -/
theorem feed (h : Follows stream intake) (hring : ring.toList = intake.ring.toList ++ piece)
    (hpiece : piece <+: stream.drop intake.fed) : Follows stream (intake.feed ring) := by
  have hcount : ring.length - intake.ring.length = piece.length := by
    have hlength := congrArg List.length hring
    rw [List.length_append, Ring.length_toList, Ring.length_toList] at hlength
    omega
  have hfits := hpiece.length_le
  rw [List.length_drop] at hfits
  constructor
  · have hle := h.fed_le
    show intake.fed + (ring.length - intake.ring.length) ≤ stream.length
    omega
  · show stream.take (intake.fed + (ring.length - intake.ring.length))
      = terminated intake.lines ++ (taken intake.scanner ++ ring.toList)
    rw [hcount, List.take_add, ← List.prefix_iff_eq_take.1 hpiece, h.fed_eq, hring]
    simp only [List.append_assoc]
  · exact h.lines_whole
  · exact h.line_whole
  · exact h.line_short

/-- **Reading on** moves bytes from the ring to the line. -/
theorem advance (h : Follows stream intake)
    (hshort : (intake.scanner.advance intake.ring).1 ≠ .tooLong) :
    Follows stream (intake.act stream .advance) := by
  rw [act]
  by_cases hdone : intake.scanner.done = true
  · rw [Scanner.advance, if_pos hdone]
    exact ⟨h.fed_le, h.fed_eq, h.lines_whole, h.line_whole, h.line_short⟩
  · have hopen : intake.scanner.done = false := by simpa using hdone
    have hfed := h.fed_eq
    rw [taken_of_open hopen] at hfed
    have hscanned : Scanner.Scanned intake.scanner intake.ring _ :=
      Scanner.scanned_advance hopen h.line_short
    generalize intake.scanner.advance intake.ring = result at hscanned hshort ⊢
    cases hscanned with
    | @complete line rest hring hline hlength =>
        refine ⟨h.fed_le, ?_, h.lines_whole, ?_, ?_⟩
        · show stream.take intake.fed = _
          rw [hfed, hring]
          simp [taken, Scanner.bytes, Scanner.push]
        · have hwhole := h.line_whole_append hline
          rwa [← Scanner.bytes_push] at hwhole
        · rwa [← Scanner.bytes_push] at hlength
    | @incomplete rest hrest hline hlength =>
        refine ⟨h.fed_le, ?_, h.lines_whole, ?_, ?_⟩
        · show stream.take intake.fed = _
          rw [hfed]
          simp [taken, Scanner.push, Scanner.bytes, hopen, hrest]
        · rw [Scanner.bytes_push]
          exact h.line_whole_append hline
        · rwa [Scanner.bytes_push]
    | tooLong => exact absurd rfl hshort

/-- **Beginning the next line** adds the one that has ended to those that were read. -/
theorem renew (h : Follows stream intake) : Follows stream (intake.act stream .renew) := by
  rw [act]
  split
  · rename_i hdone
    refine ⟨h.fed_le, ?_, ?_, List.not_mem_nil, Nat.zero_le _⟩
    · show stream.take intake.fed = _
      rw [h.fed_eq, Ring.toList_compact]
      simp [terminated, taken, hdone, Scanner.empty, Scanner.bytes]
    · intro line hline
      rcases List.mem_append.1 hline with hold | hnew
      · exact h.lines_whole line hold
      · rw [List.mem_singleton.1 hnew]
        exact h.line_whole
  · exact h

end Follows

/-- **Every action** keeps the account, as long as no line is too long. -/
theorem follows_act (action : Action) (h : intake.refused = false → Follows stream intake)
    (hopen : (intake.act stream action).refused = false) :
    Follows stream (intake.act stream action) := by
  cases action with
  | extend count =>
      refine (h hopen).feed (Ring.toList_extend _ _) ?_
      exact (List.take_prefix _ _).trans (List.take_prefix _ _)
  | fill count =>
      refine (h hopen).feed (Ring.toList_fill _ _) ?_
      exact (List.take_prefix _ _).trans (List.take_prefix _ _)
  | advance =>
      have hboth : (intake.refused
          || decide ((intake.scanner.advance intake.ring).1 = .tooLong)) = false := hopen
      obtain ⟨hbefore, hscan⟩ := Bool.or_eq_false_iff.1 hboth
      exact (h hbefore).advance (of_decide_eq_false hscan)
  | renew =>
      have hbefore : intake.refused = false := by
        rw [act] at hopen
        split at hopen
        · exact hopen
        · exact hopen
      exact (h hbefore).renew

/-- **A run** keeps the account. -/
theorem follows_run (stream : Bytes) (actions : List Action)
    (hopen : (run stream actions).refused = false) : Follows stream (run stream actions) := by
  have hgo : ∀ intake : Intake, (intake.refused = false → Follows stream intake) →
      (actions.foldl (act stream) intake).refused = false →
      Follows stream (actions.foldl (act stream) intake) := by
    clear hopen
    induction actions with
    | nil => exact fun intake h => h
    | cons action actions ih =>
        intro intake h
        exact ih (intake.act stream action) (follows_act action h)
  exact hgo fresh (fun _ => follows_fresh stream) hopen

/-! ### What a scan comes to -/

/-- The line feed is fed. -/
theorem decides_complete (hseen : line.take seen = target ++ lineFeed :: left)
    (hwhole : lineFeed ∉ target) (hshort : target.length ≤ limit) (hbytes : scanner.bytes = target)
    (hleft : ring.toList = left) : Scan.Decides line seen (.complete, scanner, ring) := by
  obtain ⟨behind, hbehind⟩ := List.take_prefix seen line
  have hline : line = target ++ lineFeed :: (left ++ behind) := by
    rw [← hbehind, hseen]
    simp
  have hlt : target.length < seen := by
    have hlength := congrArg List.length hseen
    rw [List.length_take, List.length_append, List.length_cons] at hlength
    omega
  constructor
  · intro i _ hfound hfirst
    -- The first line feed of the stream is the one behind the target.
    have hi : i = target.length := by
      rcases Nat.lt_trichotomy i target.length with hlt | heq | hgt
      · rw [hline, List.getElem?_append_left hlt] at hfound
        exact absurd (List.mem_of_getElem? hfound) hwhole
      · exact heq
      · refine absurd ?_ hfirst
        rw [hline, List.take_append, List.mem_append]
        right
        obtain ⟨more, hmore⟩ := Nat.exists_eq_add_of_lt hgt
        rw [show i - target.length = more + 1 by omega, List.take_succ_cons]
        exact List.mem_cons_self
    subst hi
    refine ⟨fun hle => absurd hlt (Nat.not_lt.2 hle), fun _ => ⟨rfl, ?_, ?_⟩⟩
    · show scanner.bytes = _
      rw [hbytes, hline, List.take_left]
    · show ring.toList = _
      rw [hleft, hseen, ← List.drop_drop, List.drop_left]
      rfl
  · intro _ hnone
    refine absurd ?_ hnone
    rw [hline, List.take_append, List.mem_append]
    right
    rw [show limit + 1 - target.length = (limit - target.length) + 1 by omega, List.take_succ_cons]
    exact List.mem_cons_self
  · intro _ hnone
    refine absurd ?_ hnone
    rw [hline]
    exact List.mem_append_right _ List.mem_cons_self

/-- Neither a line feed nor a byte beyond the limit is fed. -/
theorem decides_incomplete (hwhole : lineFeed ∉ line.take seen)
    (hshort : seen ≤ limit) (hbytes : scanner.bytes = line.take seen) (hleft : ring.toList = []) :
    Scan.Decides line seen (.incomplete, scanner, ring) := by
  constructor
  · intro i _ hfound hfirst
    refine ⟨fun _ => rfl, fun hlt => absurd ?_ hwhole⟩
    refine List.mem_of_getElem? (i := i) ?_
    rwa [List.getElem?_take_of_lt hlt]
  · intro _ _
    exact ⟨fun _ => rfl, fun hlong => absurd hshort (Nat.not_le.2 hlong)⟩
  · intro _ _
    exact ⟨rfl, hbytes, hleft⟩

/-- A byte beyond the limit is fed. -/
theorem decides_tooLong {b : UInt8} (hseen : line.take seen = target ++ b :: left)
    (hwhole : lineFeed ∉ target ++ [b]) (hlength : target.length = limit)
    (hleft : ring.toList = left) : Scan.Decides line seen (.tooLong, scanner, ring) := by
  obtain ⟨behind, hbehind⟩ := List.take_prefix seen line
  have hline : line = (target ++ [b]) ++ (left ++ behind) := by
    rw [← hbehind, hseen]
    simp
  have hcount : (target ++ [b]).length = limit + 1 := by
    rw [List.length_append, List.length_singleton, hlength]
  have hlt : limit < seen := by
    have hlen := congrArg List.length hseen
    rw [List.length_take, List.length_append, List.length_cons] at hlen
    omega
  constructor
  · intro i hi hfound _
    rw [hline, List.getElem?_append_left (by omega)] at hfound
    exact absurd (List.mem_of_getElem? hfound) hwhole
  · intro _ _
    refine ⟨fun hle => absurd hlt (Nat.not_lt.2 hle), fun _ => ⟨rfl, ?_⟩⟩
    show ring.toList = _
    rw [hleft, hseen, ← hlength, ← List.drop_drop, List.drop_left]
    rfl
  · intro hle _
    have hlong := congrArg List.length hline
    rw [List.length_append, hcount] at hlong
    omega

/-- **The next scan** comes to what the stream calls for. -/
theorem Follows.decides (h : Follows stream intake) :
    ∃ line, stream = terminated intake.lines ++ line ∧ ∃ seen,
      intake.fed = (terminated intake.lines).length + seen ∧
        Scan.Decides line seen (intake.scanner.advance intake.ring) := by
  have hpast : terminated intake.lines <+: stream := by
    refine List.IsPrefix.trans ?_ (List.take_prefix intake.fed stream)
    rw [h.fed_eq]
    exact List.prefix_append _ _
  obtain ⟨line, rfl⟩ := hpast
  have hfed := h.fed_eq
  have hlength := congrArg List.length hfed
  have hle := h.fed_le
  rw [List.length_append] at hle
  rw [List.length_take, List.length_append, List.length_append] at hlength
  obtain ⟨seen, hseen⟩ : ∃ seen, intake.fed = (terminated intake.lines).length + seen :=
    Nat.exists_eq_add_of_le (by omega)
  rw [hseen, List.take_append, List.take_of_length_le (Nat.le_add_right _ _),
    Nat.add_sub_cancel_left, List.append_cancel_left_eq] at hfed
  refine ⟨line, rfl, seen, hseen, ?_⟩
  have hwithin : seen ≤ line.length := by omega
  by_cases hdone : intake.scanner.done = true
  · have hcut : line.take seen = intake.scanner.bytes ++ lineFeed :: intake.ring.toList := by
      rw [hfed]
      simp [taken, hdone]
    rw [Scanner.advance, if_pos hdone]
    exact decides_complete hcut h.line_whole h.line_short rfl rfl
  · have hopen : intake.scanner.done = false := by simpa using hdone
    rw [taken_of_open hopen] at hfed
    have hscanned : Scanner.Scanned intake.scanner intake.ring _ :=
      Scanner.scanned_advance hopen h.line_short
    generalize intake.scanner.advance intake.ring = result at hscanned ⊢
    cases hscanned with
    | @complete more rest hring hline hlong =>
        have hcut : line.take seen
            = (intake.scanner.bytes ++ more) ++ lineFeed :: rest.toList := by
          rw [hfed, hring, List.append_assoc]
        have hbytes := Scanner.bytes_push intake.scanner more
        exact decides_complete hcut (h.line_whole_append hline) hlong hbytes rfl
    | @incomplete rest hrest hline hlong =>
        have hcount : seen = (intake.scanner.bytes ++ intake.ring.toList).length := by
          rw [← hfed, List.length_take, Nat.min_eq_left hwithin]
        have hwhole := h.line_whole_append hline
        rw [← hfed] at hwhole
        refine decides_incomplete hwhole (hcount ▸ hlong) ?_ hrest
        rw [Scanner.bytes_push, hfed]
    | @tooLong more b rest hring hline hlong =>
        have hcut : line.take seen = (intake.scanner.bytes ++ more) ++ b :: rest.toList := by
          rw [hfed, hring, List.append_assoc]
        have hwhole := h.line_whole_append hline
        rw [← List.append_assoc] at hwhole
        exact decides_tooLong hcut hwhole hlong rfl

/-! ### Lines -/

/-- Lines that hold no line feed are what their stream is split into. -/
theorem splitOn_terminated (lines : List Bytes) (rest : Bytes)
    (hwhole : ∀ line ∈ lines, lineFeed ∉ line) :
    (terminated lines ++ rest).splitOn lineFeed = lines ++ rest.splitOn lineFeed := by
  induction lines with
  | nil => rfl
  | cons line lines ih =>
      obtain ⟨hline, hlines⟩ := List.forall_mem_cons.1 hwhole
      have hcut : terminated (line :: lines) ++ rest
          = line ++ lineFeed :: (terminated lines ++ rest) := by
        simp [terminated]
      have hfree : ∀ b ∈ line, (b == lineFeed) = false := by
        intro b hb
        simpa using fun heq : b = lineFeed => hline (heq ▸ hb)
      have hfirst := List.splitOnP_append_cons_of_forall_mem hfree lineFeed (by simp)
        (terminated lines ++ rest)
      rw [hcut, List.cons_append, ← ih hlines]
      exact hfirst

/-- **Lines come out whole, whatever the pieces.** As long as no line was too long, the lines that
were read are the first lines of the stream, and the next scan comes to what the stream behind them
calls for. -/
theorem lines_of_stream (stream : Bytes) (actions : List Action)
    (hopen : (run stream actions).refused = false) :
    ∃ line seen, stream = terminated (run stream actions).lines ++ line ∧
      (run stream actions).fed = (terminated (run stream actions).lines).length + seen ∧
      stream.splitOn lineFeed = (run stream actions).lines ++ line.splitOn lineFeed ∧
      Scan.Decides line seen
        ((run stream actions).scanner.advance (run stream actions).ring) := by
  have h := follows_run stream actions hopen
  obtain ⟨line, hstream, seen, hseen, hdecides⟩ := h.decides
  have hsplit := splitOn_terminated (run stream actions).lines line h.lines_whole
  rw [← hstream] at hsplit
  exact ⟨line, seen, hstream, hseen, hsplit, hdecides⟩

/-- Two lines in three pieces, the second of which is cut within the line. -/
theorem lines_of_stream_pieces :
    ∃ stream actions line seen, (run stream actions).refused = false ∧
      (run stream actions).lines = [Text.encode "/one\r"] ∧
      stream = Text.encode "/one\r\n" ++ line ∧ seen = 3 ∧
      Scan.Decides line seen
        ((run stream actions).scanner.advance (run stream actions).ring) := by
  have hopen : (run (Text.encode "/one\r\n/two\n")
      [.fill 3, .advance, .extend 6, .advance, .renew]).refused = false := by
    decide +kernel
  have hlines : (run (Text.encode "/one\r\n/two\n")
      [.fill 3, .advance, .extend 6, .advance, .renew]).lines = [Text.encode "/one\r"] := by
    decide +kernel
  have hfed : (run (Text.encode "/one\r\n/two\n")
      [.fill 3, .advance, .extend 6, .advance, .renew]).fed = 9 := by
    decide +kernel
  obtain ⟨line, seen, hstream, hseen, -, hdecides⟩ := lines_of_stream _ _ hopen
  rw [hlines] at hstream
  rw [hlines, hfed] at hseen
  refine ⟨_, _, line, seen, hopen, hlines, hstream, ?_, hdecides⟩
  have hcount : (terminated [Text.encode "/one\r"]).length = 6 := by decide
  omega

end Intake

end FileServer
