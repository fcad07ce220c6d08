import FileServer.Intake.Scanner
import FileServer.Proofs.Intake.Ring

/-!
# What scanning takes out of a ring

`Scanned` says for each outcome of a scan what was read and what is left: a line that has ended was
followed by a line feed, which is taken out and not kept; a line that goes on has emptied the ring;
a line that is too long has as many bytes as a line may have, and one more was taken out. Nothing
else can come of a scan of the whole ring (`scanned_scan`).
-/

namespace FileServer.Scanner

variable {scanner : Scanner} {ring : Ring}

/-- The scanner after some more bytes of the line. -/
def push (scanner : Scanner) (bytes : Bytes) : Scanner :=
  { scanner with target := scanner.target ++ bytes.toArray }

/-- What is pushed comes last. -/
@[simp] theorem bytes_push (scanner : Scanner) (bytes : Bytes) :
    (scanner.push bytes).bytes = scanner.bytes ++ bytes := by
  simp [push, Scanner.bytes]

/-- Nothing is pushed. -/
theorem push_nil (scanner : Scanner) : scanner.push [] = scanner := by
  simp [push]

/-- What is pushed twice is pushed in one. -/
theorem push_push (scanner : Scanner) (first second : Bytes) :
    (scanner.push first).push second = scanner.push (first ++ second) := by
  simp [push]

/-- One byte is pushed. -/
theorem push_singleton (scanner : Scanner) (b : UInt8) :
    { scanner with target := scanner.target.push b } = scanner.push [b] := by
  simp [push]

/-- What a scan of a whole ring can lead to. -/
inductive Scanned (scanner : Scanner) (ring : Ring) : Scan × Scanner × Ring → Prop where
  /-- The line has ended. -/
  | complete {line : Bytes} {rest : Ring} (hring : ring.toList = line ++ lineFeed :: rest.toList)
      (hline : lineFeed ∉ line) (hlength : (scanner.bytes ++ line).length ≤ limit) :
      Scanned scanner ring (.complete, { scanner.push line with done := true }, rest)
  /-- The ring is empty. -/
  | incomplete {rest : Ring} (hrest : rest.toList = []) (hline : lineFeed ∉ ring.toList)
      (hlength : (scanner.bytes ++ ring.toList).length ≤ limit) :
      Scanned scanner ring (.incomplete, scanner.push ring.toList, rest)
  /-- One byte more than a line may have was taken out. -/
  | tooLong {line : Bytes} {b : UInt8} {rest : Ring}
      (hring : ring.toList = line ++ b :: rest.toList)
      (hline : lineFeed ∉ line ++ [b]) (hlength : (scanner.bytes ++ line).length = limit) :
      Scanned scanner ring (.tooLong, scanner.push line, rest)

/-- A byte that goes into the line is part of what was read. -/
theorem Scanned.cons {b : UInt8} {rest : Ring} {result : Scan × Scanner × Ring}
    (hring : ring.toList = b :: rest.toList) (hb : b ≠ lineFeed)
    (h : Scanned (scanner.push [b]) rest result) : Scanned scanner ring result := by
  have hnot : ∀ line : Bytes, lineFeed ∉ line → lineFeed ∉ b :: line := fun line hline hmem =>
    (List.mem_cons.1 hmem).elim (fun heq => hb heq.symm) hline
  cases h with
  | @complete line left hleft hline hlength =>
      have hpush := push_push scanner [b] line
      rw [hpush]
      refine .complete ?_ (hnot line hline) ?_
      · rw [hring, hleft]
        rfl
      · simpa using hlength
  | @incomplete left hleft hline hlength =>
      have hpush := push_push scanner [b] rest.toList
      rw [hpush, List.singleton_append, ← hring]
      refine .incomplete hleft ?_ ?_
      · rw [hring]
        exact hnot _ hline
      · rw [hring]
        simpa using hlength
  | @tooLong line last left hleft hline hlength =>
      have hpush := push_push scanner [b] line
      rw [hpush]
      refine .tooLong ?_ (hnot _ hline) ?_
      · rw [hring, hleft]
        rfl
      · simpa using hlength

/-- What is left was behind what was taken out. -/
theorem Scanned.suffix {result : Scan × Scanner × Ring} (h : Scanned scanner ring result) :
    result.2.2.toList <:+ ring.toList := by
  rcases h with @⟨line, rest, hring, -, -⟩ | ⟨hrest, -, -⟩ | @⟨line, b, rest, hring, -, -⟩
  · exact ⟨line ++ [lineFeed], by rw [hring, List.append_assoc, List.singleton_append]⟩
  · rw [hrest]
    exact List.nil_suffix
  · exact ⟨line ++ [b], by rw [hring, List.append_assoc, List.singleton_append]⟩

/-- Nothing is scanned in an empty ring. -/
theorem Scanned.of_nil (hring : ring.toList = []) (hlimit : scanner.bytes.length ≤ limit) :
    Scanned scanner ring (.incomplete, scanner, ring) := by
  have h : Scanned scanner ring (.incomplete, scanner.push ring.toList, ring) :=
    .incomplete hring (by rw [hring]; exact List.not_mem_nil) (by simpa [hring] using hlimit)
  rwa [hring, push_nil] at h

/-- **A scan of the whole ring** ends in one of the three ways. -/
theorem scanned_scan (hlimit : scanner.bytes.length ≤ limit) {count : Nat}
    (hcount : ring.length ≤ count) : Scanned scanner ring (scanner.scan ring count) := by
  induction count generalizing scanner ring with
  | zero =>
      refine Scanned.of_nil (List.eq_nil_of_length_eq_zero ?_) hlimit
      rw [Ring.length_toList]
      omega
  | succ count ih =>
      unfold scan
      split
      · rename_i hpop
        exact Scanned.of_nil (Ring.toList_of_pop?_eq_none hpop) hlimit
      · rename_i b rest hpop
        have hring : ring.toList = [] ++ b :: rest.toList := Ring.toList_of_pop? hpop
        have hlength := Ring.length_of_pop? hpop
        have hsize : scanner.bytes.length = scanner.target.size := by simp [bytes]
        split
        · rename_i hb
          subst hb
          have h := Scanned.complete hring List.not_mem_nil (by simpa using hlimit)
          rwa [push_nil] at h
        · rename_i hb
          split
          · rename_i hfull
            have heq : scanner.bytes.length = limit := by omega
            have h := Scanned.tooLong hring (by simpa using Ne.symm hb) (by simpa using heq)
            rwa [push_nil] at h
          · rename_i hroom
            rw [push_singleton]
            refine Scanned.cons hring hb (ih ?_ (by omega))
            rw [bytes_push, List.length_append, List.length_singleton]
            omega

/-- A line that has not ended is scanned on. -/
theorem scanned_advance (hdone : scanner.done = false) (hlimit : scanner.bytes.length ≤ limit) :
    Scanned scanner ring (scanner.advance ring) := by
  rw [advance, hdone]
  exact scanned_scan hlimit (Nat.le_refl _)

end FileServer.Scanner
