import FileServer.Http.Reader
import FileServer.Proofs.Text.Blank
import FileServer.Proofs.Text.Decimal
import FileServer.Proofs.Text.Utf8

/-!
# Responses are read as they were written

The reader of a client is written against the format and knows nothing of the writer. Here the two
are put together: a response that is written is read as itself, whatever stands behind it
(`read_bytes_append`), and so is every stream of responses, one after the other, until nothing is
left of it (`readMany_stream`).

The proof follows the reader. A line ends at its line feed, so no header line may hold one; that is
why media types with a line feed are left out. Of the four header lines two are noted, and only
their names decide which (`note_ignored`, `note_length`, `note_connection`). From the blank line on
only the announced length counts, so the body may hold anything, even what looks like another header
block.
-/

namespace FileServer.Http

open Text

/-- What a client should find in a response. -/
def Response.received (r : Response) : Received where
  status := r.status.toNat
  head := headText r.status r.mediaType r.body.length r.keepAlive
  body := r.body
  keepAlive := r.keepAlive

/-- Responses as they go out, one behind the other. -/
def stream (responses : List Response) : Bytes :=
  responses.flatMap Response.bytes

namespace Reader

/-- Reads a number of responses off the front of a stream. -/
def readMany : Nat → Bytes → Except ReadFault (List Received × Bytes)
  | 0, stream => .ok ([], stream)
  | count + 1, stream =>
    match read stream with
    | .error fault => .error fault
    | .ok (first, rest) =>
      match readMany count rest with
      | .error fault => .error fault
      | .ok (others, rest) => .ok (first :: others, rest)

variable {progress next : Progress} {line name value : List Char} {rest : Bytes}

/-! ### Lines -/

/-- A line goes up to its line feed. -/
theorem takeLine_append {line : Bytes} (h : 0x0A ∉ line) (rest : Bytes) :
    takeLine (line ++ 0x0A :: rest) = (line ++ [0x0A], rest) := by
  induction line with
  | nil => rfl
  | cons b line ih =>
      rw [List.mem_cons, not_or] at h
      rw [List.cons_append, takeLine, if_neg (Ne.symm h.1), ih h.2]
      rfl

/-- The bytes of a text are nothing but text. -/
theorem strictText_encode (s : String) : strictText (encode s) = some s := by
  simp [strictText]

/-- A line that is written is the line that is taken. -/
theorem takeLine_encode (line : String) (h : '\n' ∉ line.toList) (rest : Bytes) :
    takeLine (encode (line ++ lineEnd) ++ rest) = (encode (line ++ lineEnd), rest) := by
  have hfeed : 0x0A ∉ encode line ++ [0x0D] := by
    rw [List.mem_append, not_or]
    exact ⟨ascii_notMem_encodeChars (by decide) h, by decide⟩
  have hend : encode (line ++ lineEnd) = encode line ++ [0x0D] ++ [0x0A] := by
    rw [encode_append, List.append_assoc]
    rfl
  rw [hend, List.append_assoc, List.singleton_append, takeLine_append hfeed]

/-- The end of a line is trimmed away. -/
theorem trimEnd_line (line : String) : trimEnd (line ++ lineEnd).toList = trimEnd line.toList := by
  rw [String.toList_append]
  apply trimEnd_append_blanks
  apply List.all_eq_true.1
  decide

/-- **A header line** is noted, if it is not blank. -/
theorem readHead_line {line : String} (hfeed : '\n' ∉ line.toList)
    (hne : trimEnd line.toList ≠ [])
    (hnote : note { progress with head := progress.head ++ (line ++ lineEnd) }
      (trimEnd line.toList) = .ok next) :
    readHead progress (encode (line ++ lineEnd) ++ rest) = readHead next rest := by
  have htake := takeLine_encode line hfeed rest
  obtain ⟨b, bs, hbytes⟩ : ∃ b bs, encode (line ++ lineEnd) ++ rest = b :: bs := by
    apply List.exists_cons_of_ne_nil
    rw [encode_append]
    simp [encode, lineEnd]
  rw [hbytes] at htake ⊢
  rw [readHead, htake, strictText_encode]
  simp only [trimEnd_line]
  rw [if_neg (by simpa using hne), hnote]

/-- The blank line ends a header block. -/
theorem readHead_blank (progress : Progress) (rest : Bytes) :
    readHead progress (encode lineEnd ++ rest)
      = .ok ({ progress with head := progress.head ++ lineEnd }, rest) := by
  have htake := takeLine_encode "" (by decide) rest
  rw [String.empty_append] at htake
  have hbytes : encode lineEnd ++ rest = 0x0D :: 0x0A :: rest := rfl
  rw [hbytes] at htake ⊢
  rw [readHead, htake, strictText_encode]
  rfl

/-! ### Header lines -/

/-- A name ends at the first colon. -/
theorem nameAndValue_append (h : ':' ∉ name) (value : List Char) :
    nameAndValue (name ++ ':' :: value) = some (name, value) := by
  have hbefore : ∀ c ∈ name, decide (c ≠ ':') = true := by
    rintro c hc
    simp only [decide_eq_true_eq]
    rintro rfl
    exact h hc
  rw [nameAndValue, if_pos (by simp), List.takeWhile_append_of_pos hbefore,
    List.dropWhile_append_of_pos hbefore]
  simp

/-- Trimming a line leaves its name. -/
theorem nameAndValue_trimEnd (h : ':' ∉ name) (value : List Char) :
    nameAndValue (trimEnd (name ++ ':' :: value)) = some (name, trimEnd value) := by
  rw [trimEnd_append_cons (by decide), nameAndValue_append h]

/-- A line without a colon says nothing. -/
theorem note_of_notMem (h : ':' ∉ line) (progress : Progress) :
    note progress line = .ok progress := by
  rw [note, nameAndValue, if_neg h]

/-- So does a line with a name that does not matter. -/
theorem note_ignored (h : ':' ∉ name) (hlength : lower name ≠ "content-length".toList)
    (hconnection : lower name ≠ "connection".toList) (progress : Progress) (value : List Char) :
    note progress (trimEnd (name ++ ':' :: value)) = .ok progress := by
  rw [note, nameAndValue_trimEnd h]
  simp only
  rw [if_neg hlength, if_neg hconnection]

/-- The length of the body is noted as it was printed. -/
theorem note_length {length : Nat} (h : length ≤ Decimal.max64) (progress : Progress) :
    note progress (trimEnd ("Content-Length".toList ++ ':' :: ' ' :: (Decimal.print length).toList))
      = .ok { progress with length } := by
  have hdigits : ∀ c ∈ (Decimal.print length).toList, isBlank c = false :=
    fun c hc => Decimal.isBlank_of_isDigit (Decimal.isDigit_of_mem_print hc)
  rw [note, nameAndValue_trimEnd (by decide)]
  simp only
  rw [if_pos (by decide), trim_space_cons hdigits (Decimal.print_ne_nil length),
    Decimal.readNat_print h]

/-- So is whether the connection is kept. -/
theorem note_connection (keepAlive : Bool) (progress : Progress) :
    note progress
        (trimEnd ("Connection".toList ++ ':' :: ' ' :: (connectionToken keepAlive).toList))
      = .ok { progress with keepAlive } := by
  have htoken : ∀ c ∈ (connectionToken keepAlive).toList, isBlank c = false := by
    apply not_isBlank_of_any
    cases keepAlive <;> decide
  have hne : (connectionToken keepAlive).toList ≠ [] := by
    cases keepAlive <;> decide
  have hread : decide (lower (connectionToken keepAlive).toList = "keep-alive".toList)
      = keepAlive := by
    cases keepAlive <;> decide
  rw [note, nameAndValue_trimEnd (by decide)]
  simp only
  rw [if_neg (by decide), if_pos (by decide), trim_space_cons htoken hne, hread]

/-! ### Header blocks -/

variable {status : Status} {mediaType : String} {length : Nat} {keepAlive : Bool}

/-- The phrase of a status has neither colon nor line feed. -/
theorem reason_plain (status : Status) {c : Char} (h : c = ':' ∨ c = '\n') :
    c ∉ status.reason.toList := by
  unfold Status.reason
  rcases h with rfl | rfl <;> split <;> decide

/-- A number is printed in digits only. -/
theorem print_plain (n : Nat) {c : Char} (h : c.isDigit = false) :
    c ∉ (Decimal.print n).toList := by
  intro hmem
  rw [Decimal.isDigit_of_mem_print hmem] at h
  cases h

/-- A status line has no colon and no line feed. -/
theorem statusLine_plain (status : Status) {c : Char} (h : c = ':' ∨ c = '\n') :
    c ∉ ("HTTP/1.1 " ++ statusPhrase status).toList := by
  have hprint : c ∉ (Decimal.print status.toNat).toList := by
    apply print_plain
    rcases h with rfl | rfl <;> decide
  have hfixed : c ∉ "HTTP/1.1 ".toList ∧ c ∉ " ".toList := by
    rcases h with rfl | rfl <;> decide
  simp only [statusPhrase, String.toList_append, List.mem_append, not_or]
  exact ⟨hfixed.1, ⟨hprint, hfixed.2⟩, reason_plain status h⟩

/-- The status line is read over. -/
theorem readHead_statusLine (status : Status) (progress : Progress) (rest : Bytes) :
    readHead progress (encode ("HTTP/1.1 " ++ statusPhrase status ++ lineEnd) ++ rest)
      = readHead
          { progress with
            head := progress.head ++ ("HTTP/1.1 " ++ statusPhrase status ++ lineEnd) } rest := by
  have hbegin : trimEnd ("HTTP/1.1 " ++ statusPhrase status).toList
      = 'H' :: trimEnd ("TTP/1.1 ".toList ++ (statusPhrase status).toList) := by
    rw [String.toList_append]
    exact trimEnd_append_cons (by decide) [] _
  apply readHead_line (statusLine_plain status (Or.inr rfl))
  · rw [hbegin]
    exact List.cons_ne_nil _ _
  · apply note_of_notMem
    intro hcolon
    exact statusLine_plain status (Or.inl rfl) (mem_of_mem_trimEnd hcolon)

/-- A header line with a name. -/
theorem readHead_named (line : String) {noted : Progress → Progress}
    (hline : line.toList = name ++ ':' :: value) (hfeed : '\n' ∉ line.toList)
    (hnote : ∀ progress, note progress (trimEnd (name ++ ':' :: value)) = .ok (noted progress))
    (progress : Progress) (rest : Bytes) :
    readHead progress (encode (line ++ lineEnd) ++ rest)
      = readHead (noted { progress with head := progress.head ++ (line ++ lineEnd) }) rest := by
  apply readHead_line hfeed
  · rw [hline, trimEnd_append_cons (by decide)]
    simp
  · rw [hline]
    exact hnote _

/-- **A header block** is read as it was written. -/
theorem readHead_head (hmedia : '\n' ∉ mediaType.toList) (hlength : length ≤ Decimal.max64)
    (rest : Bytes) :
    readHead ⟨"", 0, false⟩ (head status mediaType length keepAlive ++ rest)
      = .ok (⟨headText status mediaType length keepAlive, length, keepAlive⟩, rest) := by
  have hbytes : head status mediaType length keepAlive ++ rest
      = encode ("HTTP/1.1 " ++ statusPhrase status ++ lineEnd)
        ++ (encode ("Content-Type: " ++ mediaType ++ lineEnd)
        ++ (encode ("Content-Length: " ++ Decimal.print length ++ lineEnd)
        ++ (encode ("Connection: " ++ connectionToken keepAlive ++ lineEnd)
        ++ (encode lineEnd ++ rest)))) := by
    simp [head, headText, headLines, endLines]
  have hplain : ∀ name value : String, '\n' ∉ name.toList → '\n' ∉ value.toList →
      '\n' ∉ (name ++ value).toList := by
    intro name value hname hvalue
    rw [String.toList_append, List.mem_append, not_or]
    exact ⟨hname, hvalue⟩
  have hignored : ∀ progress,
      note progress (trimEnd ("Content-Type".toList ++ ':' :: ' ' :: mediaType.toList))
        = .ok progress :=
    fun progress => note_ignored (by decide) (by decide) (by decide) progress _
  have htype := readHead_named ("Content-Type: " ++ mediaType) String.toList_append
    (hplain _ _ (by decide) hmedia) hignored
  have hnumber := readHead_named ("Content-Length: " ++ Decimal.print length)
    String.toList_append (hplain _ _ (by decide) (print_plain length (by decide)))
    (note_length hlength)
  have hkept := readHead_named ("Connection: " ++ connectionToken keepAlive)
    String.toList_append (hplain _ _ (by decide) (by cases keepAlive <;> decide))
    (note_connection keepAlive)
  rw [hbytes, readHead_statusLine, htype, hnumber, hkept, readHead_blank]
  simp [headText, headLines, endLines, String.append_assoc]

/-- The status is the second word of a header block. -/
theorem statusOf_headText (status : Status) (mediaType : String) (length : Nat)
    (keepAlive : Bool) :
    statusOf (headText status mediaType length keepAlive) = some status.toNat := by
  have hdigits : ∀ c ∈ (Decimal.print status.toNat).toList, isBlank c = false :=
    fun c hc => Decimal.isBlank_of_isDigit (Decimal.isDigit_of_mem_print hc)
  have hbound : status.toNat ≤ 65535 := Nat.le_of_lt_succ status.toNat_lt
  obtain ⟨others, htext⟩ : ∃ others, (headText status mediaType length keepAlive).toList
      = "HTTP/1.1".toList ++ ' ' :: ((Decimal.print status.toNat).toList ++ ' ' :: others) := by
    simp only [headText, headLines, List.cons_append, endLines, statusPhrase, String.toList_append,
      List.append_assoc]
    exact ⟨_, rfl⟩
  have hversion : ∀ c ∈ "HTTP/1.1".toList, isBlank c = false := not_isBlank_of_any (by decide)
  rw [statusOf, htext, words_append_blank hversion (by decide) (by decide),
    words_append_blank hdigits (Decimal.print_ne_nil _) (by decide)]
  exact Decimal.readNat_print hbound

/-! ### Responses and streams -/

/-- **A response** is read as it was written, whatever stands behind it. -/
theorem read_bytes_append {r : Response} (hmedia : '\n' ∉ r.mediaType.toList)
    (hlength : r.body.length ≤ Decimal.max64) (rest : Bytes) :
    read (r.bytes ++ rest) = .ok (r.received, rest) := by
  rw [Response.bytes, Response.head, List.append_assoc, read, readHead_head hmedia hlength]
  simp only
  rw [statusOf_headText]
  simp [Response.received]

/-- **A stream of responses** is read as it was written, one response after the other, and what
stands behind it is left. -/
theorem readMany_stream (responses : List Response)
    (hmedia : ∀ r ∈ responses, '\n' ∉ r.mediaType.toList)
    (hlength : ∀ r ∈ responses, r.body.length ≤ Decimal.max64) (rest : Bytes) :
    readMany responses.length (stream responses ++ rest)
      = .ok (responses.map Response.received, rest) := by
  induction responses with
  | nil => rfl
  | cons r responses ih =>
      have hfirst := read_bytes_append (hmedia r List.mem_cons_self)
        (hlength r List.mem_cons_self) (stream responses ++ rest)
      have hothers := ih (fun other hother => hmedia other (List.mem_cons_of_mem _ hother))
        fun other hother => hlength other (List.mem_cons_of_mem _ hother)
      rw [stream, List.flatMap_cons, List.append_assoc, List.length_cons, readMany]
      rw [stream] at hfirst hothers
      rw [hfirst]
      simp only [hothers, List.map_cons]

/-- A body that looks like a blank line and another header block, an empty one and one that is no
text, behind them a stream that goes on. -/
theorem readMany_stream_nested :
    let responses : List Response :=
      [⟨200, "text/plain", encode "\r\n\r\nHTTP/1.1 1 x\r\nContent-Length: 9\r\n\r\n", true⟩,
        ⟨0, "", [], false⟩, ⟨65535, " \r: ", [0x0A, 0xFF], true⟩]
    (∀ r ∈ responses, '\n' ∉ r.mediaType.toList) ∧
      (∀ r ∈ responses, r.body.length ≤ Decimal.max64) ∧
      readMany 3 (stream responses ++ [0x48]) = .ok (responses.map Response.received, [0x48]) := by
  intro responses
  have hmedia : ∀ r ∈ responses, '\n' ∉ r.mediaType.toList := by decide
  have hlength : ∀ r ∈ responses, r.body.length ≤ Decimal.max64 := by decide +kernel
  exact ⟨hmedia, hlength, readMany_stream responses hmedia hlength [0x48]⟩

end Reader

end FileServer.Http
