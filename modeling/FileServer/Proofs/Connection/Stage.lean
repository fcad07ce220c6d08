import FileServer.Connection.Basic
import FileServer.Proofs.Connection.Replies
import FileServer.Proofs.Intake.Ring
import FileServer.Proofs.Wire

/-!
# Where a connection stands in its input

`Turn.Serving` ties the parts of a connection to all the input that has arrived for it: what is
handled, the line that is being read, what is in the ring and what still waits on the wire are
together that input, and what is written is the responses to what is handled with a front part of
one more. Every phase has its own way to say so (`Stage`), and its own lemma to show it.

Nothing of this is lost when more arrives or more is published (`Serving.later`).
-/

namespace FileServer

variable {settings : Settings} {published : List (String × Content)} {input : Bytes}

/-- The input that is not scanned: in the ring, and behind it on the wire. -/
def Turn.ahead (turn : Turn) : Bytes := turn.conn.ring.toList ++ turn.wire.incoming

/-- The line that has been read can be one: it holds no line feed and is within the limit. -/
def Scanner.Legal (scanner : Scanner) : Prop :=
  Scanner.lineFeed ∉ scanner.bytes ∧ scanner.bytes.length ≤ Scanner.limit

/-- One more response is owed, and if the connection is kept, what is ahead begins with the line
behind it. -/
def Owed (settings : Settings) (published : List (String × Content)) (input ahead : Bytes)
    (responses : List Http.Response) (response : Http.Response) : Prop :=
  Replies settings published input (responses ++ [response]) ∧
    (response.keepAlive = true → ∃ past,
      Handled settings published past (responses ++ [response]) ∧ input = past ++ ahead)

/-- The key whose content a connection waits for. -/
def Phase.wanted? : Phase → Option String
  | .resolving key _ => some key
  | .missed key _ => some key
  | .asking key => some key
  | _ => none

/-- What holds in each phase, when `responses` are written whole. -/
inductive Stage (settings : Settings) (published : List (String × Content)) (input : Bytes)
    (scanner : Scanner) (ahead output : Bytes) (responses : List Http.Response) : Phase → Prop where
  /-- What is handled, the line so far and what is ahead are the input. -/
  | reading {past : Bytes} (hpast : Handled settings published past responses)
      (hinput : input = past ++ (scanner.bytes ++ ahead)) (hdone : scanner.done = false)
      (hlegal : scanner.Legal) (houtput : output = written responses) :
      Stage settings published input scanner ahead output responses .reading
  /-- The line is read, and names the key. -/
  | waiting {past : Bytes} {key : String} {phase : Phase}
      (hphase : phase.wanted? = some key)
      (hpast : Handled settings published past responses)
      (hinput : input = past ++ (scanner.bytes ++ Scanner.lineFeed :: ahead))
      (hlegal : scanner.Legal) (hkey : Key.resolve settings.root scanner.text = .ok key)
      (houtput : output = written responses) :
      Stage settings published input scanner ahead output responses phase
  /-- A front part of the next response is written. -/
  | sending {out : Outgoing} {response : Http.Response} (hhead : out.head = response.head)
      (hbody : out.body = response.body) (hkeep : out.keepAlive = response.keepAlive)
      (howed : Owed settings published input ahead responses response)
      (houtput : output = written responses ++ response.bytes.take out.written) :
      Stage settings published input scanner ahead output responses (.sending out)
  /-- The next response is written. -/
  | finishing {response : Http.Response}
      (howed : Owed settings published input ahead responses response)
      (houtput : output = written (responses ++ [response])) :
      Stage settings published input scanner ahead output responses (.finishing response.keepAlive)
  /-- Nothing more is written. -/
  | closed {others : List Http.Response}
      (hall : Replies settings published input (responses ++ others))
      (hwhole : written responses <+: output) (hpart : output <+: written (responses ++ others)) :
      Stage settings published input scanner ahead output responses .closed

/-- A connection on its wire has served what it was sent, as far as it has come. -/
def Turn.Serving (settings : Settings) (published : List (String × Content)) (input : Bytes)
    (turn : Turn) : Prop :=
  ∃ responses, responses.length = turn.conn.served ∧
    Stage settings published input turn.conn.scanner turn.ahead turn.wire.output responses
      turn.conn.phase

namespace Turn

variable {turn : Turn} {responses : List Http.Response} {response : Http.Response} {past : Bytes}

/-! ### Ways to stand in the input -/

/-- A connection that reads on. -/
theorem serving_reading (hphase : turn.conn.phase = .reading)
    (hserved : responses.length = turn.conn.served)
    (hpast : Handled settings published past responses)
    (hinput : input = past ++ (turn.conn.scanner.bytes ++ turn.ahead))
    (hdone : turn.conn.scanner.done = false) (hlegal : turn.conn.scanner.Legal)
    (houtput : turn.wire.output = written responses) : turn.Serving settings published input := by
  refine ⟨responses, hserved, ?_⟩
  rw [hphase]
  exact .reading hpast hinput hdone hlegal houtput

/-- A connection that waits for a content. -/
theorem serving_waiting {key : String} {phase : Phase} (hphase : phase.wanted? = some key)
    (hserved : responses.length = turn.conn.served)
    (hpast : Handled settings published past responses)
    (hinput : input = past ++ (turn.conn.scanner.bytes ++ Scanner.lineFeed :: turn.ahead))
    (hlegal : turn.conn.scanner.Legal)
    (hkey : Key.resolve settings.root turn.conn.scanner.text = .ok key)
    (houtput : turn.wire.output = written responses) :
    (turn.enter phase).Serving settings published input :=
  ⟨responses, hserved, .waiting hphase hpast hinput hlegal hkey houtput⟩

/-- A connection that sends on. -/
theorem serving_sending {out : Outgoing} (hphase : turn.conn.phase = .sending out)
    (hserved : responses.length = turn.conn.served) (hhead : out.head = response.head)
    (hbody : out.body = response.body) (hkeep : out.keepAlive = response.keepAlive)
    (howed : Owed settings published input turn.ahead responses response)
    (houtput : turn.wire.output = written responses ++ response.bytes.take out.written) :
    turn.Serving settings published input := by
  refine ⟨responses, hserved, ?_⟩
  rw [hphase]
  exact .sending hhead hbody hkeep howed houtput

/-- A connection that is closed when a part of what it still owes is written. -/
theorem serving_closed {others : List Http.Response} {part : Bytes}
    (hserved : responses.length = turn.conn.served)
    (hall : Replies settings published input (responses ++ others))
    (houtput : turn.wire.output = written responses ++ part) (hpart : part <+: written others) :
    (turn.enter .closed).Serving settings published input := by
  refine ⟨responses, hserved, .closed hall ⟨part, houtput.symm⟩ ?_⟩
  obtain ⟨left, hleft⟩ := hpart
  refine ⟨left, ?_⟩
  rw [written_append, ← hleft, ← List.append_assoc, ← houtput]
  rfl

/-- A connection that is closed when it owes nothing. -/
theorem serving_stopped (hserved : responses.length = turn.conn.served)
    (hall : Replies settings published input responses)
    (houtput : turn.wire.output = written responses) :
    (turn.enter .closed).Serving settings published input := by
  have hwhole : turn.wire.output = written responses ++ [] := by rw [houtput, List.append_nil]
  have hnone : Replies settings published input (responses ++ []) := by rwa [List.append_nil]
  exact serving_closed hserved hnone hwhole List.nil_prefix

end Turn

/-! ### What comes later -/

/-- A response stays owed. -/
theorem Owed.later {ahead : Bytes} {responses : List Http.Response} {response : Http.Response}
    (h : Owed settings published input ahead responses response)
    (others : List (String × Content)) (more : Bytes) :
    Owed settings (published ++ others) (input ++ more) (ahead ++ more) responses response := by
  refine ⟨(h.1.publish others).arrive more, ?_⟩
  intro hkeep
  obtain ⟨past, hpast, hinput⟩ := h.2 hkeep
  exact ⟨past, hpast.publish others, by rw [hinput, List.append_assoc]⟩

/-- A stage stays one when more is published and more arrives. -/
theorem Stage.later {scanner : Scanner} {ahead output : Bytes} {responses : List Http.Response}
    {phase : Phase} (h : Stage settings published input scanner ahead output responses phase)
    (others : List (String × Content)) (more : Bytes) :
    Stage settings (published ++ others) (input ++ more) scanner (ahead ++ more) output responses
      phase := by
  cases h with
  | reading hpast hinput hdone hlegal houtput =>
      exact .reading (hpast.publish others) (by simp [hinput]) hdone hlegal houtput
  | waiting hphase hpast hinput hlegal hkey houtput =>
      exact .waiting hphase (hpast.publish others) (by simp [hinput]) hlegal hkey houtput
  | sending hhead hbody hkeep howed houtput =>
      exact .sending hhead hbody hkeep (howed.later others more) houtput
  | finishing howed houtput => exact .finishing (howed.later others more) houtput
  | closed hall hwhole hpart => exact .closed ((hall.publish others).arrive more) hwhole hpart

/-- **More input and more contents** leave a connection where it stands. -/
theorem Turn.Serving.later {conn : Connection} {wire next : Wire} {hub : Hub}
    (h : Turn.Serving settings published input ⟨conn, wire, hub⟩)
    (others : List (String × Content)) {more : Bytes}
    (hincoming : next.incoming = wire.incoming ++ more) (houtput : next.output = wire.output) :
    Turn.Serving settings (published ++ others) (input ++ more) ⟨conn, next, hub⟩ := by
  obtain ⟨responses, hserved, hstage⟩ := h
  refine ⟨responses, hserved, ?_⟩
  have hahead : Turn.ahead ⟨conn, next, hub⟩ = Turn.ahead ⟨conn, wire, hub⟩ ++ more := by
    simp [Turn.ahead, hincoming]
  rw [hahead, houtput]
  exact hstage.later others more

end FileServer
