import FileServer.Connection.Drive
import FileServer.Proofs.Connection.Stage
import FileServer.Proofs.Hub
import FileServer.Proofs.Intake.Scanner

/-!
# Drives serve the input

A step of a drive keeps a connection where its input says (`Turn.Serving`), whatever the wire
does, as long as the cache holds nothing that was not published; and it leaves nothing else in the
cache. `Turn.Sound` is both, `sound_step` that a step keeps it, case by case of the phase, and
`sound_drive` that a whole drive does.
-/

namespace FileServer

variable {settings : Settings} {published : List (String × Content)} {input : Bytes}

/-- What every step of a drive keeps. -/
structure Turn.Sound (settings : Settings) (published : List (String × Content)) (input : Bytes)
    (turn : Turn) : Prop where
  /-- The connection has served what it was sent. -/
  serving : turn.Serving settings published input
  /-- The cache holds what was published. -/
  stocked : turn.hub.Stocked published

/-- Where a step leads to, whether the drive goes on or not. -/
def Progress.turn : Progress → Turn
  | .on turn => turn
  | .rest _ turn => turn

/-- What the connection needs, if the drive is over. -/
def Progress.need? : Progress → Option Need
  | .on _ => none
  | .rest need _ => some need

namespace Turn

variable {turn : Turn} {responses : List Http.Response} {response : Http.Response} {past : Bytes}

/-- Corking leaves what is ahead. -/
@[simp] theorem ahead_cork (settings : Settings) (on : Bool) (turn : Turn) :
    (turn.cork settings on).ahead = turn.ahead := by
  unfold cork
  split
  · simp [ahead]
  · rfl

/-- Corking leaves the output. -/
@[simp] theorem output_cork (settings : Settings) (on : Bool) (turn : Turn) :
    (turn.cork settings on).wire.output = turn.wire.output := by
  unfold cork
  split <;> simp

/-- Corking leaves the hub. -/
@[simp] theorem hub_cork (settings : Settings) (on : Bool) (turn : Turn) :
    (turn.cork settings on).hub = turn.hub := by
  unfold cork
  split <;> rfl

/-- A response that is sent is all that changes in the connection. -/
@[simp] theorem conn_send (settings : Settings) (response : Http.Response) (turn : Turn) :
    (turn.send settings response).conn
      = { turn.conn with phase := .sending (.ofResponse response) } := by
  simp [send, enter]

/-! ### Beginning a response -/

/-- A response that is owed is begun. -/
theorem serving_send (hserved : responses.length = turn.conn.served)
    (howed : Owed settings published input turn.ahead responses response)
    (houtput : turn.wire.output = written responses) :
    (turn.send settings response).Serving settings published input := by
  refine ⟨responses, ?_, ?_⟩
  · simpa [send, enter] using hserved
  · have hahead : (turn.send settings response).ahead = turn.ahead :=
      ahead_cork settings true turn
    have hwire : (turn.send settings response).wire.output = written responses :=
      (output_cork settings true turn).trans houtput
    have hphase : (turn.send settings response).conn.phase = .sending (.ofResponse response) := by
      rw [send, enter]
    -- The head of a response is a long text, which must not be unfolded here.
    have hhead : (Outgoing.ofResponse response).head = response.head := by
      rw [Outgoing.ofResponse]
    have hbody : (Outgoing.ofResponse response).body = response.body := rfl
    have hkeep : (Outgoing.ofResponse response).keepAlive = response.keepAlive := rfl
    rw [hahead, hwire, hphase]
    apply Stage.sending hhead hbody hkeep howed
    simp [Outgoing.ofResponse]

/-- A refusal is owed if it is the only response to what is not handled. -/
theorem owed_error {status : Http.Status} {rest : Bytes} {ahead : Bytes}
    (hpast : Handled settings published past responses)
    (hrest : Replies settings published rest [.error status false]) :
    Owed settings published (past ++ rest) ahead responses (.error status false) := by
  refine ⟨hpast.replies hrest, ?_⟩
  intro hkeep
  cases hkeep

/-- The line that has been read is handled. -/
theorem serving_begin (hserved : responses.length = turn.conn.served)
    (hpast : Handled settings published past responses)
    (hinput : input = past ++ (turn.conn.scanner.bytes ++ Scanner.lineFeed :: turn.ahead))
    (hlegal : turn.conn.scanner.Legal) (houtput : turn.wire.output = written responses) :
    (turn.begin settings).Serving settings published input := by
  unfold begin
  split
  · rename_i key hkey
    exact serving_waiting rfl hserved hpast hinput hlegal hkey houtput
  · rename_i cause hkey
    refine serving_send hserved ?_ houtput
    rw [hinput]
    exact owed_error hpast (.refused _ hlegal.1 hlegal.2 hkey)

/-- Scanning finds a line too long where its refusal is owed. -/
theorem overlong_of_scanned {scanner : Scanner} {ring rest : Ring} {line more : Bytes} {b : UInt8}
    (hring : ring.toList = line ++ b :: rest.toList) (hbefore : Scanner.lineFeed ∉ scanner.bytes)
    (hline : Scanner.lineFeed ∉ line ++ [b])
    (hlength : (scanner.bytes ++ line).length = Scanner.limit) :
    Replies settings published (scanner.bytes ++ (ring.toList ++ more)) [.error 414 false] := by
  have hsplit : scanner.bytes ++ (ring.toList ++ more)
      = (scanner.bytes ++ (line ++ [b])) ++ (rest.toList ++ more) := by simp [hring]
  have htaken : (scanner.bytes ++ (line ++ [b])).length = Scanner.limit + 1 := by
    simp only [List.length_append, List.length_singleton] at hlength ⊢
    omega
  rw [hsplit]
  refine .overlong ?_ ?_
  · rw [List.length_append]
    omega
  · rw [← htaken, List.take_left]
    simpa using And.intro hbefore hline

/-! ### The steps -/

/-- Reading on. -/
theorem Serving.read (h : turn.Serving settings published input)
    (hphase : turn.conn.phase = .reading) :
    (turn.read settings).turn.Serving settings published input := by
  obtain ⟨responses, hserved, hstage⟩ := h
  rw [hphase] at hstage
  cases hstage with
  | waiting hwaiting => cases hwaiting
  | @reading past hpast hinput hdone hlegal houtput =>
      have hscanned : Scanner.Scanned turn.conn.scanner turn.conn.ring
          (turn.conn.scanner.advance turn.conn.ring) := Scanner.scanned_advance hdone hlegal.2
      unfold Turn.read
      generalize turn.conn.scanner.advance turn.conn.ring = result at hscanned
      cases hscanned with
      | @complete line rest hring hline hlength =>
          refine serving_begin hserved hpast ?_ ⟨?_, ?_⟩ houtput
          · simp [hinput, ahead, hring, Scanner.bytes, Scanner.push]
          · simpa [Scanner.bytes, Scanner.push] using And.intro hlegal.1 hline
          · simpa [Scanner.bytes, Scanner.push] using hlength
      | @tooLong line b rest hring hline hlength =>
          refine serving_send hserved ?_ houtput
          rw [hinput]
          exact owed_error hpast (overlong_of_scanned hring hlegal.1 hline hlength)
      | @incomplete rest hrest hline hlength =>
          have hpushed : (turn.conn.scanner.push turn.conn.ring.toList).Legal := by
            constructor
            · simpa using And.intro hlegal.1 hline
            · simpa using hlength
          have hscanned : input = past ++
              ((turn.conn.scanner.push turn.conn.ring.toList).bytes ++ turn.wire.incoming) := by
            simp [hinput, ahead]
          have hall : Replies settings published input responses := hinput ▸ hpast.replies_self _
          rcases hread : turn.wire.read rest.writable with ⟨outcome, wire⟩
          have hwritten : wire.output = turn.wire.output := by
            have := turn.wire.output_read rest.writable
            rwa [hread] at this
          have hsame : ∀ {cause : Fault}, outcome = .error cause →
              wire.incoming = turn.wire.incoming := by
            intro cause heq
            exact Wire.incoming_read_of_error (heq ▸ hread)
          simp only [hread]
          split
          · exact serving_stopped hserved hall (hwritten.trans houtput)
          · rename_i bytes hbytes
            obtain ⟨hincoming, hroom⟩ := Wire.incoming_read hread
            refine serving_reading hphase hserved hpast ?_ hdone hpushed (hwritten.trans houtput)
            rw [hscanned, hincoming]
            simp [Progress.turn, ahead, Ring.toList_fill_of_le hroom, hrest]
          · refine serving_reading hphase hserved hpast ?_ hdone hpushed (hwritten.trans houtput)
            rw [hscanned, ← hsame rfl]
            simp [Progress.turn, ahead, hrest]
          · refine serving_reading hphase hserved hpast ?_ hdone hpushed (hwritten.trans houtput)
            rw [hscanned, ← hsame rfl]
            simp [Progress.turn, ahead, hrest]
          · exact serving_stopped hserved hall (hwritten.trans houtput)

/-- A content is served as the settings say. -/
theorem keepAlive_response (key : String) (keepAlive : Bool) (content : Content) :
    (content.response key keepAlive).keepAlive = keepAlive := by
  cases content <;> rfl

/-- Looking for a content. -/
theorem Serving.resolve {key : String} {ticket : Option Ticket}
    (h : turn.Serving settings published input) (hstocked : turn.hub.Stocked published)
    (hphase : turn.conn.phase = .resolving key ticket) :
    (turn.resolve settings key ticket).turn.Serving settings published input := by
  obtain ⟨responses, hserved, hstage⟩ := h
  rw [hphase] at hstage
  cases hstage with
  | @waiting past named _ hwaiting hpast hinput hlegal hkey houtput =>
      obtain rfl := Option.some.inj hwaiting
      have hfound := (hstocked.lookup key).2
      unfold Turn.resolve
      rcases hlookup : turn.hub.lookup key with ⟨found, hub⟩
      cases found with
      | none => exact serving_waiting rfl hserved hpast hinput hlegal hkey houtput
      | some content =>
          have hline : Answers settings published turn.conn.scanner.bytes
              (content.response key settings.keepAlive) :=
            ⟨hlegal.1, hlegal.2, key, content, hkey, hfound content (by rw [hlookup]), rfl⟩
          refine serving_send hserved ⟨?_, fun hkeep => ?_⟩ houtput
          · rw [hinput]
            exact hpast.replies_line hline _
          · refine ⟨_, hpast.concat hline ?_, ?_⟩
            · rwa [keepAlive_response] at hkeep
            · rw [hinput]
              simp [ahead]

/-- A connection that waits for a content waits on in another phase. -/
theorem Serving.wait {key : String} {phase : Phase} (h : turn.Serving settings published input)
    (hphase : turn.conn.phase.wanted? = some key) (hnext : phase.wanted? = some key) (hub : Hub) :
    ({ turn with hub }.enter phase).Serving settings published input := by
  obtain ⟨responses, hserved, hstage⟩ := h
  generalize turn.conn.phase = before at hstage hphase
  cases hstage with
  | @waiting past named _ hwaiting hpast hinput hlegal hkey houtput =>
      obtain rfl : named = key := Option.some.inj (hwaiting.symm.trans hphase)
      exact serving_waiting hnext hserved hpast hinput hlegal hkey houtput
  | reading => cases hphase
  | sending => cases hphase
  | finishing => cases hphase
  | closed => cases hphase

/-- Waiting for a load that is under way. -/
theorem Serving.miss {key : String} {ticket : Option Ticket}
    (h : turn.Serving settings published input) (hphase : turn.conn.phase = .missed key ticket) :
    (turn.miss key ticket).turn.Serving settings published input := by
  have hwait : ∀ phase : Phase, phase.wanted? = some key →
      (turn.enter phase).Serving settings published input := fun phase hnext =>
    h.wait (by rw [hphase]; rfl) hnext turn.hub
  unfold Turn.miss
  split
  · exact hwait _ rfl
  · split
    · exact hwait _ rfl
    · exact hwait _ rfl

/-- Asking for a load. -/
theorem Serving.ask {key : String} (h : turn.Serving settings published input)
    (hphase : turn.conn.phase = .asking key) :
    (turn.ask key).turn.Serving settings published input :=
  h.wait (by rw [hphase]; rfl) rfl (turn.hub.request key).2

/-- Writing a part of a response. -/
theorem Serving.write {out : Outgoing} (h : turn.Serving settings published input)
    (hphase : turn.conn.phase = .sending out) :
    (turn.write out).turn.Serving settings published input := by
  obtain ⟨responses, hserved, hstage⟩ := h
  rw [hphase] at hstage
  cases hstage with
  | waiting hwaiting => cases hwaiting
  | @sending _ response hhead hbody hkeep howed houtput =>
      have hbytes : out.head ++ out.body = response.bytes := by rw [hhead, hbody]; rfl
      unfold Turn.write
      split
      · rename_i hall
        have hwhole : response.bytes.take out.written = response.bytes := by
          refine List.take_of_length_le ?_
          rw [out.remaining_eq, Outgoing.total, ← List.length_append, hbytes] at hall
          omega
        rw [hkeep]
        refine ⟨responses, hserved, .finishing howed ?_⟩
        rw [written_append, written_singleton, ← hwhole]
        exact houtput
      · rcases hwrite : turn.wire.write out.buffers with ⟨outcome, wire⟩
        have hincoming : wire.incoming = turn.wire.incoming := by
          have hkept := turn.wire.incoming_write out.buffers
          rwa [hwrite] at hkept
        have hahead : turn.ahead = turn.conn.ring.toList ++ wire.incoming := by
          rw [ahead, hincoming]
        have hpart : response.bytes.take out.written <+: written [response] := by
          rw [written_singleton]
          exact List.take_prefix _ _
        rw [hahead] at howed
        simp only
        split
        · obtain ⟨hwritten, -⟩ := Wire.output_write hwrite
          rw [List.take_zero, List.append_nil] at hwritten
          exact serving_closed hserved howed.1 (hwritten.trans houtput) hpart
        · rename_i count _
          obtain ⟨hwritten, -⟩ := Wire.output_write hwrite
          refine ⟨responses, hserved, .sending hhead hbody hkeep howed ?_⟩
          have htaken : wire.output = written responses ++
              (response.bytes.take out.written ++
                (response.bytes.drop out.written).take count) := by
            rw [hwritten, houtput, out.joined_buffers, hbytes, List.append_assoc]
          rw [← List.take_add] at htaken
          exact htaken
        · have hwritten := Wire.output_write_of_error hwrite
          exact serving_sending hphase hserved hhead hbody hkeep howed (hwritten.trans houtput)
        · have hwritten := Wire.output_write_of_error hwrite
          exact serving_sending hphase hserved hhead hbody hkeep howed (hwritten.trans houtput)
        · have hwritten := Wire.output_write_of_error hwrite
          exact serving_closed hserved howed.1 (hwritten.trans houtput) hpart

/-- Counting the response that is out. -/
theorem Serving.finish {keepAlive : Bool} (h : turn.Serving settings published input)
    (hphase : turn.conn.phase = .finishing keepAlive) :
    (turn.finish settings keepAlive).turn.Serving settings published input := by
  obtain ⟨responses, hserved, hstage⟩ := h
  rw [hphase] at hstage
  cases hstage with
  | waiting hwaiting => cases hwaiting
  | @finishing response howed houtput =>
      obtain ⟨hreplies, hkept⟩ := howed
      unfold Turn.finish
      simp only
      generalize hcounted : Turn.cork settings false _ = counted
      have hconn : counted.conn = { turn.conn with served := turn.conn.served + 1 } := by
        rw [← hcounted, conn_cork]
      have hahead : counted.ahead = turn.ahead := by
        rw [← hcounted, ahead_cork]
        rfl
      have hwritten : counted.wire.output = written (responses ++ [response]) := by
        rw [← hcounted, output_cork]
        exact houtput
      have hcount : (responses ++ [response]).length = counted.conn.served := by
        rw [hconn, List.length_append, List.length_singleton, hserved]
      split
      · rename_i hkeep
        obtain ⟨past, hpast, hinput⟩ := hkept hkeep
        refine serving_reading rfl hcount hpast ?_ rfl ⟨List.not_mem_nil, Nat.zero_le _⟩ hwritten
        rw [hinput, ← hahead]
        simp [ahead, Progress.turn, Ring.toList_compact, Scanner.empty, Scanner.bytes]
      · exact serving_stopped hcount hreplies hwritten

/-! ### Steps and drives -/

/-- Reading on leaves the hub. -/
theorem hub_read (settings : Settings) (turn : Turn) :
    (turn.read settings).turn.hub = turn.hub := by
  unfold Turn.read
  simp only
  split
  · unfold begin
    split
    · rfl
    · exact hub_cork settings true _
  · exact hub_cork settings true _
  · split <;> rfl

/-- Waiting on leaves the hub. -/
theorem hub_miss (turn : Turn) (key : String) (ticket : Option Ticket) :
    (turn.miss key ticket).turn.hub = turn.hub := by
  unfold Turn.miss
  split
  · rfl
  · split <;> rfl

/-- What is written is counted. -/
theorem alike_write (turn : Turn) (out : Outgoing) :
    turn.hub.Alike (turn.write out).turn.hub := by
  unfold Turn.write
  split
  · exact .refl _
  · simp only
    split
    all_goals exact ⟨rfl, rfl, rfl⟩

/-- A response that is out is counted. -/
theorem alike_finish (settings : Settings) (keepAlive : Bool) (turn : Turn) :
    turn.hub.Alike (turn.finish settings keepAlive).turn.hub := by
  unfold Turn.finish
  simp only
  split
  · exact ⟨by simp [Progress.turn], by simp [Progress.turn], by simp [Progress.turn]⟩
  · exact ⟨by simp [Progress.turn, enter], by simp [Progress.turn, enter],
      by simp [Progress.turn, enter]⟩

/-- A lookup is all that looking for a content does to the hub. -/
theorem hub_resolve (settings : Settings) (key : String) (ticket : Option Ticket) (turn : Turn) :
    (turn.resolve settings key ticket).turn.hub = (turn.hub.lookup key).2 := by
  unfold Turn.resolve
  simp only
  split
  · exact hub_cork settings true _
  · rfl

/-- A step leaves the cache, or looks one key up in it. -/
theorem cache_step (settings : Settings) (turn : Turn) :
    (turn.step settings).turn.hub.cache = turn.hub.cache ∨
      ∃ key, (turn.step settings).turn.hub.cache = (turn.hub.lookup key).2.cache := by
  unfold step
  split
  · exact Or.inl (congrArg Hub.cache (hub_read settings turn))
  · rename_i key ticket hphase
    exact Or.inr ⟨key, congrArg Hub.cache (hub_resolve settings key ticket turn)⟩
  · rename_i key ticket hphase
    exact Or.inl (congrArg Hub.cache (hub_miss turn key ticket))
  · exact Or.inl rfl
  · rename_i out hphase
    exact Or.inl (alike_write turn out).cache
  · rename_i keepAlive hphase
    exact Or.inl (alike_finish settings keepAlive turn).cache
  · exact Or.inl rfl

/-- A step puts nothing into the cache. -/
theorem stocked_step (settings : Settings) (h : turn.hub.Stocked published) :
    (turn.step settings).turn.hub.Stocked published := by
  rcases cache_step settings turn with hsame | ⟨key, hlooked⟩
  · exact h.congr hsame
  · exact (h.lookup key).1.congr hlooked

/-- **A step** keeps a connection sound, whatever the wire answers. -/
theorem sound_step (h : turn.Sound settings published input) :
    (turn.step settings).turn.Sound settings published input := by
  obtain ⟨hserving, hstocked⟩ := h
  refine ⟨?_, stocked_step settings hstocked⟩
  unfold step
  split
  · rename_i hphase
    exact hserving.read hphase
  · rename_i key ticket hphase
    exact hserving.resolve hstocked hphase
  · rename_i key ticket hphase
    exact hserving.miss hphase
  · rename_i key hphase
    exact hserving.ask hphase
  · rename_i out hphase
    exact hserving.write hphase
  · rename_i keepAlive hphase
    exact hserving.finish hphase
  · exact hserving

/-- What every step keeps, a drive keeps. -/
theorem invariant_drive {motive : Turn → Prop}
    (hstep : ∀ turn, motive turn → motive (turn.step settings).turn) (turn : Turn)
    (h : motive turn) : motive (turn.drive settings).2 := by
  induction turn using drive.induct settings with
  | case1 turn need next hnext =>
      have hkept := hstep turn h
      rw [hnext] at hkept
      rw [drive_of_rest hnext]
      exact hkept
  | case2 turn next hnext ih =>
      have hkept := hstep turn h
      rw [hnext] at hkept
      rw [drive_of_on hnext]
      exact ih hkept

/-- **A drive** keeps a connection sound. -/
theorem sound_drive (turn : Turn) (h : turn.Sound settings published input) :
    (turn.drive settings).2.Sound settings published input :=
  invariant_drive (fun _ => sound_step) turn h

end Turn

end FileServer
