import FileServer.Proofs.Connection.Moves
import FileServer.Proofs.Connection.Transparency

/-!
# Every response is corked and uncorked

With corking, the calls on a wire fall into stretches, one for each response that is out: reads, the
request to cork, the writes that take the whole response, and the request to uncork (`Framed`).
Behind them are either only reads, or a stretch that is not over (`Rests`, `Sends`). Which of the
two, the phase says (`Corking`): a stretch that is not over belongs to a response that is being sent,
or to one that a write has cut off. A connection that is closed from outside is one that is driven
no more, so its stretch stays as it is.

What the requests give is never looked at, so all of this holds whether they fail or not.
`corking_transparent` is that corking is not seen, and that it is done in this way.
-/

namespace FileServer

variable {settings : Settings} {turn : Turn} {wire next : Wire} {served count : Nat}
  {bytes : Bytes} {buffers : List Buffer} {response : Http.Response} {phase : Phase}

/-! ### Stretches of calls -/

/-- A call is a read. -/
def Call.IsRead : Call → Prop
  | .read _ _ => True
  | _ => False

/-- A call is a write. -/
def Call.IsWrite : Call → Prop
  | .write _ _ => True
  | _ => False

/-- The number of bytes that a call took. -/
def Call.taken : Call → Nat
  | .write _ (.ok count) => count
  | _ => 0

/-- The number of bytes that several calls took. -/
def Call.total : List Call → Nat
  | [] => 0
  | call :: calls => call.taken + total calls

/-- Some calls in their order, and the responses that they have sent. -/
inductive Framed : List Call → List Http.Response → Prop where
  /-- No response. -/
  | nil : Framed [] []
  /-- One response more, with the reads before it. The wire is corked before the first write and
  uncorked behind the last byte. -/
  | response {calls reads writes : List Call} {responses : List Http.Response}
      {response : Http.Response} (hbefore : Framed calls responses)
      (hreads : ∀ call ∈ reads, call.IsRead) (hwrites : ∀ call ∈ writes, call.IsWrite)
      (htotal : Call.total writes = response.bytes.length) :
      Framed (calls ++ (reads ++ .cork true :: (writes ++ [.cork false])))
        (responses ++ [response])

/-- On the wire are some responses, each corked and uncorked, and nothing but reads behind them. -/
def Wire.Rests (wire : Wire) (served : Nat) : Prop :=
  ∃ responses calls reads, responses.length = served ∧ Framed calls responses ∧
    (∀ call ∈ reads, call.IsRead) ∧ wire.log.reverse = calls ++ reads ∧
    wire.output = written responses

/-- On the wire are some responses, each corked and uncorked, and behind them the first `count`
bytes of one that is corked. -/
def Wire.Sends (wire : Wire) (served : Nat) (bytes : Bytes) (count : Nat) : Prop :=
  ∃ responses calls reads writes, responses.length = served ∧ Framed calls responses ∧
    (∀ call ∈ reads, call.IsRead) ∧ (∀ call ∈ writes, call.IsWrite) ∧ Call.total writes = count ∧
    wire.log.reverse = calls ++ (reads ++ .cork true :: writes) ∧
    wire.output = written responses ++ bytes.take count

/-- The last call on the wire is a write after which nothing more is written. -/
def Wire.Refuses (wire : Wire) : Prop :=
  ∃ offered outcome, wire.log.head? = some (.write offered outcome) ∧
    (outcome = .ok 0 ∨ ∃ cause, outcome = .error cause ∧ cause.Final)

/-- A response is being sent, or is out and not yet counted. -/
def Phase.replies : Phase → Bool
  | .sending _ => true
  | .finishing _ => true
  | _ => false

/-- What is on the wire of a connection in each phase, with corking. -/
inductive Corking (wire : Wire) (served : Nat) : Phase → Prop where
  /-- Between two responses everything is uncorked. -/
  | idle {phase : Phase} (hphase : phase.replies = false) (hrests : wire.Rests served) :
      Corking wire served phase
  /-- A response that is being sent is corked. -/
  | sending {out : Outgoing} {response : Http.Response}
      (hbytes : out.head ++ out.body = response.bytes)
      (hwritten : out.written ≤ response.bytes.length)
      (hsends : wire.Sends served response.bytes out.written) :
      Corking wire served (.sending out)
  /-- So is one whose last byte is out, until it is counted. -/
  | finishing {keepAlive : Bool} {response : Http.Response}
      (hsends : wire.Sends served response.bytes response.bytes.length) :
      Corking wire served (.finishing keepAlive)
  /-- One that a write has cut off is never uncorked. -/
  | cut {response : Http.Response} {count : Nat} (hcount : count < response.bytes.length)
      (hsends : wire.Sends served response.bytes count) (hrefuses : wire.Refuses) :
      Corking wire served .closed

/-- A connection on its wire, with corking. -/
def Turn.Corked (turn : Turn) : Prop := Corking turn.wire turn.conn.served turn.conn.phase

/-- What calls write adds up. -/
@[simp] theorem Call.total_append (first second : List Call) :
    total (first ++ second) = total first + total second := by
  induction first with
  | nil => simp [total]
  | cons call first ih => simp [total, ih, Nat.add_assoc]

/-! ### Calls -/

namespace Wire

/-- What happens to a wire from outside is no call. -/
theorem log_change (wire : Wire) (change : Change) : (wire.change change).log = wire.log := by
  cases change <;> rfl

/-- Only the calls and the output matter. -/
theorem Rests.congr (h : wire.Rests served) (hlog : next.log = wire.log)
    (houtput : next.output = wire.output) : next.Rests served := by
  rw [Rests, hlog, houtput]
  exact h

/-- Only the calls and the output matter. -/
theorem Sends.congr (h : wire.Sends served bytes count) (hlog : next.log = wire.log)
    (houtput : next.output = wire.output) : next.Sends served bytes count := by
  rw [Sends, hlog, houtput]
  exact h

/-- **A read** between two responses. -/
theorem Rests.read {offered : Nat} {outcome : Except Fault Bytes} (h : wire.Rests served)
    (hread : wire.read offered = (outcome, next)) : next.Rests served := by
  obtain ⟨responses, calls, reads, hserved, hframed, hreads, hlog, houtput⟩ := h
  have hnext := wire.log_read offered
  have hwritten := wire.output_read offered
  rw [hread] at hnext hwritten
  refine ⟨responses, calls, reads ++ [.read offered (outcome.map List.length)], hserved, hframed,
    ?_, ?_, hwritten.trans houtput⟩
  · intro call hcall
    rcases List.mem_append.1 hcall with hold | hnew
    · exact hreads call hold
    · rw [List.mem_singleton.1 hnew]
      trivial
  · rw [hnext, List.reverse_cons, hlog, List.append_assoc]

/-- **Corking** begins a response. -/
theorem Rests.cork (h : wire.Rests served) (bytes : Bytes) :
    (wire.cork true).2.Sends served bytes 0 := by
  obtain ⟨responses, calls, reads, hserved, hframed, hreads, hlog, houtput⟩ := h
  refine ⟨responses, calls, reads, [], hserved, hframed, hreads, by simp, rfl, ?_, ?_⟩
  · rw [log_cork, List.reverse_cons, hlog, List.append_assoc]
  · rw [output_cork, houtput, List.take_zero, List.append_nil]

/-- A write is recorded behind those of the response. -/
theorem Sends.record (h : wire.Sends served bytes count) {offered : List Nat}
    {outcome : Except Fault Nat} (hlog : next.log = .write offered outcome :: wire.log)
    (houtput : next.output
      = wire.output ++ (bytes.drop count).take (Call.write offered outcome).taken) :
    next.Sends served bytes (count + (Call.write offered outcome).taken) := by
  obtain ⟨responses, calls, reads, writes, hserved, hframed, hreads, hwrites, htotal, hbefore,
    hwritten⟩ := h
  refine ⟨responses, calls, reads, writes ++ [.write offered outcome], hserved, hframed, hreads,
    ?_, ?_, ?_, ?_⟩
  · intro call hcall
    rcases List.mem_append.1 hcall with hold | hnew
    · exact hwrites call hold
    · rw [List.mem_singleton.1 hnew]
      trivial
  · simp [htotal, Call.total]
  · rw [hlog, List.reverse_cons, hbefore]
    simp
  · rw [houtput, hwritten, List.append_assoc, List.take_add]

/-- **A write** of what is left of the response. -/
theorem Sends.write {outcome : Except Fault Nat} (h : wire.Sends served bytes count)
    (hbuffers : Buffer.joined buffers = bytes.drop count)
    (hwrite : wire.write buffers = (outcome, next)) :
    next.Sends served bytes (count + (Call.write (buffers.map Buffer.size) outcome).taken) := by
  have hlog := wire.log_write buffers
  rw [hwrite] at hlog
  apply h.record hlog
  cases outcome with
  | error cause =>
      rw [output_write_of_error hwrite]
      simp [Call.taken]
  | ok taken =>
      rw [(output_write hwrite).1, hbuffers]
      rfl

/-- **Uncorking** ends a response that is out. -/
theorem Sends.uncork (h : wire.Sends served response.bytes response.bytes.length) :
    (wire.cork false).2.Rests (served + 1) := by
  obtain ⟨responses, calls, reads, writes, hserved, hframed, hreads, hwrites, htotal, hlog,
    houtput⟩ := h
  refine ⟨responses ++ [response], _, [], ?_, .response hframed hreads hwrites htotal, by simp, ?_,
    ?_⟩
  · rw [List.length_append, hserved, List.length_singleton]
  · rw [log_cork, List.reverse_cons, hlog]
    simp
  · rw [output_cork, houtput, List.take_length, written_append, written_singleton]

end Wire

/-! ### Steps -/

/-- Between two responses everything is uncorked. -/
theorem Corking.rests (h : Corking wire served phase) (hphase : phase.replies = false)
    (hopen : phase ≠ .closed) : wire.Rests served := by
  cases h with
  | idle _ hrests => exact hrests
  | sending => cases hphase
  | finishing => cases hphase
  | cut => exact absurd rfl hopen

/-- Only the calls and the bytes written count. -/
theorem Corking.congr (h : Corking wire served phase) (hlog : next.log = wire.log)
    (houtput : next.output = wire.output) : Corking next served phase := by
  cases h with
  | idle hphase hrests => exact .idle hphase (hrests.congr hlog houtput)
  | sending hbytes hwritten hsends =>
      exact .sending hbytes hwritten (hsends.congr hlog houtput)
  | finishing hsends => exact .finishing (hsends.congr hlog houtput)
  | cut hcount hsends hrefuses =>
      refine .cut hcount (hsends.congr hlog houtput) ?_
      rw [Wire.Refuses, hlog]
      exact hrefuses

/-- A response that is being sent is corked. -/
theorem Corking.sends {out : Outgoing} (h : Corking wire served (.sending out)) :
    ∃ response : Http.Response, out.head ++ out.body = response.bytes ∧
      out.written ≤ response.bytes.length ∧ wire.Sends served response.bytes out.written := by
  cases h with
  | idle hphase => cases hphase
  | sending hbytes hwritten hsends => exact ⟨_, hbytes, hwritten, hsends⟩

/-- So is one whose last byte is out. -/
theorem Corking.ends {keepAlive : Bool} (h : Corking wire served (.finishing keepAlive)) :
    ∃ response : Http.Response, wire.Sends served response.bytes response.bytes.length := by
  cases h with
  | idle hphase => cases hphase
  | finishing hsends => exact ⟨_, hsends⟩

namespace Turn

/-- With corking, a turn corks its wire. -/
theorem wire_cork (hcork : settings.cork = true) (on : Bool) (turn : Turn) :
    (turn.cork settings on).wire = (turn.wire.cork on).2 := by
  rw [Turn.cork, if_pos hcork]

/-- A response that is begun is corked. -/
theorem corked_send (hcork : settings.cork = true) (hrests : turn.wire.Rests turn.conn.served)
    (response : Http.Response) : (turn.send settings response).Corked := by
  have hwire : (turn.send settings response).wire = (turn.wire.cork true).2 :=
    wire_cork hcork true turn
  have hhead : (Outgoing.ofResponse response).head = response.head := by rw [Outgoing.ofResponse]
  have hbody : (Outgoing.ofResponse response).body = response.body := rfl
  have hbytes : (Outgoing.ofResponse response).head ++ (Outgoing.ofResponse response).body
      = response.bytes := by rw [hhead, hbody, Http.Response.bytes]
  rw [Corked, conn_send, hwire]
  exact .sending hbytes (Nat.zero_le _) (hrests.cork response.bytes)

/-- A response of which another part is written. -/
theorem corked_write {out : Outgoing} {response : Http.Response} {outcome : Except Fault Nat}
    (hbytes : out.head ++ out.body = response.bytes)
    (hsends : wire.Sends served response.bytes out.written)
    (hwrite : wire.write out.buffers = (outcome, next)) :
    next.Sends served response.bytes
      (out.written + (Call.write (out.buffers.map Buffer.size) outcome).taken) := by
  apply hsends.write _ hwrite
  rw [out.joined_buffers, hbytes]

/-- A part of a response is missing while something remains of it. -/
theorem written_lt_of_remaining {out : Outgoing} (hbytes : out.head ++ out.body = response.bytes)
    (hleft : out.remaining ≠ 0) : out.written < response.bytes.length := by
  rw [out.remaining_eq, Outgoing.total, ← List.length_append, hbytes] at hleft
  omega

/-- **A step** keeps to this. -/
theorem Corked.step (hcork : settings.cork = true) (h : turn.Corked) :
    (turn.step settings).turn.Corked := by
  have hrests : ∀ {phase : Phase}, turn.conn.phase = phase → phase.replies = false →
      phase ≠ .closed → turn.wire.Rests turn.conn.served := by
    rintro _ rfl
    exact Corking.rests h
  have hmove := move_step settings turn
  generalize turn.step settings = progress at hmove
  cases hmove with
  | named hphase | missed hphase | lapsed hphase | waits hphase | asked hphase =>
      exact .idle rfl (hrests hphase rfl nofun)
  | refused hphase | overlong hphase | found hphase =>
      apply corked_send hcork
      exact hrests hphase rfl nofun
  | arrived hphase hscan hread =>
      have hnext := (hrests hphase rfl nofun).read hread
      exact .idle (congrArg Phase.replies hphase) hnext
  | readAgain hphase hscan hread | readBlocked hphase hscan hread =>
      have hnext := (hrests hphase rfl nofun).read hread
      exact .idle (congrArg Phase.replies hphase) hnext
  | readEnded hphase hscan hread =>
      exact .idle rfl ((hrests hphase rfl nofun).read hread)
  | @written out hphase hnone =>
      rw [Corked, hphase] at h
      obtain ⟨response, hbytes, hwritten, hsends⟩ := h.sends
      have hall : out.written = response.bytes.length := by
        rw [out.remaining_eq, Outgoing.total, ← List.length_append, hbytes] at hnone
        omega
      rw [hall] at hsends
      exact .finishing hsends
  | @wrote out count wire hphase hleft hwrite hcount =>
      rw [Corked, hphase] at h
      obtain ⟨response, hbytes, hwritten, hsends⟩ := h.sends
      have hmore : out.written + count ≤ response.bytes.length := by
        have hle := (Wire.output_write hwrite).2
        rw [out.joined_buffers, hbytes, List.length_drop] at hle
        omega
      exact .sending hbytes hmore (corked_write hbytes hsends hwrite)
  | writeAgain hphase hleft hwrite | writeBlocked hphase hleft hwrite =>
      rw [Corked, hphase] at h
      obtain ⟨response, hbytes, hwritten, hsends⟩ := h.sends
      have hnext := corked_write hbytes hsends hwrite
      rw [Corked]
      simp only [Progress.turn, hphase]
      exact .sending hbytes hwritten hnext
  | @writeEnded out outcome wire hphase hleft hwrite houtcome =>
      rw [Corked, hphase] at h
      obtain ⟨response, hbytes, hwritten, hsends⟩ := h.sends
      have hnext := corked_write hbytes hsends hwrite
      have htaken : (Call.write (out.buffers.map Buffer.size) outcome).taken = 0 := by
        rcases houtcome with rfl | ⟨cause, rfl, -⟩ <;> rfl
      have hlog := turn.wire.log_write out.buffers
      rw [hwrite] at hlog
      rw [htaken] at hnext
      have hrefuses : wire.Refuses := ⟨_, outcome, by rw [hlog]; rfl, houtcome⟩
      exact .cut (written_lt_of_remaining hbytes hleft) hnext hrefuses
  | kept hphase | dropped hphase =>
      rw [Corked, hphase] at h
      obtain ⟨response, hsends⟩ := h.ends
      have hwire : (turn.serve.cork settings false).wire = (turn.wire.cork false).2 :=
        wire_cork hcork false turn.serve
      have hserved : (turn.serve.cork settings false).conn.served = turn.conn.served + 1 := by
        rw [conn_cork]
        rfl
      have hnext := hsends.uncork
      rw [← hwire, ← hserved] at hnext
      exact .idle rfl hnext
  | closed hphase => exact h

end Turn

/-! ### In turn -/

/-- The requests to cork and to uncork on a wire, in their order. -/
def Wire.corkings (wire : Wire) : List Bool := wire.log.reverse.filterMap Call.corking?

/-- The requests on the wire of a connection are to cork and to uncork in turn, as often as
responses were counted, and at most one more to cork. -/
inductive Alternating (wire : Wire) (conn : Connection) : Prop where
  /-- Everything that was corked is uncorked. -/
  | even (hcorkings : wire.corkings = (List.replicate conn.served [true, false]).flatten) :
      Alternating wire conn
  /-- A response is being sent, or a write has cut it off. -/
  | odd (hcorkings : wire.corkings = (List.replicate conn.served [true, false]).flatten ++ [true])
      (hwhy : conn.phase.replies = true ∨ conn.phase = .closed ∧ wire.Refuses) :
      Alternating wire conn

/-- Reads cork nothing. -/
theorem corkings_of_reads {reads : List Call} (hreads : ∀ call ∈ reads, call.IsRead) :
    reads.filterMap Call.corking? = [] := by
  rw [List.filterMap_eq_nil_iff]
  intro call hcall
  have hread := hreads call hcall
  cases call with
  | read => rfl
  | write => rfl
  | cork => cases hread

/-- Writes cork nothing. -/
theorem corkings_of_writes {writes : List Call} (hwrites : ∀ call ∈ writes, call.IsWrite) :
    writes.filterMap Call.corking? = [] := by
  rw [List.filterMap_eq_nil_iff]
  intro call hcall
  have hwrite := hwrites call hcall
  cases call with
  | read => rfl
  | write => rfl
  | cork => cases hwrite

/-- Every response was corked and uncorked, one after the other. -/
theorem Framed.corkings {calls : List Call} {responses : List Http.Response}
    (h : Framed calls responses) :
    calls.filterMap Call.corking? = (List.replicate responses.length [true, false]).flatten := by
  induction h with
  | nil => rfl
  | response hbefore hreads hwrites htotal ih =>
      rw [List.length_append, List.length_singleton, List.replicate_succ', List.flatten_concat,
        List.filterMap_append, ih]
      simp [corkings_of_reads hreads, corkings_of_writes hwrites, Call.corking?]

/-- At rest, every response that was served was corked and uncorked. -/
theorem Wire.Rests.corkings (h : wire.Rests served) :
    wire.corkings = (List.replicate served [true, false]).flatten := by
  obtain ⟨responses, calls, reads, rfl, hframed, hreads, hlog, -⟩ := h
  rw [Wire.corkings, hlog, List.filterMap_append, hframed.corkings, corkings_of_reads hreads,
    List.append_nil]

/-- While a response is sent, the wire is corked for it. -/
theorem Wire.Sends.corkings (h : wire.Sends served bytes count) :
    wire.corkings = (List.replicate served [true, false]).flatten ++ [true] := by
  obtain ⟨responses, calls, reads, writes, rfl, hframed, hreads, hwrites, -, hlog, -⟩ := h
  rw [Wire.corkings, hlog, List.filterMap_append, hframed.corkings]
  simp [corkings_of_reads hreads, corkings_of_writes hwrites, Call.corking?]

/-- Corking and uncorking alternate, in every phase. -/
theorem Corking.alternating {conn : Connection} (h : Corking wire conn.served conn.phase) :
    Alternating wire conn := by
  generalize hphase : conn.phase = phase at h
  cases h with
  | idle _ hrests => exact .even hrests.corkings
  | sending _ _ hsends => exact .odd hsends.corkings (Or.inl (by rw [hphase]; rfl))
  | finishing hsends => exact .odd hsends.corkings (Or.inl (by rw [hphase]; rfl))
  | cut _ hsends hrefuses => exact .odd hsends.corkings (Or.inr ⟨hphase, hrefuses⟩)

/-! ### Runs -/

namespace Traffic

variable {traffic : Traffic}

/-- Every connection is corked as its phase says. -/
def Corked (traffic : Traffic) : Prop :=
  ∀ (member : Nat) (conn : Connection) (wire : Wire),
    traffic.members[member]? = some (conn, wire) → Corking wire conn.served conn.phase

/-- A connection that has gone on, with what it has made of the hub. -/
theorem Corked.replace (h : traffic.Corked) (member : Nat) {turn : Turn} (hturn : turn.Corked) :
    Corked { traffic with
      hub := turn.hub
      members := traffic.members.setIfInBounds member (turn.conn, turn.wire) } := by
  intro other conn wire hother
  by_cases heq : member = other
  · subst heq
    rw [Array.getElem?_setIfInBounds_self] at hother
    split at hother
    · obtain ⟨rfl, rfl⟩ := Prod.mk.inj (Option.some.inj hother)
      exact hturn
    · cases hother
  · rw [Array.getElem?_setIfInBounds_ne heq] at hother
    exact h other conn wire hother

/-- One step in the drive of a connection. -/
theorem Corked.step (h : traffic.Corked) (hcork : traffic.settings.cork = true) (member : Nat) :
    (traffic.step member).Corked := by
  unfold Traffic.step
  split
  · exact h
  · rename_i conn wire hmember
    have hturn : Turn.Corked ⟨conn, wire, traffic.hub⟩ := h member conn wire hmember
    exact h.replace member (hturn.step hcork)

/-- A whole drive. -/
theorem Corked.drive (h : traffic.Corked) (hcork : traffic.settings.cork = true) (member : Nat) :
    (traffic.act (.drive member)).Corked := by
  rw [act, drive?]
  rcases hmember : traffic.members[member]? with _ | ⟨conn, wire⟩
  · exact h
  · have hturn : Turn.Corked ⟨conn, wire.renew, traffic.hub⟩ := by
      have hbefore := h member conn wire hmember
      exact hbefore.congr rfl rfl
    exact h.replace member (Turn.invariant_drive (fun _ hbefore => hbefore.step hcork) _ hturn)

/-- On the wire of a new connection nothing was done. -/
theorem rests_fresh (gathers corkFails : Bool) :
    { Wire.fresh with gathers, corkFails }.Rests 0 :=
  ⟨[], [], [], rfl, .nil, by simp, rfl, rfl⟩

/-- **An event** keeps to this. -/
theorem Corked.happen (h : traffic.Corked) (hcork : traffic.settings.cork = true)
    (event : Event) : (traffic.happen event).Corked := by
  cases event with
  | step member => exact h.step hcork member
  | act action =>
      cases action with
      | «open» gathers corkFails =>
          intro member conn wire hmember
          have hpushed : (traffic.members.push
              (.fresh, { Wire.fresh with gathers, corkFails }))[member]? = some (conn, wire) :=
            hmember
          rw [Array.getElem?_push] at hpushed
          split at hpushed
          · obtain ⟨rfl, rfl⟩ := Prod.mk.inj (Option.some.inj hpushed)
            exact .idle rfl (rests_fresh gathers corkFails)
          · exact h member conn wire hpushed
      | wire number change =>
          intro member conn wire hmember
          rw [Traffic.happen, act, Array.getElem?_modify] at hmember
          split at hmember
          · obtain ⟨⟨before, old⟩, hbefore, hpair⟩ := Option.map_eq_some_iff.1 hmember
            obtain ⟨rfl, rfl⟩ := Prod.mk.inj hpair
            exact (h member before old hbefore).congr (old.log_change change)
              (old.output_change change)
          · exact h member conn wire hmember
      | drive member => exact h.drive hcork member
      | take =>
          rw [Traffic.happen, act, take]
          split <;> exact h
      | publish number content =>
          rw [Traffic.happen, act, publish]
          split <;> exact h
      | complete number =>
          rw [Traffic.happen, act, complete]
          split <;> exact h

/-- **A run** keeps to this. -/
theorem Corked.history (h : traffic.Corked) (hcork : traffic.settings.cork = true)
    (events : List Event) : (traffic.history events).Corked := by
  induction events generalizing traffic with
  | nil => exact h
  | cons event events ih =>
      apply ih (h.happen hcork event)
      rw [settings_happen]
      exact hcork

/-- Where there is no connection, nothing was corked. -/
theorem corked_start (settings : Settings) (budget : Nat) : (start settings budget).Corked := by
  intro member conn wire hmember
  simp [start] at hmember

/-! ### Connections that are driven no more -/

/-- The connection that an event drives, as a whole or by a step. -/
def Event.driven? : Event → Option Nat
  | .act (.drive member) => some member
  | .step member => some member
  | _ => none

/-- A connection that is not driven stays as it is, and nothing is done on its wire. -/
theorem kept_happen {member : Nat} {conn : Connection} {wire : Wire} {event : Event}
    (hmember : traffic.members[member]? = some (conn, wire))
    (hidle : event.driven? ≠ some member) :
    ∃ next, (traffic.happen event).members[member]? = some (conn, next) ∧
      next.log = wire.log ∧ next.sent = wire.sent := by
  cases event with
  | step other =>
      have hne : other ≠ member := fun heq => hidle (congrArg some heq)
      refine ⟨wire, ?_, rfl, rfl⟩
      rw [Traffic.happen, Traffic.step]
      split
      · exact hmember
      · rwa [Array.getElem?_setIfInBounds_ne hne]
  | act action =>
      cases action with
      | «open» gathers corkFails =>
          refine ⟨wire, ?_, rfl, rfl⟩
          have hlt := (Array.getElem?_eq_some_iff.1 hmember).1
          rw [Traffic.happen, act, Array.getElem?_push_lt hlt, ← Array.getElem?_eq_getElem hlt]
          exact hmember
      | wire number change =>
          rw [Traffic.happen, act]
          simp only [Array.getElem?_modify, hmember]
          split
          · exact ⟨wire.change change, rfl, wire.log_change change, by cases change <;> rfl⟩
          · exact ⟨wire, rfl, rfl, rfl⟩
      | drive other =>
          have hne : member ≠ other := fun heq => hidle (congrArg some heq.symm)
          refine ⟨wire, ?_, rfl, rfl⟩
          rw [Traffic.happen, act]
          rcases hdrive : traffic.drive? other with _ | ⟨need, next⟩
          · exact hmember
          · exact (members_drive? hdrive hne).trans hmember
      | take =>
          refine ⟨wire, ?_, rfl, rfl⟩
          rw [Traffic.happen, act, take]
          split <;> exact hmember
      | publish number content =>
          refine ⟨wire, ?_, rfl, rfl⟩
          rw [Traffic.happen, act, publish]
          split <;> exact hmember
      | complete number =>
          refine ⟨wire, ?_, rfl, rfl⟩
          rw [Traffic.happen, act, complete]
          split <;> exact hmember

/-- So it stays as long as it is not driven. -/
theorem kept_history {member : Nat} {conn : Connection} {wire : Wire} {events : List Event}
    (hmember : traffic.members[member]? = some (conn, wire))
    (hidle : ∀ event ∈ events, event.driven? ≠ some member) :
    ∃ next, (traffic.history events).members[member]? = some (conn, next) ∧
      next.log = wire.log ∧ next.sent = wire.sent := by
  induction events generalizing traffic wire with
  | nil => exact ⟨wire, hmember, rfl, rfl⟩
  | cons event events ih =>
      obtain ⟨middle, hmiddle, hlog, hsent⟩ :=
        kept_happen hmember (hidle event List.mem_cons_self)
      obtain ⟨next, hnext, hlog', hsent'⟩ :=
        ih hmiddle fun later hlater => hidle later (List.mem_cons_of_mem _ hlater)
      exact ⟨next, hnext, hlog'.trans hlog, hsent'.trans hsent⟩

/-- What holds of a connection of a server that corks. -/
structure Regular (traffic : Traffic) (member : Nat) (conn : Connection) (wire : Wire) : Prop where
  /-- The calls on its wire are what its phase says. -/
  corking : Corking wire conn.served conn.phase
  /-- The requests among them are in turn. -/
  alternating : Alternating wire conn
  /-- If it is driven no more, as it is closed for an error event, no call follows. -/
  kept : ∀ events : List Event, (∀ event ∈ events, event.driven? ≠ some member) →
    ∃ next, (traffic.history events).members[member]? = some (conn, next) ∧
      next.log = wire.log ∧ next.sent = wire.sent

/-- **Corking is transparent.** Whether the server corks in a run, and whether that works or fails,
every drive and every step gives the need that it gives without corking, and the run comes to the
same state but for corking. With corking, at every moment of every run, the requests on a wire are
to cork and to uncork in turn, once for each response that was counted, and the writes of that
response stand between the two. One request to cork is left only where a response is being sent,
which is where it stays if the connection is closed from outside, or where a write has cut it
off. -/
theorem corking_transparent (settings : Settings) (budget : Nat) (events : List Event) :
    (start settings budget).needs events
        = (start settings.uncorked budget).needs (events.map Event.uncorked) ∧
      ((start settings budget).history events).uncorked
        = (start settings.uncorked budget).history (events.map Event.uncorked) ∧
      (settings.cork = true → ∀ (member : Nat) (conn : Connection) (wire : Wire),
        ((start settings budget).history events).members[member]? = some (conn, wire) →
        ((start settings budget).history events).Regular member conn wire) := by
  have hstart : (start settings budget).uncorked = start settings.uncorked budget := by
    simp [start, uncorked]
  rw [← hstart]
  refine ⟨(needs_uncorked _ events).symm, (history_uncorked _ events).symm, ?_⟩
  intro hcork member conn wire hmember
  have hcorked := (corked_start settings budget).history hcork events member conn wire hmember
  exact ⟨hcorked, hcorked.alternating, fun _ hidle => kept_history hmember hidle⟩

/-- Two requests arrive at once, every other request to cork or uncork fails, and the second
response is taken in part. -/
def halted : List Event :=
  [.act (.open true false), .act (.wire 0 (.corks [true, false, true])),
   .act (.wire 0 (.arrive (.bytes (Text.encode "GET /a\nGET /a\n"))))] ++
  List.replicate 5 (.step 0) ++
  [.act .take, .act (.publish 0 (.file [104, 105])), .act (.complete 0),
   .act (.wire 0 (.answer [.upTo 500, .upTo 20, .fail .wouldBlock]))] ++
  List.replicate 8 (.step 0)

/-- Corking is told from its absence by its calls only, also where a write is halted in the middle
of the second response. -/
theorem corking_transparent_halted : ∃ conn wire,
    (start ⟨[], true, true⟩ 100).needs halted
        = (start ⟨[], true, false⟩ 100).needs (halted.map Event.uncorked) ∧
      ((start ⟨[], true, true⟩ 100).history halted).members[0]? = some (conn, wire) ∧
      wire.corkings = [true, false, true] ∧ conn.pendingWrite.isSome ∧
      ((start ⟨[], true, true⟩ 100).history halted).Regular 0 conn wire := by
  have hrun : (((start ⟨[], true, true⟩ 100).history halted).members[0]?.map
      fun member => (member.2.corkings, member.1.pendingWrite.isSome))
        = some ([true, false, true], true) := by
    decide +kernel
  obtain ⟨⟨conn, wire⟩, hmember, heq⟩ := Option.map_eq_some_iff.1 hrun
  obtain ⟨hcorkings, hpending⟩ := Prod.mk.inj heq
  obtain ⟨hneeds, -, hregular⟩ := corking_transparent ⟨[], true, true⟩ 100 halted
  exact ⟨conn, wire, hneeds, hmember, hcorkings, hpending, hregular rfl 0 conn wire hmember⟩

end Traffic

end FileServer
