import FileServer.Poller

/-!
# What becomes of a watch

A poller is seen here through `watch?` and through the sources that are pending. Something that
happens on a source makes it pending if an armed watch waits for it, and nothing else changes
(`watch?_raise`, `mem_pending_raise`); setting, arming and removing a watch change the watch on that
source alone.

`Collected` says what a wait takes off the queue: one event after the other, each from a watch that
was armed at that point, and disarmed by it if it is one-shot. `Gives` asks for less: every event
comes from a watch, armed or not, and no two from the watch on one socket.
-/

namespace FileServer

/-- The watch after an event, which disarms it if it is one-shot. -/
def Watch.spent (watch : Watch) : Watch :=
  if watch.oneShot then { watch with armed := false } else watch

/-- A watch that is spent is on the same source. -/
theorem Watch.source_spent (watch : Watch) : watch.spent.source = watch.source := by
  unfold spent
  split <;> rfl

/-- A watch that is spent has the same token. -/
theorem Watch.token_spent (watch : Watch) : watch.spent.token = watch.token := by
  unfold spent
  split <;> rfl

/-- A watch that is spent lasts as long as before. -/
theorem Watch.oneShot_spent (watch : Watch) : watch.spent.oneShot = watch.oneShot := by
  unfold spent
  split <;> rfl

namespace Poller

variable {poller next : Poller} {source other : Source} {watch : Watch} {happened : Readiness}

/-! ### Something happens on a source -/

/-- Something to look at is no watch. -/
@[simp] theorem watches_enqueue (poller : Poller) (source : Source) :
    (poller.enqueue source).watches = poller.watches := by
  unfold enqueue
  split <;> rfl

/-- A source is to be looked at if it is the new one or was before. -/
theorem mem_pending_enqueue (poller : Poller) (source other : Source) :
    other ∈ (poller.enqueue source).pending ↔ other = source ∨ other ∈ poller.pending := by
  unfold enqueue
  split
  · rename_i hmem
    constructor
    · exact Or.inr
    · rintro (rfl | hother)
      · exact hmem
      · exact hother
  · simp [or_comm]

/-- What happens on a source leaves the watches. -/
@[simp] theorem watches_raise (poller : Poller) (source : Source) (happened : Readiness) :
    (poller.raise source happened).watches = poller.watches := by
  unfold raise
  split
  · rfl
  · split
    · exact watches_enqueue poller source
    · rfl

/-- What happens on a source leaves every watch. -/
@[simp] theorem watch?_raise (poller : Poller) (source other : Source) (happened : Readiness) :
    (poller.raise source happened).watch? other = poller.watch? other := by
  rw [watch?, watches_raise, watch?]

/-- What is pending stays so. -/
theorem mem_pending_raise (h : other ∈ poller.pending) :
    other ∈ (poller.raise source happened).pending := by
  unfold raise
  split
  · exact h
  · split
    · exact (mem_pending_enqueue _ _ _).2 (Or.inr h)
    · exact h

/-- What an armed watch waits for makes its source pending. -/
theorem mem_pending_raise_self (h : poller.watch? source = some watch) (harmed : watch.armed = true)
    (hsome : (happened.restrict watch.interest).isSome = true) :
    source ∈ (poller.raise source happened).pending := by
  simp only [raise, h, harmed, hsome]
  exact (mem_pending_enqueue _ _ _).2 (Or.inl rfl)

/-! ### Setting and removing watches -/

/-- Taking the watches off one source leaves those on the others. -/
theorem find?_filter_source (watches : List Watch) (source other : Source) :
    (watches.filter fun watch => watch.source ≠ source).find? (fun watch => watch.source = other)
      = if other = source then none
        else watches.find? fun watch => watch.source = other := by
  rw [List.find?_filter]
  split
  · rename_i heq
    subst heq
    simp
  · rename_i hne
    congr 1
    funext watch
    by_cases hwatch : watch.source = other
    · simp [hwatch, hne]
    · simp [hwatch]

/-- A watch that is set is armed, and the watches on other sources stay. -/
theorem watch?_add {token : Token} {interest : Interest} {oneShot : Bool} {ready : Readiness}
    (h : poller.add source token interest oneShot ready = (true, next)) (other : Source) :
    next.watch? other = if other = source then some ⟨source, token, interest, oneShot, true⟩
      else poller.watch? other := by
  unfold add at h
  simp only at h
  split at h
  · cases h
  · rename_i haccepted
    obtain ⟨-, rfl⟩ := Prod.mk.inj h
    have hnone : poller.watch? source = none := by
      rw [← Option.not_isSome_iff_eq_none]
      intro hsome
      exact haccepted (Bool.or_eq_true_iff.2 (Or.inr hsome))
    rw [watch?_raise, watch?, List.find?_append]
    by_cases heq : other = source
    · subst heq
      rw [if_pos rfl, ← watch?, hnone]
      simp
    · rw [if_neg heq, ← watch?]
      simp [Ne.symm heq]

/-- Where no watch can be set, the watches stay as they are. -/
theorem watch?_add_of_refused {token : Token} {interest : Interest} {oneShot : Bool}
    {ready : Readiness} (h : poller.add source token interest oneShot ready = (false, next))
    (other : Source) : next.watch? other = poller.watch? other := by
  unfold add at h
  simp only at h
  split at h
  · obtain ⟨-, rfl⟩ := Prod.mk.inj h
    rfl
  · cases h

/-- A watch that is deleted is gone, and the others stay. -/
theorem watch?_delete (poller : Poller) (source other : Source) :
    (poller.delete source).watch? other
      = if other = source then none else poller.watch? other :=
  find?_filter_source poller.watches source other

/-- Adding a watch leaves what is to be looked at. -/
theorem mem_pending_add {token : Token} {interest : Interest} {oneShot added : Bool}
    {ready : Readiness} (h : poller.add source token interest oneShot ready = (added, next))
    (hother : other ∈ poller.pending) : other ∈ next.pending := by
  unfold add at h
  simp only at h
  split at h
  · obtain ⟨-, rfl⟩ := Prod.mk.inj h
    exact hother
  · obtain ⟨-, rfl⟩ := Prod.mk.inj h
    exact mem_pending_raise hother

/-- Deleting a watch leaves the other sources to be looked at. -/
theorem mem_pending_delete (h : other ∈ poller.pending) (hne : other ≠ source) :
    other ∈ (poller.delete source).pending := by
  simpa [delete, hne] using h

/-! ### Arming and disarming -/

/-- A change of every watch that leaves the sources changes the watch on each of them. -/
theorem find?_map_source (watches : List Watch) (source : Source) {f : Watch → Watch}
    (hf : ∀ watch, (f watch).source = watch.source) :
    (watches.map f).find? (fun watch => watch.source = source)
      = (watches.find? fun watch => watch.source = source).map f := by
  rw [List.find?_map]
  congr 2
  funext watch
  simp [hf]

/-- A change of the watch on one source alone. -/
theorem find?_map_if (watches : List Watch) (source other : Source) {f : Watch → Watch}
    (hf : ∀ watch, (f watch).source = watch.source) :
    (watches.map fun watch => if watch.source = source then f watch else watch).find?
        (fun watch => watch.source = other)
      = if other = source then (watches.find? fun watch => watch.source = source).map f
        else watches.find? fun watch => watch.source = other := by
  rw [find?_map_source]
  · rcases hfound : watches.find? (fun watch => watch.source = other) with _ | watch
    · split
      · rename_i heq
        rw [← heq, hfound]
        rfl
      · rw [hfound]
        rfl
    · have hsource : watch.source = other := by simpa using List.find?_some hfound
      split
      · rename_i heq
        subst heq
        rw [hfound, Option.map_some, Option.map_some, if_pos hsource]
      · rename_i hne
        rw [hfound, Option.map_some, if_neg (hsource ▸ hne)]
  · intro watch
    split
    · exact hf watch
    · rfl

/-- A watch that is armed again has the new interest. -/
theorem watch?_rearm {interest : Interest} {ready : Readiness}
    (h : poller.rearm source interest ready = (true, next)) (other : Source) :
    next.watch? other
      = if other = source then (poller.watch? source).map ({ · with interest, armed := true })
        else poller.watch? other := by
  unfold rearm at h
  simp only at h
  split at h
  · cases h
  · obtain ⟨-, rfl⟩ := Prod.mk.inj h
    rw [watch?_raise]
    exact find?_map_if poller.watches source other fun _ => rfl

/-- A watch that cannot be armed stays as it is. -/
theorem watch?_rearm_of_refused {interest : Interest} {ready : Readiness}
    (h : poller.rearm source interest ready = (false, next)) (other : Source) :
    next.watch? other = poller.watch? other := by
  unfold rearm at h
  simp only at h
  split at h
  · obtain ⟨-, rfl⟩ := Prod.mk.inj h
    rfl
  · cases h

/-- Arming a watch leaves what is to be looked at. -/
theorem mem_pending_rearm {interest : Interest} {ready : Readiness} {armed : Bool}
    (h : poller.rearm source interest ready = (armed, next)) (hother : other ∈ poller.pending) :
    other ∈ next.pending := by
  unfold rearm at h
  simp only at h
  split at h
  · obtain ⟨-, rfl⟩ := Prod.mk.inj h
    exact hother
  · obtain ⟨-, rfl⟩ := Prod.mk.inj h
    exact mem_pending_raise hother

/-- An event spends its watch, and leaves the others. -/
theorem watch?_disarm (poller : Poller) (source other : Source) :
    (poller.disarm source).watch? other
      = if other = source then (poller.watch? source).map Watch.spent else poller.watch? other := by
  have hspent : ∀ watch : Watch,
      (if watch.source = source && watch.oneShot then { watch with armed := false } else watch)
        = if watch.source = source then watch.spent else watch := by
    intro watch
    by_cases hsource : watch.source = source
    · simp [hsource, Watch.spent]
    · simp [hsource]
  unfold disarm watch?
  simp only [hspent]
  exact find?_map_if poller.watches source other Watch.source_spent

/-! ### Refusals -/

/-- What happens on a source uses up no refusal. -/
@[simp] theorem refusals_raise (poller : Poller) (source : Source) (happened : Readiness) :
    (poller.raise source happened).refusals = poller.refusals := by
  unfold raise
  split
  · rfl
  · split
    · unfold enqueue
      split <;> rfl
    · rfl

/-- A request to set a watch uses up what is settled for it. -/
theorem refusals_add {token : Token} {interest : Interest} {oneShot added : Bool}
    {ready : Readiness} (h : poller.add source token interest oneShot ready = (added, next)) :
    next.refusals = poller.refusals.tail := by
  unfold add at h
  simp only at h
  split at h
  · obtain ⟨-, rfl⟩ := Prod.mk.inj h
    rfl
  · obtain ⟨-, rfl⟩ := Prod.mk.inj h
    exact refusals_raise _ _ _

/-- A watch that is there is armed, unless this is refused. -/
theorem refused_of_rearm {interest : Interest} {ready : Readiness}
    (h : poller.rearm source interest ready = (false, next))
    (hwatch : poller.watch? source = some watch) : true ∈ poller.refusals := by
  unfold rearm at h
  rw [hwatch] at h
  simp only [Option.isNone_some, Bool.or_false] at h
  split at h
  · rename_i hrefused
    rcases hrefusals : poller.refusals with _ | ⟨first, rest⟩
    · rw [hrefusals] at hrefused
      cases hrefused
    · rw [hrefusals] at hrefused
      obtain rfl : first = true := hrefused
      exact List.mem_cons_self
  · cases h

/-! ### Tokens -/

/-- Every watch of `next` was set before, and has the token that it had. -/
def Keeps (poller next : Poller) : Prop :=
  ∀ source watch, next.watch? source = some watch →
    ∃ old, poller.watch? source = some old ∧ old.token = watch.token

/-- Tokens are kept where the watches are the same. -/
theorem Keeps.of_eq (h : ∀ source, next.watch? source = poller.watch? source) :
    poller.Keeps next := by
  intro source watch hwatch
  rw [h] at hwatch
  exact ⟨watch, hwatch, rfl⟩

/-- Tokens that are kept twice are kept. -/
theorem Keeps.trans {last : Poller} (h : poller.Keeps next) (hlast : next.Keeps last) :
    poller.Keeps last := by
  intro source watch hwatch
  obtain ⟨middle, hmiddle, hsame⟩ := hlast source watch hwatch
  obtain ⟨old, hold, htoken⟩ := h source middle hmiddle
  exact ⟨old, hold, htoken.trans hsame⟩

/-- Deleting a watch keeps the tokens of the others. -/
theorem keeps_delete (poller : Poller) (source : Source) : poller.Keeps (poller.delete source) := by
  intro other watch hwatch
  rw [watch?_delete] at hwatch
  split at hwatch
  · cases hwatch
  · exact ⟨watch, hwatch, rfl⟩

/-- What changes the watch on one source may leave its token. -/
theorem Keeps.of_map {f : Watch → Watch} (hf : ∀ watch, (f watch).token = watch.token)
    (h : ∀ other, next.watch? other
      = if other = source then (poller.watch? source).map f else poller.watch? other) :
    poller.Keeps next := by
  intro other watch hwatch
  rw [h] at hwatch
  split at hwatch
  · rename_i heq
    obtain ⟨old, hold, rfl⟩ := Option.map_eq_some_iff.1 hwatch
    exact ⟨old, heq ▸ hold, (hf old).symm⟩
  · exact ⟨watch, hwatch, rfl⟩

/-- Arming a watch keeps its token. -/
theorem keeps_rearm {interest : Interest} {ready : Readiness} {armed : Bool}
    (h : poller.rearm source interest ready = (armed, next)) : poller.Keeps next := by
  cases armed with
  | false => exact .of_eq (watch?_rearm_of_refused h)
  | true =>
      exact .of_map (f := ({ · with interest, armed := true })) (fun _ => rfl) (watch?_rearm h)

/-- An event keeps the token of its watch. -/
theorem keeps_disarm (poller : Poller) (source : Source) : poller.Keeps (poller.disarm source) :=
  .of_map Watch.token_spent (watch?_disarm poller source)

/-! ### Waiting -/

/-- What a wait can take: events of armed watches, each disarmed before the next is taken. -/
inductive Collected : Poller → List Event → Poller → Prop where
  /-- Nothing more is taken. -/
  | done {poller : Poller} (pending : List Source) : Collected poller [] { poller with pending }
  /-- The watch on a source reports. -/
  | event {poller next : Poller} {source : Source} {watch : Watch} {ready : Readiness}
      {events : List Event} (hwatch : poller.watch? source = some watch)
      (harmed : watch.armed = true) (hrest : Collected (poller.disarm source) events next) :
      Collected poller (⟨watch.token, ready⟩ :: events) next

/-- What a wait may end in, if no more is known of it: events with their sources, and the watches
that are left. -/
structure Gives (poller : Poller) (told : List (Source × Event)) (next : Poller) : Prop where
  /-- An event comes from a watch, and has its token. -/
  watched : ∀ source event, (source, event) ∈ told →
    ∃ watch, poller.watch? source = some watch ∧ watch.token = event.token
  /-- The watch on a socket gives one event at most. -/
  once : told.Pairwise fun one two => ∀ socket, one.1 = .socket socket → two.1 ≠ .socket socket
  /-- No watch is set, and none gets another token. -/
  keeps : poller.Keeps next

/-- An event arms no watch, and disarms its own if that is one-shot. -/
theorem exists_of_watch?_disarm (h : (poller.disarm source).watch? other = some watch) :
    ∃ before, poller.watch? other = some before ∧ watch.oneShot = before.oneShot ∧
      (watch.armed = true → before.armed = true ∧ (other = source → before.oneShot = false)) := by
  rw [watch?_disarm] at h
  split at h
  · rename_i heq
    obtain ⟨before, hbefore, rfl⟩ := Option.map_eq_some_iff.1 h
    refine ⟨before, heq ▸ hbefore, before.oneShot_spent, fun harmed => ?_⟩
    rw [Watch.spent] at harmed
    split at harmed
    · cases harmed
    · rename_i hlasting
      exact ⟨harmed, fun _ => Bool.eq_false_iff.2 hlasting⟩
  · rename_i hne
    exact ⟨watch, h, rfl, fun harmed => ⟨harmed, fun heq => absurd heq hne⟩⟩

/-- **What is taken off the queue** is so, as the watches on sockets are one-shot: their events come
from armed watches, so none comes from a watch that has given one already. -/
theorem Collected.gives {events : List Event} (h : Collected poller events next)
    (hshot : ∀ socket watch, poller.watch? (.socket socket) = some watch → watch.oneShot = true) :
    ∃ told, told.map Prod.snd = events ∧ poller.Gives told next ∧
      ∀ source event, (source, event) ∈ told →
        ∃ watch, poller.watch? source = some watch ∧ watch.armed = true := by
  induction h with
  | done pending =>
      refine ⟨[], rfl, ⟨?_, List.Pairwise.nil, .of_eq fun _ => rfl⟩, ?_⟩
      · exact fun _ _ hmem => absurd hmem List.not_mem_nil
      · exact fun _ _ hmem => absurd hmem List.not_mem_nil
  | @event poller next source watch ready events hwatch harmed _ ih =>
      have hlater : ∀ socket watch,
          (poller.disarm source).watch? (.socket socket) = some watch → watch.oneShot = true := by
        intro socket later hsome
        obtain ⟨before, hbefore, hsame, -⟩ := exists_of_watch?_disarm hsome
        exact hsame.trans (hshot socket before hbefore)
      obtain ⟨told, rfl, hgives, hstill⟩ := ih hlater
      refine ⟨(source, ⟨watch.token, ready⟩) :: told, rfl, ⟨?_, ?_, ?_⟩, ?_⟩
      · intro other event hmem
        rcases List.mem_cons.1 hmem with heq | hrest
        · obtain ⟨rfl, rfl⟩ := Prod.mk.inj heq
          exact ⟨watch, hwatch, rfl⟩
        · obtain ⟨later, hsome, htoken⟩ := hgives.watched other event hrest
          obtain ⟨before, hbefore, hsame⟩ := keeps_disarm poller source other later hsome
          exact ⟨before, hbefore, hsame.trans htoken⟩
      · refine List.pairwise_cons.2 ⟨?_, hgives.once⟩
        rintro ⟨other, event⟩ hrest socket rfl rfl
        obtain ⟨later, hsome, hlaterArmed⟩ := hstill (.socket socket) event hrest
        obtain ⟨before, hbefore, -, hwhy⟩ := exists_of_watch?_disarm hsome
        exact Bool.noConfusion
          ((hshot socket before hbefore).symm.trans ((hwhy hlaterArmed).2 rfl))
      · exact (keeps_disarm poller source).trans hgives.keeps
      · intro other event hmem
        rcases List.mem_cons.1 hmem with heq | hrest
        · obtain ⟨rfl, -⟩ := Prod.mk.inj heq
          exact ⟨watch, hwatch, harmed⟩
        · obtain ⟨later, hsome, hlaterArmed⟩ := hstill other event hrest
          obtain ⟨before, hbefore, -, hwhy⟩ := exists_of_watch?_disarm hsome
          exact ⟨before, hbefore, (hwhy hlaterArmed).1⟩

/-- An event is one of an armed watch, with its token. -/
theorem watch_of_eventOf {ready : Source → Readiness} {event : Event}
    (h : poller.eventOf ready source = some event) :
    ∃ watch told, poller.watch? source = some watch ∧ watch.armed = true ∧
      event = ⟨watch.token, told⟩ := by
  unfold eventOf at h
  split at h
  · cases h
  · rename_i watch hwatch
    simp only [Option.ite_none_right_eq_some, Option.some.injEq] at h
    obtain ⟨hready, rfl⟩ := h
    exact ⟨watch, _, hwatch, (Bool.and_eq_true_iff.1 hready).1, rfl⟩

/-- A wait takes nothing else. -/
theorem collected_collect (ready : Source → Readiness) (most : Nat) (pending : List Source)
    (poller : Poller) :
    Collected poller (collect ready most pending poller).1
      (collect ready most pending poller).2 := by
  induction pending generalizing most poller with
  | nil => exact .done []
  | cons source rest ih =>
      cases most with
      | zero => exact .done (source :: rest)
      | succ fewer =>
          rw [collect]
          split
          · exact ih (fewer + 1) poller
          · rename_i event hevent
            obtain ⟨watch, told, hwatch, harmed, rfl⟩ := watch_of_eventOf hevent
            exact .event hwatch harmed (ih fewer (poller.disarm source))

/-- A wait that takes nothing leaves the watches as they are. -/
theorem exists_of_wait_nil {ready : Source → Readiness} {most : Nat}
    (h : poller.wait most ready = ([], next)) : ∃ pending, next = { poller with pending } := by
  have hcollected := collected_collect ready most poller.pending poller
  rw [wait] at h
  rw [h] at hcollected
  cases hcollected with
  | done pending => exact ⟨pending, rfl⟩

/-- A pending source with something to report is heard, or stays pending. -/
theorem heard_collect {ready : Source → Readiness} {most : Nat} {pending : List Source}
    (hmem : source ∈ pending) (hwatch : poller.watch? source = some watch)
    (harmed : watch.armed = true)
    (hsome : ((ready source).restrict watch.interest).isSome = true) :
    (∃ event ∈ (collect ready most pending poller).1, event.token = watch.token) ∨
      source ∈ (collect ready most pending poller).2.pending := by
  induction pending generalizing most poller with
  | nil => cases hmem
  | cons first rest ih =>
      cases most with
      | zero => exact Or.inr hmem
      | succ fewer =>
          rw [collect]
          by_cases hfirst : source = first
          · subst hfirst
            have hevent : poller.eventOf ready source
                = some ⟨watch.token, (ready source).restrict watch.interest⟩ := by
              simp [eventOf, hwatch, harmed, hsome]
            rw [hevent]
            exact Or.inl ⟨_, List.mem_cons_self, rfl⟩
          · have hrest : source ∈ rest := (List.mem_cons.1 hmem).resolve_left hfirst
            split
            · exact ih hrest hwatch
            · have hkept : (poller.disarm first).watch? source = some watch := by
                rw [watch?_disarm, if_neg hfirst, hwatch]
              rcases @ih (poller.disarm first) fewer hrest hkept
                with ⟨event, hevent, htoken⟩ | hpending
              · exact Or.inl ⟨event, List.mem_cons_of_mem _ hevent, htoken⟩
              · exact Or.inr hpending

/-- A wait tells of an armed watch that is ready, or leaves it to be looked at. -/
theorem heard_wait {ready : Source → Readiness} {most : Nat} {events : List Event}
    (h : poller.wait most ready = (events, next)) (hmem : source ∈ poller.pending)
    (hwatch : poller.watch? source = some watch) (harmed : watch.armed = true)
    (hsome : ((ready source).restrict watch.interest).isSome = true) :
    (∃ event ∈ events, event.token = watch.token) ∨ source ∈ next.pending := by
  have htaken : (∃ event ∈ (poller.wait most ready).1, event.token = watch.token) ∨
      source ∈ (poller.wait most ready).2.pending := heard_collect hmem hwatch harmed hsome
  rwa [h] at htaken

/-- A wait that may take something and takes nothing has looked at everything. -/
theorem pending_collect_of_nil {ready : Source → Readiness} {fewer : Nat} {pending : List Source}
    (h : (collect ready (fewer + 1) pending poller).1 = []) :
    (collect ready (fewer + 1) pending poller).2.pending = [] := by
  induction pending with
  | nil => rfl
  | cons source rest ih =>
      rw [collect] at h ⊢
      split at h
      · exact ih h
      · cases h

end Poller

end FileServer
