import FileServer.Proofs.Slab
import FileServer.Proofs.Cache.Chain
import FileServer.Proofs.Cache.Recency

/-!
# The cache is a recency list

A cache keeps its entries in reused slots, chained in both directions and found through an index.
`Represents` ties all of this to a list of cells, the newest first: each cell is a slot together
with the key and the content in it. Every operation on the cache is then an operation on the list.

* `Represents.drop`, `Represents.forget`, `Represents.add`, `Represents.evict`: what the parts of
  storing do to the cells.
* `Represents.perform`: one call answers as the recency list does, and leaves cells that hold the
  recency list the call leaves.
* `performAll_eq_recency`: so does every sequence of calls on a cache that was empty.
-/

namespace FileServer.Cache

open Std (TreeMap)

/-- A slot with the key and the content in it. -/
abbrev Cell := Nat × String × Content

variable {cache : Cache} {cells front back : List Cell} {slot : Nat} {key : String}
  {content : Content}

/-- A cache holds exactly some cells, in the order of their last use. -/
structure Represents (cache : Cache) (cells : List Cell) : Prop where
  /-- The links run through the slots of the cells. -/
  chain : Chain cache (cells.map Prod.fst)
  /-- The occupied slots are those of the cells, and hold what the cells say. -/
  label?_iff : ∀ slot label, cache.label? slot = some label ↔ (slot, label) ∈ cells
  /-- The index knows the slot of every key, and no other key. -/
  index_iff : ∀ key slot, cache.index[key]? = some slot ↔ ∃ content, (slot, key, content) ∈ cells
  /-- The size is the weight of the contents. -/
  size_eq : cache.size = Recency.weight (cells.map Prod.snd)

/-- An empty cache represents no cells. -/
theorem represents_empty (budget : Nat) : Represents (empty budget) [] where
  chain := ⟨List.nodup_nil, rfl, rfl, fun front _ _ h => by simp at h⟩
  label?_iff slot label := by simp [empty, label?]
  index_iff key slot := by simp [empty]
  size_eq := rfl

namespace Represents

/-! ## What cells determine -/

/-- A slot is occupied exactly if a cell names it. -/
theorem mem_slots_iff (h : Represents cache cells) (slot : Nat) :
    slot ∈ cells.map Prod.fst ↔ (cache.entries.get? slot).isSome := by
  rw [← Option.isSome_map (f := fun entry : Entry => (entry.key, entry.content)),
    Option.isSome_iff_exists, List.mem_map]
  constructor
  · rintro ⟨⟨slot, label⟩, hcell, rfl⟩
    exact ⟨label, (h.label?_iff slot label).2 hcell⟩
  · rintro ⟨label, hlabel⟩
    exact ⟨(slot, label), (h.label?_iff slot label).1 hlabel, rfl⟩

/-- There are as many entries as cells. -/
theorem length_eq (h : Represents cache cells) : cache.length = cells.length := by
  unfold length
  rw [Slab.length_eq_of_nodup h.chain.nodup h.mem_slots_iff, List.length_map]

/-- No two cells have the same key. -/
theorem keys_nodup (h : Represents cache cells) : (Recency.keys (cells.map Prod.snd)).Nodup := by
  unfold Recency.keys
  rw [List.map_map]
  refine List.Nodup.map_on ?_ h.chain.nodup.of_map
  rintro ⟨slot, key, content⟩ hcell ⟨slot', key', content'⟩ hcell' heq
  obtain rfl : key = key' := heq
  have hslot := (h.index_iff key slot).2 ⟨content, hcell⟩
  have hslot' := (h.index_iff key slot').2 ⟨content', hcell'⟩
  obtain rfl : slot = slot' := Option.some.inj (hslot.symm.trans hslot')
  have hlabel := (h.label?_iff slot (key, content)).2 hcell
  have hlabel' := (h.label?_iff slot (key, content')).2 hcell'
  rw [Option.some.inj (hlabel.symm.trans hlabel')]

/-- The key of a cell occurs neither before it nor behind it. -/
theorem key_notMem (h : Represents cache (front ++ (slot, key, content) :: back)) :
    key ∉ Recency.keys (front.map Prod.snd) ∧ key ∉ Recency.keys (back.map Prod.snd) := by
  have hnodup := h.keys_nodup
  simp only [List.map_append, List.map_cons, Recency.keys_append, Recency.keys_cons,
    List.nodup_append, List.nodup_cons] at hnodup
  exact ⟨fun hmem => hnodup.2.2 key hmem key List.mem_cons_self rfl, hnodup.2.1.1⟩

/-- The slot of a cell occurs neither before it nor behind it. -/
theorem slot_notMem (h : Represents cache (front ++ (slot, key, content) :: back)) :
    slot ∉ (front ++ back).map Prod.fst := by
  have hnodup := h.chain.nodup
  rw [List.map_append, List.map_cons, List.nodup_middle, ← List.map_append] at hnodup
  exact (List.nodup_cons.1 hnodup).1

/-- Walking along the links from the newest entry meets the cells in their order. -/
theorem walk_eq (h : Represents cache (front ++ back)) {count : Nat}
    (hcount : back.length ≤ count) :
    cache.walk count (back.map Prod.fst).head? = back.map Prod.snd := by
  induction back generalizing front count with
  | nil => cases count <;> rfl
  | cons cell back ih =>
      obtain ⟨count, rfl⟩ : ∃ fewer, count = fewer + 1 :=
        ⟨count - 1, by simp only [List.length_cons] at hcount; omega⟩
      obtain ⟨entry, hentry, -, holder⟩ :=
        h.chain.links (front.map Prod.fst) cell.1 (back.map Prod.fst) (by simp)
      have hlabel := (h.label?_iff cell.1 cell.2).2 (by simp)
      rw [label?, hentry, Option.map_some, Option.some.injEq] at hlabel
      have hsplit : Represents cache (front ++ [cell] ++ back) := by simpa using h
      have hrest := ih hsplit (Nat.le_of_succ_le_succ hcount)
      simp only [List.map_cons, List.head?_cons, walk, hentry, holder, hrest, hlabel]

/-- A walk that is long enough comes to every cell. -/
theorem walk_newest (h : Represents cache cells) {count : Nat} (hcount : cache.length ≤ count) :
    cache.walk count cache.newest = cells.map Prod.snd := by
  have hsplit : Represents cache ([] ++ cells) := h
  rw [h.length_eq] at hcount
  rw [h.chain.newest_eq]
  exact hsplit.walk_eq hcount

/-- The entries, the newest first, are those of the cells. -/
theorem toList_eq (h : Represents cache cells) : cache.toList = cells.map Prod.snd :=
  h.walk_newest (Nat.le_refl _)

/-- A key that the index does not know is in no cell. -/
theorem key_notMem_of_index (h : Represents cache cells) (hkey : cache.index[key]? = none) :
    key ∉ Recency.keys (cells.map Prod.snd) := by
  intro hmem
  unfold Recency.keys at hmem
  rw [List.map_map, List.mem_map] at hmem
  obtain ⟨⟨slot, key, content⟩, hcell, rfl⟩ := hmem
  have hslot := (h.index_iff key slot).2 ⟨content, hcell⟩
  simp only [Function.comp_apply] at hkey
  rw [hkey] at hslot
  cases hslot

/-- A key that the index knows is in a cell with the slot the index gives. -/
theorem exists_split_of_index (h : Represents cache cells) (hkey : cache.index[key]? = some slot) :
    ∃ front back content, cells = front ++ (slot, key, content) :: back := by
  obtain ⟨content, hcell⟩ := (h.index_iff key slot).1 hkey
  obtain ⟨front, back, rfl⟩ := List.append_of_mem hcell
  exact ⟨front, back, content, rfl⟩

end Represents

/-! ## The parts of storing and looking up -/

/-- Unlinking leaves the budget. -/
@[simp] theorem budget_unlink (cache : Cache) (slot : Nat) :
    (cache.unlink slot).budget = cache.budget := by
  unfold unlink
  split <;> rfl

/-- Unlinking leaves the index. -/
@[simp] theorem index_unlink (cache : Cache) (slot : Nat) :
    (cache.unlink slot).index = cache.index := by
  unfold unlink
  split <;> rfl

/-- Unlinking leaves the size. -/
@[simp] theorem size_unlink (cache : Cache) (slot : Nat) :
    (cache.unlink slot).size = cache.size := by
  unfold unlink
  split <;> rfl

/-- Dropping leaves the budget. -/
@[simp] theorem budget_drop (cache : Cache) (slot : Nat) :
    (cache.drop slot).budget = cache.budget := by
  unfold drop
  split
  · rfl
  · exact budget_unlink cache slot

/-- Forgetting leaves the budget. -/
@[simp] theorem budget_forget (cache : Cache) (key : String) :
    (cache.forget key).budget = cache.budget := by
  unfold forget
  split
  · rfl
  · exact budget_drop cache _

/-- Evicting leaves the budget. -/
@[simp] theorem budget_evict (kept count : Nat) (cache : Cache) :
    (evict kept count cache).budget = cache.budget := by
  induction count generalizing cache with
  | zero => rfl
  | succ count ih =>
      unfold evict
      split
      · rfl
      · split
        · rfl
        · split
          · rfl
          · rw [ih, budget_drop]

/-- Putting leaves the budget. -/
@[simp] theorem budget_put (cache : Cache) (key : String) (content : Content) :
    (cache.put key content).budget = cache.budget := by
  simp [put, add, link]

/-- Looking up leaves the budget. -/
@[simp] theorem budget_get? (cache : Cache) (key : String) :
    (cache.get? key).2.budget = cache.budget := by
  unfold get?
  split
  · rfl
  · exact budget_unlink cache _

/-- Dropping an entry empties its slot and no other. -/
theorem label?_drop (cache : Cache) (slot other : Nat) :
    (cache.drop slot).label? other = if other = slot then none else cache.label? other := by
  unfold drop
  rcases h : cache.entries.get? slot with _ | entry
  · by_cases heq : other = slot
    · simp [heq, label?, h]
    · simp [heq]
  · have hunlink := label?_unlink h other
    simp only [label?, Slab.get?_erase] at hunlink ⊢
    split
    · rfl
    · exact hunlink

/-- Adding an entry fills a slot that was vacant and no other. -/
theorem label?_add (cache : Cache) (key : String) (content : Content) (other : Nat) :
    (cache.add key content).label? other
      = if other = cache.entries.nextKey then some (key, content) else cache.label? other := by
  unfold add
  simp only [label?_link]
  simp only [label?, Slab.get?_insert]
  split <;> rfl

namespace Represents

/-- Dropping an entry takes out its cell. -/
theorem drop (h : Represents cache (front ++ (slot, key, content) :: back)) :
    Represents (cache.drop slot) (front ++ back) := by
  have hlabel := (h.label?_iff slot (key, content)).2 (by simp)
  obtain ⟨entry, hentry, heq⟩ := Option.map_eq_some_iff.1 hlabel
  obtain ⟨rfl, rfl⟩ := Prod.mk.inj heq
  have hslot := h.slot_notMem
  refine ⟨?_, ?_, ?_, ?_⟩
  · have hchain : Chain (cache.unlink slot) ((front ++ back).map Prod.fst) := by
      have hall := h.chain
      rw [List.map_append, List.map_cons] at hall
      rw [List.map_append]
      exact hall.unlink
    refine hchain.congr ?_ ?_ fun other hother => ?_
    · simp only [Cache.drop, hentry]
    · simp only [Cache.drop, hentry]
    · have hne : other ≠ slot := fun heq => hslot (heq ▸ hother)
      simp only [Cache.drop, hentry, Slab.get?_erase, if_neg hne]
  · intro other label
    rw [label?_drop]
    split
    · rename_i heq
      subst heq
      refine iff_of_false (by simp) fun hmem => hslot ?_
      exact List.mem_map.2 ⟨_, hmem, rfl⟩
    · rename_i hne
      rw [h.label?_iff]
      simp [hne]
  · intro other found
    have hindex : (cache.drop slot).index = cache.index.erase entry.key := by
      simp only [Cache.drop, hentry, index_unlink]
    rw [hindex, TreeMap.getElem?_erase]
    simp only [Std.compare_eq_iff_eq]
    split
    · rename_i heq
      subst heq
      refine iff_of_false (by simp) ?_
      rintro ⟨other, hother⟩
      have hmem := h.key_notMem
      rcases List.mem_append.1 hother with hother | hother
      · exact hmem.1 (List.mem_map.2 ⟨_, List.mem_map_of_mem hother, rfl⟩)
      · exact hmem.2 (List.mem_map.2 ⟨_, List.mem_map_of_mem hother, rfl⟩)
    · rename_i hne
      rw [h.index_iff]
      simp [Ne.symm hne]
  · have hsize : (cache.drop slot).size = cache.size - entry.content.weight := by
      simp only [Cache.drop, hentry, size_unlink]
    rw [hsize, h.size_eq]
    simp only [List.map_append, List.map_cons, Recency.weight_append, Recency.weight_cons]
    omega

/-- Forgetting a key takes out its cell, if there is one. -/
theorem forget (h : Represents cache cells) (key : String) :
    ∃ rest, Represents (cache.forget key) rest ∧
      rest.map Prod.snd = Recency.without (cells.map Prod.snd) key ∧
      key ∉ Recency.keys (rest.map Prod.snd) := by
  unfold Cache.forget
  rcases hkey : cache.index[key]? with _ | slot
  · have hnot := h.key_notMem_of_index hkey
    exact ⟨cells, h, (Recency.without_eq_self hnot).symm, hnot⟩
  · obtain ⟨front, back, content, rfl⟩ := h.exists_split_of_index hkey
    obtain ⟨hfront, hback⟩ := h.key_notMem
    refine ⟨front ++ back, h.drop, ?_, ?_⟩
    · rw [List.map_append, List.map_append, List.map_cons, Recency.without_of_split hfront hback]
    · rw [List.map_append, Recency.keys_append, List.mem_append]
      exact not_or.2 ⟨hfront, hback⟩

/-- Adding an entry puts a cell in front of the others. -/
theorem add (h : Represents cache cells) (hkey : key ∉ Recency.keys (cells.map Prod.snd))
    (content : Content) :
    Represents (cache.add key content) ((cache.entries.nextKey, key, content) :: cells) := by
  have hvacant := cache.entries.get?_nextKey
  have hslot : cache.entries.nextKey ∉ cells.map Prod.fst := by
    rw [h.mem_slots_iff, hvacant]
    exact Bool.false_ne_true
  refine ⟨?_, ?_, ?_, ?_⟩
  · refine Chain.link (h.chain.congr rfl rfl fun other hother => ?_) hslot ?_
    · have hne : other ≠ cache.entries.nextKey := fun heq => hslot (heq ▸ hother)
      simp only [Slab.get?_insert, if_neg hne]
    · simp only [Slab.get?_insert, if_pos, Option.isSome_some]
  · intro other label
    rw [label?_add]
    split
    · rename_i heq
      subst heq
      have hnot : (cache.entries.nextKey, label) ∉ cells :=
        fun hmem => hslot (List.mem_map.2 ⟨_, hmem, rfl⟩)
      simp [hnot, eq_comm]
    · rename_i hne
      rw [h.label?_iff]
      simp [hne]
  · intro other found
    have hindex : (cache.add key content).index
        = cache.index.insert key cache.entries.nextKey := rfl
    rw [hindex, TreeMap.getElem?_insert]
    simp only [Std.compare_eq_iff_eq]
    split
    · rename_i heq
      subst heq
      have hnot : ∀ content, (found, key, content) ∉ cells := fun content hmem =>
        hkey (List.mem_map.2 ⟨_, List.mem_map_of_mem hmem, rfl⟩)
      simp [hnot, eq_comm]
    · rename_i hne
      rw [h.index_iff]
      simp [Ne.symm hne]
  · have hsize : (cache.add key content).size = cache.size + content.weight := rfl
    rw [hsize, h.size_eq, List.map_cons, Recency.weight_cons, Nat.add_comm]

/-- Evicting drops cells from the back until what is left is what a recency list keeps. -/
theorem evict {cell : Cell} (h : Represents cache (cell :: cells)) {count : Nat}
    (hcount : cells.length ≤ count) :
    ∃ kept, Represents (evict cell.1 count cache) kept ∧
      kept.map Prod.snd = Recency.keep cache.budget ((cell :: cells).map Prod.snd) := by
  induction count generalizing cache cells with
  | zero =>
      obtain rfl := List.length_eq_zero_iff.1 (Nat.le_zero.1 hcount)
      exact ⟨[cell], h, (Recency.keep_singleton _ _).symm⟩
  | succ count ih =>
      unfold Cache.evict
      split
      · rename_i hfits
        rw [h.size_eq] at hfits
        exact ⟨cell :: cells, h, (Recency.keep_eq_self hfits).symm⟩
      · rename_i hheavy
        rw [h.size_eq] at hheavy
        rw [h.chain.oldest_eq]
        rcases cells.eq_nil_or_concat with rfl | ⟨cells, last, rfl⟩
        · refine ⟨[cell], ?_, (Recency.keep_singleton _ _).symm⟩
          simpa using h
        · have hne : last.1 ≠ cell.1 := by
            intro heq
            have hnodup := h.chain.nodup
            simp [heq] at hnodup
          have hlast : ((cell :: cells.concat last).map Prod.fst).getLast? = some last.1 := by
            simp [List.getLast?_cons]
          simp only [hlast, if_neg hne]
          have hsplit : Represents cache (cell :: cells ++ [last]) := by simpa using h
          have hrest : Represents (cache.drop last.1) (cell :: cells) := by
            simpa using hsplit.drop
          obtain ⟨kept, hkept, heq⟩ := ih hrest (by simpa using hcount)
          refine ⟨kept, hkept, ?_⟩
          rw [heq, budget_drop]
          have hdrop : Recency.keep cache.budget (cell.2 :: cells.map Prod.snd ++ [last.2])
              = Recency.keep cache.budget (cell.2 :: cells.map Prod.snd) :=
            Recency.keep_append_singleton (by simpa using hheavy)
          simpa using hdrop.symm

/-- **Storing** leaves the cells of the recency list that storing leaves. -/
theorem put (h : Represents cache cells) (key : String) (content : Content) :
    ∃ kept, Represents (cache.put key content) kept ∧
      kept.map Prod.snd = Recency.put cache.budget (cells.map Prod.snd) key content := by
  obtain ⟨rest, hrest, hwithout, hkey⟩ := h.forget key
  have hadded := hrest.add hkey content
  have hcount : rest.length ≤ ((cache.forget key).add key content).entries.length := by
    have hlength := hadded.length_eq
    rw [length, List.length_cons] at hlength
    omega
  obtain ⟨kept, hkept, heq⟩ := hadded.evict hcount
  refine ⟨kept, hkept, ?_⟩
  have hbudget : ((cache.forget key).add key content).budget = cache.budget :=
    budget_forget cache key
  rw [heq, hbudget, List.map_cons, hwithout]
  rfl

/-- **Looking up** gives what the recency list gives, and leaves the cells that it leaves. -/
theorem get? (h : Represents cache cells) (key : String) :
    ∃ moved, Represents (cache.get? key).2 moved ∧
      ((cache.get? key).1, moved.map Prod.snd) = Recency.get? (cells.map Prod.snd) key := by
  unfold Cache.get?
  rcases hkey : cache.index[key]? with _ | slot
  · refine ⟨cells, h, ?_⟩
    rw [Recency.get?_eq_self (h.key_notMem_of_index hkey)]
  · obtain ⟨front, back, content, rfl⟩ := h.exists_split_of_index hkey
    obtain ⟨hfront, hback⟩ := h.key_notMem
    have hlabel := (h.label?_iff slot (key, content)).2 (by simp)
    obtain ⟨entry, hentry, -⟩ := Option.map_eq_some_iff.1 hlabel
    have hmoved : ∀ other, ((cache.unlink slot).link slot).label? other = cache.label? other :=
      fun other => (label?_link _ slot other).trans (label?_unlink hentry other)
    refine ⟨(slot, key, content) :: (front ++ back), ⟨?_, ?_, ?_, ?_⟩, ?_⟩
    · have hchain : Chain (cache.unlink slot) ((front ++ back).map Prod.fst) := by
        have hall := h.chain
        rw [List.map_append, List.map_cons] at hall
        rw [List.map_append]
        exact hall.unlink
      refine hchain.link h.slot_notMem ?_
      rw [get?_unlink hentry, hentry]
      rfl
    · intro other label
      rw [hmoved, h.label?_iff]
      simp only [List.mem_append, List.mem_cons]
      tauto
    · intro other found
      have hindex : ((cache.unlink slot).link slot).index = cache.index := index_unlink cache slot
      rw [hindex, h.index_iff]
      simp only [List.mem_append, List.mem_cons]
      apply exists_congr
      intro content
      tauto
    · have hsize : ((cache.unlink slot).link slot).size = cache.size := size_unlink cache slot
      rw [hsize, h.size_eq]
      simp only [List.map_append, List.map_cons, Recency.weight_append, Recency.weight_cons]
      omega
    · have hfound : (((cache.unlink slot).link slot).entries.get? slot).map Entry.content
          = some content := by
        have hslot := (hmoved slot).trans hlabel
        obtain ⟨found, hget, heq⟩ := Option.map_eq_some_iff.1 hslot
        rw [hget, Option.map_some, (Prod.mk.inj heq).2]
      simp only [hfound, List.map_append, List.map_cons, Recency.get?_of_split hfront hback]

/-- Asking whether there is an entry gives what the recency list knows. -/
theorem contains_eq (h : Represents cache cells) (key : String) :
    cache.contains key = (Recency.find? (cells.map Prod.snd) key).isSome := by
  unfold Cache.contains
  rw [TreeMap.contains_eq_isSome_getElem?]
  rcases hkey : cache.index[key]? with _ | slot
  · rw [Recency.find?_eq_none (h.key_notMem_of_index hkey)]
    rfl
  · obtain ⟨front, back, content, rfl⟩ := h.exists_split_of_index hkey
    rw [List.map_append, List.map_cons, Recency.find?_of_split h.key_notMem.1]
    rfl

/-- What is in a cell is there. -/
theorem contains_of_mem (h : Represents cache cells) {entry : String × Content}
    (hentry : entry ∈ cells.map Prod.snd) : cache.contains entry.1 = true := by
  have hkey : entry.1 ∈ Recency.keys (cells.map Prod.snd) := List.mem_map_of_mem hentry
  obtain ⟨front, content, back, hsplit, hfront, -⟩ := Recency.exists_split h.keys_nodup hkey
  rw [h.contains_eq, hsplit, Recency.find?_of_split hfront]
  rfl

end Represents

/-! ## Sequences of calls -/

/-- A call on a cache. -/
inductive Operation where
  /-- A content is stored under a key. -/
  | put (key : String) (content : Content)
  /-- The content under a key is looked up. -/
  | get (key : String)
  /-- It is asked whether there is an entry for a key. -/
  | contains (key : String)

/-- What a call on a cache answers. -/
inductive Answer where
  /-- The content is stored. -/
  | stored
  /-- This is the content under the key, if there is one. -/
  | found (content : Option Content)
  /-- This is whether there is an entry. -/
  | known (yes : Bool)
deriving DecidableEq

/-- One call on a cache. -/
def perform (cache : Cache) : Operation → Answer × Cache
  | .put key content => (.stored, cache.put key content)
  | .get key => (.found (cache.get? key).1, (cache.get? key).2)
  | .contains key => (.known (cache.contains key), cache)

/-- Several calls on a cache, with what each of them answers. -/
def performAll (cache : Cache) : List Operation → List Answer × Cache
  | [] => ([], cache)
  | operation :: rest =>
    let (answer, cache) := cache.perform operation
    let (answers, cache) := cache.performAll rest
    (answer :: answers, cache)

end Cache

namespace Recency

/-- One call on a recency list with a budget. -/
def perform (budget : Nat) (entries : Recency) : Cache.Operation → Cache.Answer × Recency
  | .put key content => (.stored, entries.put budget key content)
  | .get key => (.found (entries.get? key).1, (entries.get? key).2)
  | .contains key => (.known (entries.find? key).isSome, entries)

/-- Several calls on a recency list, with what each of them answers. -/
def performAll (budget : Nat) (entries : Recency) :
    List Cache.Operation → List Cache.Answer × Recency
  | [] => ([], entries)
  | operation :: rest =>
    let (answer, entries) := perform budget entries operation
    let (answers, entries) := performAll budget entries rest
    (answer :: answers, entries)

/-- A list that keeps to its budget, unless it is a single entry, still does so after a call. -/
theorem perform_within {budget : Nat} {entries : Recency}
    (hnodup : entries.keys.Nodup) (h : entries.weight ≤ budget ∨ entries.length = 1)
    (operation : Cache.Operation) :
    (perform budget entries operation).2.weight ≤ budget ∨
      (perform budget entries operation).2.length = 1 := by
  cases operation with
  | put key content => exact weight_keep_le budget ((key, content) :: entries.without key)
  | get key =>
      have hperm := get?_perm hnodup key
      simp only [perform]
      rw [weight_perm hperm, hperm.length_eq]
      exact h
  | contains key => exact h

end Recency

namespace Cache

/-- One call answers as the recency list does and leaves what the recency list leaves. -/
theorem Represents.perform {cache : Cache} {cells : List Cell} (h : Represents cache cells)
    (operation : Operation) :
    ∃ left, Represents (cache.perform operation).2 left ∧
      (cache.perform operation).2.budget = cache.budget ∧
      ((cache.perform operation).1, left.map Prod.snd)
        = Recency.perform cache.budget (cells.map Prod.snd) operation := by
  cases operation with
  | put key content =>
      obtain ⟨kept, hkept, heq⟩ := h.put key content
      exact ⟨kept, hkept, budget_put cache key content, by rw [heq]; rfl⟩
  | get key =>
      obtain ⟨moved, hmoved, heq⟩ := h.get? key
      refine ⟨moved, hmoved, budget_get? cache key, ?_⟩
      rw [Recency.perform, ← heq]
      rfl
  | contains key =>
      refine ⟨cells, h, rfl, ?_⟩
      rw [Cache.perform, h.contains_eq]
      rfl

/-- So does every sequence of calls. A cache that keeps to its budget, unless it holds a single
entry, still does so at the end. -/
theorem Represents.performAll {cache : Cache} {cells : List Cell} (h : Represents cache cells)
    (hwithin : Recency.weight (cells.map Prod.snd) ≤ cache.budget ∨ (cells.map Prod.snd).length = 1)
    (operations : List Operation) :
    ∃ left, Represents (cache.performAll operations).2 left ∧
      (cache.performAll operations).2.budget = cache.budget ∧
      ((cache.performAll operations).1, left.map Prod.snd)
        = Recency.performAll cache.budget (cells.map Prod.snd) operations ∧
      (Recency.weight (left.map Prod.snd) ≤ cache.budget ∨ (left.map Prod.snd).length = 1) := by
  induction operations generalizing cache cells with
  | nil => exact ⟨cells, h, rfl, rfl, hwithin⟩
  | cons operation rest ih =>
      obtain ⟨next, hnext, hbudget, heq⟩ := h.perform operation
      have hentries : next.map Prod.snd
          = (Recency.perform cache.budget (cells.map Prod.snd) operation).2 := congrArg Prod.snd heq
      have hstill : Recency.weight (next.map Prod.snd) ≤ (cache.perform operation).2.budget ∨
          (next.map Prod.snd).length = 1 := by
        rw [hbudget, hentries]
        exact Recency.perform_within h.keys_nodup hwithin operation
      obtain ⟨left, hleft, hbudget', heq', hend⟩ := ih hnext hstill
      rw [hbudget] at heq' hend
      refine ⟨left, hleft, hbudget'.trans hbudget, ?_, hend⟩
      simp only [Cache.performAll, Recency.performAll, ← heq, ← heq']

/-- What can be observed of a cache is what a recency list says. -/
structure Agrees (cache : Cache) (entries : Recency) : Prop where
  /-- No key occurs twice. -/
  nodup : entries.keys.Nodup
  /-- The entries are those of the list. -/
  toList_eq : cache.toList = entries
  /-- The size is their weight. -/
  size_eq : cache.size = entries.weight
  /-- The length is their number. -/
  length_eq : cache.length = entries.length
  /-- The keys, the most recently used first, are those of the list. -/
  keys_eq : cache.keys = entries.keys
  /-- They are all that is met along the links, however far these are followed. -/
  walk_eq : ∀ count, cache.length ≤ count → cache.walk count cache.newest = entries
  /-- The budget is kept, unless a single entry is left. -/
  within : cache.size ≤ cache.budget ∨ cache.length = 1

/-- A cache that represents cells agrees with their entries in all that can be asked. -/
theorem Represents.agrees {cache : Cache} {cells : List Cell} (h : Represents cache cells)
    (hwithin : Recency.weight (cells.map Prod.snd) ≤ cache.budget ∨
      (cells.map Prod.snd).length = 1) :
    Agrees cache (cells.map Prod.snd) where
  nodup := h.keys_nodup
  toList_eq := h.toList_eq
  size_eq := h.size_eq
  length_eq := by rw [h.length_eq, List.length_map]
  keys_eq := by rw [keys, h.toList_eq]; rfl
  walk_eq _ hcount := h.walk_newest hcount
  within := by
    rw [List.length_map] at hwithin
    rw [h.size_eq, h.length_eq]
    exact hwithin

/-- **The cache is a recency list.** Whatever calls are made on a cache that was empty, they are
answered as by a recency list with the same budget, and what can be observed of the cache at the
end is what that list says. -/
theorem performAll_eq_recency (budget : Nat) (operations : List Operation) :
    ((empty budget).performAll operations).1 = (Recency.performAll budget [] operations).1 ∧
    ((empty budget).performAll operations).2.budget = budget ∧
    Agrees ((empty budget).performAll operations).2
      (Recency.performAll budget [] operations).2 := by
  obtain ⟨left, hleft, hbudget, heq, hwithin⟩ :=
    (represents_empty budget).performAll (Or.inl (Nat.zero_le _)) operations
  have hanswers : _ = (Recency.performAll budget [] operations).1 := congrArg Prod.fst heq
  have hentries : left.map Prod.snd = (Recency.performAll budget [] operations).2 :=
    congrArg Prod.snd heq
  refine ⟨hanswers, hbudget, ?_⟩
  rw [← hentries]
  exact hleft.agrees (by rw [hbudget]; exact hwithin)

end FileServer.Cache
