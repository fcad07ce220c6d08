import Mathlib.Data.List.Induction
import FileServer.Proofs.Cache.Strict

/-!
# The integrity of the cache

What holds of the slots, the links, the index and the size of a cache at any time, said of these
themselves (`Intact`). Following the links from the newest entry to ever older ones meets the
occupied slots, each once, and following them from the oldest entry to ever newer ones meets the
same slots the other way round. The index knows every entry by its key and nothing else, and the
size is the weight of what is in the slots.

`intact_performAll`: whatever calls are made on a cache that was empty, it is intact after them, and
every further call that passes over vacant slots gives what one gives that does not.
-/

namespace FileServer.Cache

open Std (TreeMap)

variable {cache : Cache} {cells : List Cell} {front back order : List Nat}

/-- Following one kind of link from a slot meets exactly these slots, and ends behind the last. -/
inductive Trail (entries : Slab Entry) (link : Entry → Option Nat) : Option Nat → List Nat → Prop
  /-- Where there is no slot, the way ends. -/
  | done : Trail entries link none []
  /-- From an occupied slot it goes on to where its link points. -/
  | step {slot : Nat} {entry : Entry} {rest : List Nat} :
      entries.get? slot = some entry → Trail entries link (link entry) rest →
      Trail entries link (some slot) (slot :: rest)

/-- The parts of a cache fit together, and the slots of its entries are these, the most recently
used one first. -/
structure Intact (cache : Cache) (order : List Nat) : Prop where
  /-- No slot is met twice. -/
  nodup : order.Nodup
  /-- The slots are the occupied ones. -/
  mem_iff : ∀ slot, slot ∈ order ↔ cache.entries.contains slot = true
  /-- They are met from the newest entry to ever older ones. -/
  older : Trail cache.entries Entry.older cache.newest order
  /-- They are met the other way round from the oldest entry to ever newer ones. -/
  newer : Trail cache.entries Entry.newer cache.oldest order.reverse
  /-- There is a newest entry unless there is none at all. -/
  newest_eq_none_iff : cache.newest = none ↔ cache.entries.length = 0
  /-- There is an oldest entry unless there is none at all. -/
  oldest_eq_none_iff : cache.oldest = none ↔ cache.entries.length = 0
  /-- Nothing is newer than the newest entry. -/
  newest_newer : ∀ slot, cache.newest = some slot →
    ∃ entry, cache.entries.get? slot = some entry ∧ entry.newer = none
  /-- Nothing is older than the oldest entry. -/
  oldest_older : ∀ slot, cache.oldest = some slot →
    ∃ entry, cache.entries.get? slot = some entry ∧ entry.older = none
  /-- The index gives for a key the slot of the entry with that key. -/
  index_iff : ∀ key slot, cache.index[key]? = some slot ↔
    ∃ entry, cache.entries.get? slot = some entry ∧ entry.key = key
  /-- It knows as many keys as there are entries. -/
  index_size : cache.index.size = cache.entries.length
  /-- The size is the weight of what is in the slots. -/
  size_eq : cache.size
    = Recency.weight (cache.entries.values.map fun entry => (entry.key, entry.content))

/-! ### The two directions -/

/-- From any slot of a chain to ever older ones. -/
theorem Chain.trail_older (h : Chain cache (front ++ back)) :
    Trail cache.entries Entry.older back.head? back := by
  induction back generalizing front with
  | nil => exact .done
  | cons slot back ih =>
      obtain ⟨entry, hentry, -, holder⟩ := h.get?
      have hrest : Chain cache (front ++ [slot] ++ back) := by simpa using h
      refine .step hentry ?_
      rw [holder]
      exact ih hrest

/-- From any slot of a chain to ever newer ones. -/
theorem Chain.trail_newer (h : Chain cache (front ++ back)) :
    Trail cache.entries Entry.newer front.getLast? front.reverse := by
  induction front using List.reverseRecOn generalizing back with
  | nil => exact .done
  | append_singleton front slot ih =>
      have hsplit : Chain cache (front ++ slot :: back) := by simpa using h
      obtain ⟨entry, hentry, hnewer, -⟩ := hsplit.get?
      rw [List.getLast?_concat, List.reverse_concat]
      refine .step hentry ?_
      rw [hnewer]
      exact ih hsplit

/-- Nothing is before the first slot. -/
theorem Chain.exists_newest (h : Chain cache order) {slot : Nat}
    (hslot : cache.newest = some slot) :
    ∃ entry, cache.entries.get? slot = some entry ∧ entry.newer = none := by
  rw [h.newest_eq] at hslot
  obtain ⟨back, rfl⟩ := List.head?_eq_some_iff.1 hslot
  obtain ⟨entry, hentry, hnewer, -⟩ := h.links [] slot back rfl
  exact ⟨entry, hentry, hnewer⟩

/-- Nothing is behind the last slot. -/
theorem Chain.exists_oldest (h : Chain cache order) {slot : Nat}
    (hslot : cache.oldest = some slot) :
    ∃ entry, cache.entries.get? slot = some entry ∧ entry.older = none := by
  rw [h.oldest_eq] at hslot
  obtain ⟨front, rfl⟩ := List.getLast?_eq_some_iff.1 hslot
  obtain ⟨entry, hentry, -, holder⟩ := h.links front slot [] rfl
  exact ⟨entry, hentry, holder⟩

/-! ### Index and size -/

namespace Represents

/-- The index gives for a key the slot of the entry with that key. -/
theorem index_eq_some_iff (h : Represents cache cells) (key : String) (slot : Nat) :
    cache.index[key]? = some slot ↔
      ∃ entry, cache.entries.get? slot = some entry ∧ entry.key = key := by
  rw [h.index_iff]
  constructor
  · rintro ⟨content, hcell⟩
    obtain ⟨entry, hentry, hkey, -⟩ := h.exists_entry hcell
    exact ⟨entry, hentry, hkey⟩
  · rintro ⟨entry, hentry, rfl⟩
    refine ⟨entry.content, (h.label?_iff slot (entry.key, entry.content)).1 ?_⟩
    rw [label?, hentry, Option.map_some]

/-- The index knows the keys of the cells. -/
theorem index_keys_perm (h : Represents cache cells) :
    cache.index.keys.Perm (Recency.keys (cells.map Prod.snd)) := by
  apply (List.perm_ext_iff_of_nodup TreeMap.nodup_keys h.keys_nodup).2
  intro key
  rw [TreeMap.mem_keys, TreeMap.mem_iff_isSome_getElem?, Option.isSome_iff_exists]
  simp only [h.index_iff, Recency.keys, List.map_map, List.mem_map]
  constructor
  · rintro ⟨slot, content, hcell⟩
    exact ⟨(slot, key, content), hcell, rfl⟩
  · rintro ⟨⟨slot, key, content⟩, hcell, rfl⟩
    exact ⟨slot, content, hcell⟩

/-- The contents in the slots are those of the cells. -/
theorem values_perm (h : Represents cache cells) :
    (cache.entries.values.map fun entry => (entry.key, entry.content)).Perm
      (cells.map Prod.snd) := by
  have hlabels : (cells.map Prod.fst).filterMap cache.label? = cells.map Prod.snd := by
    rw [List.filterMap_map, ← List.filterMap_eq_map]
    exact List.filterMap_congr fun cell hcell => (h.label?_iff cell.1 cell.2).2 hcell
  rw [← hlabels]
  unfold label?
  rw [← List.map_filterMap]
  exact (Slab.values_perm h.chain.nodup h.mem_slots_iff).map _

/-- **A cache that represents some cells is intact.** -/
theorem intact (h : Represents cache cells) : Intact cache (cells.map Prod.fst) where
  nodup := h.chain.nodup
  mem_iff := h.mem_slots_iff
  older := by
    have hall : Chain cache ([] ++ cells.map Prod.fst) := h.chain
    rw [h.chain.newest_eq]
    exact hall.trail_older
  newer := by
    have hall : Chain cache (cells.map Prod.fst ++ []) := by simpa using h.chain
    rw [h.chain.oldest_eq]
    exact hall.trail_newer
  newest_eq_none_iff := by
    have hlength := h.length_eq
    rw [length] at hlength
    rw [hlength, h.chain.newest_eq]
    simp
  oldest_eq_none_iff := by
    have hlength := h.length_eq
    rw [length] at hlength
    rw [hlength, h.chain.oldest_eq]
    simp
  newest_newer _ := h.chain.exists_newest
  oldest_older _ := h.chain.exists_oldest
  index_iff := h.index_eq_some_iff
  index_size := by
    have hlength := h.length_eq
    rw [length] at hlength
    rw [← TreeMap.length_keys, h.index_keys_perm.length_eq, hlength, Recency.keys, List.length_map,
      List.length_map]
  size_eq := by rw [Recency.weight_perm h.values_perm, h.size_eq]

end Represents

/-- **The cache is intact.** Whatever calls are made on a cache that was empty, its parts fit
together after them. A further call then reads and changes occupied slots only, takes no more from
the size than there is, and ends: one that would fail otherwise gives what the cache gives. -/
theorem intact_performAll (budget : Nat) (operations : List Operation) :
    let cache := ((empty budget).performAll operations).2
    (∃ order, Intact cache order) ∧
      (∀ key content, Strict.put cache key content = some (cache.put key content)) ∧
      (∀ key, Strict.get cache key = some (cache.get? key)) ∧
      Strict.keys cache = some cache.keys := by
  obtain ⟨cells, h, -⟩ := (represents_empty budget).performAll (Or.inl (Nat.zero_le _)) operations
  exact ⟨⟨cells.map Prod.fst, h.intact⟩, h.strict_put, h.strict_get, h.strict_keys⟩

end FileServer.Cache
