import FileServer.Hub
import FileServer.Proofs.Cache.Refinement

/-!
# What connections and workers make of the hub

Whatever is looked up in the cache was stored in it under the same key before. `Hub.Stocked` says so
of a hub and of a list of everything that was published, and every access of a connection or of a
disk worker keeps it. `Hub.Stores` says what exactly the cache holds, whatever the order in which it
was used, and looking something up keeps that.

Most of what a connection does is counted in the hub and leaves no other trace there (`Hub.Alike`).
-/

namespace FileServer.Hub

variable {hub next : Hub} {published : List (String × Content)}

/-- A hub that differs from another in what was counted, and not in the gauge of parked
connections. -/
structure Alike (hub next : Hub) : Prop where
  /-- The same contents. -/
  cache : next.cache = hub.cache
  /-- The same loads. -/
  queue : next.queue = hub.queue
  /-- The same gauge. -/
  waiting : next.counters.waiting = hub.counters.waiting

/-- A hub is like itself. -/
theorem Alike.refl (hub : Hub) : hub.Alike hub := ⟨rfl, rfl, rfl⟩

/-- Looking for a content that is not there changes nothing. -/
theorem lookup_of_absent {key : String} (h : hub.cache.contains key = false) :
    hub.lookup key = (none, hub) := by
  have hindex : hub.cache.index[key]? = none := by
    rwa [Cache.contains, Std.TreeMap.contains_eq_isSome_getElem?, Option.isSome_eq_false_iff,
      Option.isNone_iff_eq_none] at h
  simp [lookup, Cache.get?, hindex]

/-- A lookup counts a hit if it finds something. -/
theorem hits_lookup (hub : Hub) (key : String) : (hub.lookup key).2.counters.hits
    = hub.counters.hits + (hub.lookup key).1.isSome.toNat := by
  rw [lookup]
  rcases hub.cache.get? key with ⟨_ | content, cache⟩ <;> rfl

/-- The cache holds nothing that was not published. -/
def Stocked (published : List (String × Content)) (hub : Hub) : Prop :=
  ∃ cells, hub.cache.Represents cells ∧ ∀ cell ∈ cells, cell.2 ∈ published

/-- An empty cache holds nothing that was not published. -/
theorem stocked_empty (budget : Nat) : (empty budget).Stocked [] :=
  ⟨[], Cache.represents_empty budget, fun _ hcell => absurd hcell List.not_mem_nil⟩

namespace Stocked

/-- Only the cache matters. -/
theorem congr (h : hub.Stocked published) (hcache : next.cache = hub.cache) :
    next.Stocked published := by
  obtain ⟨cells, hcells, hpublished⟩ := h
  exact ⟨cells, hcache ▸ hcells, hpublished⟩

/-- A content that is found was published under the key. -/
theorem lookup (h : hub.Stocked published) (key : String) :
    (hub.lookup key).2.Stocked published ∧
      ∀ content, (hub.lookup key).1 = some content → (key, content) ∈ published := by
  obtain ⟨cells, hcells, hpublished⟩ := h
  obtain ⟨moved, hmoved, heq⟩ := hcells.get? key
  have hentry : ∀ entry ∈ cells.map Prod.snd, entry ∈ published := by
    intro entry hentry
    obtain ⟨cell, hcell, rfl⟩ := List.mem_map.1 hentry
    exact hpublished cell hcell
  refine ⟨⟨moved, hmoved, fun cell hcell => ?_⟩, fun content hcontent => ?_⟩
  · have hmem : cell.2 ∈ (Recency.get? (cells.map Prod.snd) key).2 := by
      rw [← heq]
      exact List.mem_map_of_mem hcell
    exact hentry _ (Recency.mem_of_mem_get? hmem)
  · have hfound : (Recency.get? (cells.map Prod.snd) key).1 = some content := by
      rw [← heq]
      exact hcontent
    exact hentry _ (Recency.mem_of_get? hfound)

/-- A content is found if it is there. -/
theorem isSome_lookup (h : hub.Stocked published) (key : String) :
    (hub.lookup key).1.isSome = hub.cache.contains key := by
  obtain ⟨cells, hcells, -⟩ := h
  obtain ⟨moved, -, heq⟩ := hcells.get? key
  have hfound : (hub.lookup key).1 = (Recency.get? (cells.map Prod.snd) key).1 :=
    congrArg Prod.fst heq
  rw [hfound, hcells.contains_eq, Recency.get?]
  split
  · rename_i hnone
    rw [hnone]
  · rename_i content hcontent
    rw [hcontent]

/-- What is there was published. -/
theorem mem_of_contains {key : String} (h : hub.Stocked published)
    (hcontains : hub.cache.contains key = true) : ∃ content, (key, content) ∈ published := by
  rw [← h.isSome_lookup] at hcontains
  obtain ⟨content, hcontent⟩ := Option.isSome_iff_exists.1 hcontains
  exact ⟨content, (h.lookup key).2 content hcontent⟩

/-- Nothing need have been published but what is there. -/
theorem exists_entries (h : hub.Stocked published) :
    ∃ entries, hub.Stocked entries ∧ ∀ entry ∈ entries, hub.cache.contains entry.1 = true := by
  obtain ⟨cells, hcells, -⟩ := h
  exact ⟨cells.map Prod.snd, ⟨cells, hcells, fun cell hcell => List.mem_map_of_mem hcell⟩,
    fun entry hentry => hcells.contains_of_mem hentry⟩

/-- Storing publishes. -/
theorem store (h : hub.Stocked published) (key : String) (content : Content) :
    (hub.store key content).Stocked (published ++ [(key, content)]) := by
  obtain ⟨cells, hcells, hpublished⟩ := h
  obtain ⟨kept, hkept, heq⟩ := hcells.put key content
  refine ⟨kept, hkept, ?_⟩
  intro cell hcell
  have hmem : cell.2 ∈ Recency.put hub.cache.budget (cells.map Prod.snd) key content := by
    rw [← heq]
    exact List.mem_map_of_mem hcell
  rcases Recency.mem_of_mem_put hmem with hnew | hold
  · rw [hnew]
    exact List.mem_append_right _ List.mem_cons_self
  · obtain ⟨other, hother, hsame⟩ := List.mem_map.1 hold
    rw [← hsame]
    exact List.mem_append_left _ (hpublished other hother)

end Stocked

/-! ### What exactly the cache holds -/

variable {entries : Recency} {key : String} {content : Content}

/-- The cache holds these entries, in whatever order they were used. -/
def Stores (entries : Recency) (hub : Hub) : Prop :=
  ∃ cells, hub.cache.Represents cells ∧ (cells.map Prod.snd).Perm entries

namespace Stores

/-- Only the cache matters. -/
theorem congr (h : hub.Stores entries) (hcache : next.cache = hub.cache) : next.Stores entries := by
  obtain ⟨cells, hcells, hperm⟩ := h
  exact ⟨cells, hcache ▸ hcells, hperm⟩

/-- What is stored is all that is there. -/
theorem stocked (h : hub.Stores entries) : hub.Stocked entries := by
  obtain ⟨cells, hcells, hperm⟩ := h
  exact ⟨cells, hcells, fun cell hcell => hperm.mem_iff.1 (List.mem_map_of_mem hcell)⟩

/-- Looking up changes the order of use only. -/
theorem lookup (h : hub.Stores entries) (key : String) : (hub.lookup key).2.Stores entries := by
  obtain ⟨cells, hcells, hperm⟩ := h
  obtain ⟨moved, hmoved, heq⟩ := hcells.get? key
  have hentries : moved.map Prod.snd = (Recency.get? (cells.map Prod.snd) key).2 :=
    congrArg Prod.snd heq
  refine ⟨moved, hmoved, ?_⟩
  rw [hentries]
  exact (Recency.get?_perm hcells.keys_nodup key).trans hperm

/-- What the cache holds is found. -/
theorem isSome_lookup (h : hub.Stores entries) (hentry : (key, content) ∈ entries) :
    (hub.lookup key).1.isSome = true := by
  rw [h.stocked.isSome_lookup]
  obtain ⟨cells, hcells, hperm⟩ := h
  exact hcells.contains_of_mem (hperm.mem_iff.2 hentry)

/-- A lookup that finds nothing changes nothing. -/
theorem lookup_of_isNone (h : hub.Stores entries) (hnone : (hub.lookup key).1.isSome = false) :
    hub.lookup key = (none, hub) := by
  apply lookup_of_absent
  rw [← h.stocked.isSome_lookup, hnone]

end Stores

end FileServer.Hub
