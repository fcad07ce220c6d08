import Mathlib.Data.List.Nodup
import FileServer.Cache.Basic

/-!
# The chain of a cache

The entries of a cache are linked in both directions in the order of their last use. `Chain` says
what the links have to do with a list of slots, the newest first: wherever the list is cut, the slot
at the cut knows the slot before it as its newer neighbour and the slot behind it as its older one.

Taking a slot out of the chain and putting one in front of it are the only two ways in which the
links change (`Chain.unlink`, `Chain.link`). Neither changes what an entry holds (`label?`).
-/

namespace FileServer.Cache

variable {cache : Cache} {order front back : List Nat} {slot : Nat}

/-- The key and the content in a slot. -/
def label? (cache : Cache) (slot : Nat) : Option (String × Content) :=
  (cache.entries.get? slot).map fun entry => (entry.key, entry.content)

/-- The links of a cache run through the slots of a list, the newest first. -/
structure Chain (cache : Cache) (order : List Nat) : Prop where
  /-- No slot is met twice. -/
  nodup : order.Nodup
  /-- The chain begins at the newest entry. -/
  newest_eq : cache.newest = order.head?
  /-- It ends at the oldest one. -/
  oldest_eq : cache.oldest = order.getLast?
  /-- Every entry on it is linked to the one before it and the one behind it. -/
  links : ∀ front slot back, order = front ++ slot :: back →
    ∃ entry, cache.entries.get? slot = some entry ∧
      entry.newer = front.getLast? ∧ entry.older = back.head?

/-! ## Changed links -/

/-- A changed entry is as occupied as before. -/
theorem label?_congr {other : Cache} {f : Entry → Entry}
    (h : other.entries.get? slot = (cache.entries.get? slot).map f)
    (hkey : ∀ entry, (f entry).key = entry.key)
    (hcontent : ∀ entry, (f entry).content = entry.content) :
    other.label? slot = cache.label? slot := by
  unfold label?
  rw [h, Option.map_map]
  congr 1
  funext entry
  exact Prod.ext (hkey entry) (hcontent entry)

/-- What unlinking makes of an entry: the slot itself loses both neighbours, and its neighbours
become each other's. -/
def bypass (slot : Nat) (gone : Entry) (other : Nat) (entry : Entry) : Entry :=
  if other = slot then { entry with newer := none, older := none }
  else { entry with
    newer := if gone.older = some other then gone.newer else entry.newer
    older := if gone.newer = some other then gone.older else entry.older }

/-- Unlinking an entry makes its neighbours bypass it. -/
theorem get?_unlink {gone : Entry} (h : cache.entries.get? slot = some gone) (other : Nat) :
    (cache.unlink slot).entries.get? other
      = (cache.entries.get? other).map (bypass slot gone other) := by
  obtain ⟨key, content, newer, older⟩ := gone
  rcases newer with _ | newer <;> rcases older with _ | older <;>
    simp only [unlink, h, Slab.get?_modify]
  all_goals
    rcases cache.entries.get? other with _ | ⟨key, content, newer, older⟩
    · simp
    · grind [bypass]

/-- Unlinking changes what no slot holds. -/
theorem label?_unlink {gone : Entry} (h : cache.entries.get? slot = some gone) (other : Nat) :
    (cache.unlink slot).label? other = cache.label? other := by
  refine label?_congr (get?_unlink h other) ?_ ?_ <;>
    · intro entry
      unfold bypass
      split <;> rfl

/-- What linking makes of an entry: the slot itself gets the newest one as its older neighbour, and
becomes the newer neighbour of that one. -/
def overtake (slot : Nat) (newest : Option Nat) (other : Nat) (entry : Entry) : Entry :=
  let entry := if other = slot then { entry with newer := none, older := newest } else entry
  if newest = some other then { entry with newer := some slot } else entry

/-- Linking an entry makes it the newest, and the newest so far the one before it. -/
theorem get?_link (cache : Cache) (slot other : Nat) :
    (cache.link slot).entries.get? other
      = (cache.entries.get? other).map (overtake slot cache.newest other) := by
  rcases hnew : cache.newest with _ | newest
  all_goals
    simp only [link, hnew, Slab.get?_modify]
    rcases cache.entries.get? other with _ | ⟨key, content, newer, older⟩
    · simp
    · grind [overtake]

/-- Linking changes what no slot holds. -/
theorem label?_link (cache : Cache) (slot other : Nat) :
    (cache.link slot).label? other = cache.label? other := by
  refine label?_congr (get?_link cache slot other) ?_ ?_ <;>
    · intro entry
      unfold overtake
      simp only
      split <;> split <;> rfl

/-! ## The chain after a change -/

/-- A slot on the chain is occupied. -/
theorem Chain.get? (h : Chain cache (front ++ slot :: back)) :
    ∃ entry, cache.entries.get? slot = some entry ∧
      entry.newer = front.getLast? ∧ entry.older = back.head? :=
  h.links front slot back rfl

/-- The chain depends only on the ends and on the entries that are on it. -/
theorem Chain.congr {other : Cache} (h : Chain cache order)
    (hnewest : other.newest = cache.newest) (holdest : other.oldest = cache.oldest)
    (hget : ∀ slot ∈ order, other.entries.get? slot = cache.entries.get? slot) :
    Chain other order where
  nodup := h.nodup
  newest_eq := hnewest.trans h.newest_eq
  oldest_eq := holdest.trans h.oldest_eq
  links front slot back horder := by
    rw [hget slot (by simp [horder])]
    exact h.links front slot back horder

/-- The links of a slot that stands behind one that is unlinked. -/
theorem Chain.links_unlink_behind {middle : List Nat} {other : Nat}
    (h : Chain cache (front ++ slot :: (middle ++ other :: back))) :
    ∃ entry, (cache.unlink slot).entries.get? other = some entry ∧
      entry.newer = (front ++ middle).getLast? ∧ entry.older = back.head? := by
  obtain ⟨gone, hgone, hnewer, holder⟩ := h.get?
  obtain ⟨entry, hentry, hnewer', holder'⟩ :=
    h.links (front ++ slot :: middle) other back (by simp)
  have hnodup := h.nodup
  have hslot : other ≠ slot := by
    rintro rfl
    simp [List.nodup_append] at hnodup
  have hnot : front.getLast? ≠ some other := by
    intro hlast
    have hmem := List.mem_of_getLast? hlast
    simp [List.nodup_append] at hnodup
    grind
  refine ⟨_, by rw [get?_unlink hgone, hentry]; rfl, ?_, ?_⟩
  · rw [bypass, if_neg hslot]
    simp only [hnewer, holder, hnewer']
    rcases middle with _ | ⟨first, middle⟩
    · simp
    · have hne : first ≠ other := by
        rintro rfl
        simp [List.nodup_append] at hnodup
      simp [hne, List.getLast?_cons_cons]
  · rw [bypass, if_neg hslot]
    simp only [hnewer, if_neg hnot, holder']

/-- The links of a slot that stands before one that is unlinked. -/
theorem Chain.links_unlink_before {middle : List Nat} {other : Nat}
    (h : Chain cache (front ++ other :: (middle ++ slot :: back))) :
    ∃ entry, (cache.unlink slot).entries.get? other = some entry ∧
      entry.newer = front.getLast? ∧ entry.older = (middle ++ back).head? := by
  obtain ⟨gone, hgone, hnewer, holder⟩ :=
    h.links (front ++ other :: middle) slot back (by simp)
  obtain ⟨entry, hentry, hnewer', holder'⟩ := h.get?
  have hnodup := h.nodup
  have hslot : other ≠ slot := by
    rintro rfl
    simp [List.nodup_append] at hnodup
  have hnot : back.head? ≠ some other := by
    intro hhead
    have hmem := List.mem_of_head? hhead
    simp [List.nodup_append] at hnodup
    grind
  refine ⟨_, by rw [get?_unlink hgone, hentry]; rfl, ?_, ?_⟩
  · rw [bypass, if_neg hslot]
    simp only [holder, if_neg hnot, hnewer']
  · rw [bypass, if_neg hslot]
    simp only [hnewer, holder, holder']
    rcases middle.eq_nil_or_concat with rfl | ⟨middle, last, rfl⟩
    · simp
    · have hne : last ≠ other := by
        rintro rfl
        simp [List.nodup_append] at hnodup
      rcases middle with _ | ⟨first, middle⟩ <;> simp [hne, List.getLast?_cons]

/-- **Unlinking** a slot takes it out of the chain. -/
theorem Chain.unlink (h : Chain cache (front ++ slot :: back)) :
    Chain (cache.unlink slot) (front ++ back) := by
  obtain ⟨gone, hgone, hnewer, holder⟩ := h.get?
  refine ⟨?_, ?_, ?_, ?_⟩
  · exact h.nodup.sublist (List.Sublist.append_left (List.sublist_cons_self slot back) front)
  · simp only [Cache.unlink, hgone, hnewer, holder]
    rcases front with _ | ⟨first, front⟩
    · simp
    · simp [h.newest_eq]
  · simp only [Cache.unlink, hgone, hnewer, holder]
    rcases back.eq_nil_or_concat with rfl | ⟨back, last, rfl⟩
    · simp
    · simp [h.oldest_eq, List.getLast?_cons]
  · intro f other b horder
    rcases List.append_eq_append_iff.1 horder with ⟨middle, rfl, rfl⟩ | ⟨middle, rfl, hb⟩
    · exact h.links_unlink_behind
    · rcases middle with _ | ⟨first, middle⟩
      · obtain rfl : other :: b = back := hb
        have hbehind : Chain cache (f ++ [] ++ slot :: ([] ++ other :: b)) := h
        simpa using hbehind.links_unlink_behind
      · obtain ⟨rfl, rfl⟩ := List.cons.inj hb
        rw [List.append_assoc] at h
        exact h.links_unlink_before

/-- **Linking** a slot puts it in front of the chain. -/
theorem Chain.link (h : Chain cache order) (hslot : slot ∉ order)
    (hsome : (cache.entries.get? slot).isSome) : Chain (cache.link slot) (slot :: order) := by
  refine ⟨List.nodup_cons.2 ⟨hslot, h.nodup⟩, rfl, ?_, ?_⟩
  · simp only [Cache.link, h.oldest_eq]
    rcases order.eq_nil_or_concat with rfl | ⟨order, last, rfl⟩ <;>
      simp [List.getLast?_cons]
  · intro front other back horder
    rcases front with _ | ⟨first, front⟩
    · obtain ⟨rfl, rfl⟩ := List.cons.inj horder
      obtain ⟨entry, hentry⟩ := Option.isSome_iff_exists.1 hsome
      have hne : order.head? ≠ some slot := fun hhead => hslot (List.mem_of_head? hhead)
      refine ⟨_, by rw [get?_link, hentry]; rfl, ?_, ?_⟩
      · simp [overtake, h.newest_eq, hne]
      · simp [overtake, h.newest_eq, hne]
    · obtain ⟨rfl, rfl⟩ := List.cons.inj horder
      obtain ⟨entry, hentry, hnewer, holder⟩ := h.get?
      have hne : other ≠ slot := by
        rintro rfl
        simp at hslot
      refine ⟨_, by rw [get?_link, hentry]; rfl, ?_, ?_⟩
      · rcases front with _ | ⟨next, front⟩
        · simp [overtake, h.newest_eq, hne]
        · have hnext : next ≠ other := by
            rintro rfl
            have hnodup := h.nodup
            simp at hnodup
          simp [overtake, h.newest_eq, hne, hnext, hnewer, List.getLast?_cons]
      · rw [← holder]
        unfold overtake
        rw [if_neg hne]
        split <;> rfl

end FileServer.Cache
