import FileServer.Proofs.Cache.Refinement

/-!
# No access to a vacant slot

The operations of a cache pass over what is not there: changing a vacant slot changes nothing, a
size less than nothing is nothing, and the loops are cut off after as many rounds as there are
entries. The operations here do not. They give nothing where a vacant slot is read or changed, where
the size would become negative, and where a loop would go on after that many rounds.

On a cache that represents some cells they give what the operations of the cache give
(`Represents.strict_put`, `Represents.strict_get`, `Represents.strict_keys`), so none of this
happens there: not in the result, nor in between, when an entry is linked in one direction only.
-/

namespace FileServer

namespace Slab

variable {α : Type}

/-- Changes the value in a slot. There must be one. -/
def alter? (slab : Slab α) (key : Nat) (f : α → α) : Option (Slab α) :=
  if slab.contains key then some (slab.modify key f) else none

/-- Takes the value out of a slot. There must be one. -/
def remove? (slab : Slab α) (key : Nat) : Option (α × Slab α) :=
  (slab.get? key).map fun a => (a, slab.erase key)

/-- Changing a slot leaves the same slots occupied. -/
@[simp] theorem contains_modify (slab : Slab α) (changed : Nat) (f : α → α) (key : Nat) :
    (slab.modify changed f).contains key = slab.contains key := by
  rw [contains, get?_modify, contains]
  split
  · exact Option.isSome_map
  · rfl

end Slab

namespace Cache

namespace Strict

/-- Takes an entry out of the order of last use. -/
def unlink (cache : Cache) (slot : Nat) : Option Cache := do
  let entry ← cache.entries.get? slot
  let cache ← match entry.newer with
    | some newer => do
      let entries ← cache.entries.alter? newer ({ · with older := entry.older })
      pure { cache with entries }
    | none => pure { cache with newest := entry.older }
  let cache ← match entry.older with
    | some older => do
      let entries ← cache.entries.alter? older ({ · with newer := entry.newer })
      pure { cache with entries }
    | none => pure { cache with oldest := entry.newer }
  let entries ← cache.entries.alter? slot ({ · with newer := none, older := none })
  pure { cache with entries }

/-- Puts an entry that is in no order in front of all others. -/
def link (cache : Cache) (slot : Nat) : Option Cache := do
  let first := cache.newest
  let entries ← cache.entries.alter? slot ({ · with newer := none, older := first })
  let entries ← match first with
    | some newest => entries.alter? newest ({ · with newer := some slot })
    | none => pure entries
  pure { cache with
    entries
    newest := some slot
    oldest := if cache.oldest.isNone then some slot else cache.oldest }

/-- Drops the entry in a slot. -/
def drop (cache : Cache) (slot : Nat) : Option Cache := do
  let cache ← unlink cache slot
  let (entry, entries) ← cache.entries.remove? slot
  let cache := { cache with entries, index := cache.index.erase entry.key }
  if entry.content.weight ≤ cache.size then
    pure { cache with size := cache.size - entry.content.weight }
  else none

/-- Drops the least recently used entries until the weights fit the budget or only the entry in the
slot `kept` is left. There must be no more than `count` to drop. -/
def evict (kept : Nat) (count : Nat) (cache : Cache) : Option Cache :=
  if cache.budget < cache.size then
    match cache.oldest with
    | none => some cache
    | some cold =>
      if cold = kept then some cache
      else match count with
        | 0 => none
        | count + 1 => do
          let cache ← drop cache cold
          evict kept count cache
  else some cache

/-- Drops the entry of a key, if there is one. -/
def forget (cache : Cache) (key : String) : Option Cache :=
  match cache.index[key]? with
  | some slot => drop cache slot
  | none => some cache

/-- Adds an entry in front of all others, whether or not it fits the budget. -/
def add (cache : Cache) (key : String) (content : Content) : Option Cache := do
  let slot := cache.entries.nextKey
  let cache ← link { cache with
    size := cache.size + content.weight
    entries := cache.entries.insert ⟨key, content, none, none⟩ } slot
  pure { cache with index := cache.index.insert key slot }

/-- Stores a content under a key as the most recently used entry, and drops what no longer fits. -/
def put (cache : Cache) (key : String) (content : Content) : Option Cache := do
  let cache ← forget cache key
  let slot := cache.entries.nextKey
  let cache ← add cache key content
  evict slot cache.entries.length cache

/-- The content under a key. The entry becomes the most recently used one. -/
def get (cache : Cache) (key : String) : Option (Option Content × Cache) :=
  match cache.index[key]? with
  | none => some (none, cache)
  | some slot => do
    let cache ← unlink cache slot
    let cache ← link cache slot
    let entry ← cache.entries.get? slot
    pure (some entry.content, cache)

/-- The keys met on the way from a slot to ever older entries. There must be no more than `count`. -/
def keysFrom (entries : Slab Entry) : Nat → Option Nat → Option (List String)
  | _, none => some []
  | 0, some _ => none
  | count + 1, some slot => do
    let entry ← entries.get? slot
    let rest ← keysFrom entries count entry.older
    pure (entry.key :: rest)

/-- The keys, the most recently used first. -/
def keys (cache : Cache) : Option (List String) :=
  keysFrom cache.entries cache.entries.length cache.newest

end Strict

variable {cache : Cache} {cells front back : List Cell} {slots : List Nat} {slot : Nat}
  {key : String} {content : Content}

/-! ### Links -/

/-- A slot on the chain is occupied. -/
theorem Chain.contains {order : List Nat} (h : Chain cache order) (hslot : slot ∈ order) :
    cache.entries.contains slot = true := by
  obtain ⟨front, back, rfl⟩ := List.append_of_mem hslot
  obtain ⟨entry, hentry, -⟩ := h.get?
  rw [Slab.contains, hentry]
  rfl

/-- Unlinking changes the slot and its neighbours. -/
theorem strict_unlink_of_contains {entry : Entry} (hentry : cache.entries.get? slot = some entry)
    (hnewer : ∀ newer, entry.newer = some newer → cache.entries.contains newer = true)
    (holder : ∀ older, entry.older = some older → cache.entries.contains older = true) :
    Strict.unlink cache slot = some (cache.unlink slot) := by
  have hself : cache.entries.contains slot = true := by rw [Slab.contains, hentry]; rfl
  obtain ⟨key, content, newer, older⟩ := entry
  rcases newer with _ | newer <;> rcases older with _ | older <;>
    simp_all [Strict.unlink, Cache.unlink, Slab.alter?]

/-- **Unlinking** a slot of the chain changes occupied slots only. -/
theorem Chain.strict_unlink {front back : List Nat} (h : Chain cache (front ++ slot :: back)) :
    Strict.unlink cache slot = some (cache.unlink slot) := by
  obtain ⟨entry, hentry, hnewer, holder⟩ := h.get?
  apply strict_unlink_of_contains hentry
  · intro newer hsome
    exact h.contains (List.mem_append_left _ (List.mem_of_getLast? (hnewer.symm.trans hsome)))
  · intro older hsome
    have hback := List.mem_of_head? (holder.symm.trans hsome)
    exact h.contains (List.mem_append_right _ (List.mem_cons_of_mem _ hback))

/-- **Linking** an occupied slot in front of the chain changes occupied slots only. -/
theorem Chain.strict_link {order : List Nat} (h : Chain cache order)
    (hslot : cache.entries.contains slot = true) :
    Strict.link cache slot = some (cache.link slot) := by
  have hnewest : ∀ newest, cache.newest = some newest → cache.entries.contains newest = true := by
    intro newest hsome
    exact h.contains (List.mem_of_head? (h.newest_eq.symm.trans hsome))
  rcases hn : cache.newest with _ | newest <;> rcases ho : cache.oldest with _ | oldest <;>
    simp_all [Strict.link, Cache.link, Slab.alter?]

/-! ### Entries -/

namespace Represents

/-- The chain around a cell. -/
theorem chain_around {cell : Cell} (h : Represents cache (front ++ cell :: back)) :
    Chain cache (front.map Prod.fst ++ cell.1 :: back.map Prod.fst) := by
  have hchain := h.chain
  rwa [List.map_append, List.map_cons] at hchain

/-- What stands in the slot of a cell. -/
theorem exists_entry {cell : Cell} (h : Represents cache cells) (hcell : cell ∈ cells) :
    ∃ entry, cache.entries.get? cell.1 = some entry ∧ entry.key = cell.2.1 ∧
      entry.content = cell.2.2 := by
  obtain ⟨entry, hentry, heq⟩ := Option.map_eq_some_iff.1 ((h.label?_iff cell.1 cell.2).2 hcell)
  exact ⟨entry, hentry, congrArg Prod.fst heq, congrArg Prod.snd heq⟩

/-- No content weighs more than all together. -/
theorem weight_le {cell : Cell} (h : Represents cache cells) (hcell : cell ∈ cells) :
    cell.2.2.weight ≤ cache.size := by
  obtain ⟨front, back, rfl⟩ := List.append_of_mem hcell
  rw [h.size_eq, List.map_append, List.map_cons, Recency.weight_append, Recency.weight_cons]
  omega

/-- **Dropping** the entry of a cell. -/
theorem strict_drop {cell : Cell} (h : Represents cache (front ++ cell :: back)) :
    Strict.drop cache cell.1 = some (cache.drop cell.1) := by
  have hcell : cell ∈ front ++ cell :: back := by simp
  obtain ⟨entry, hentry, -, hcontent⟩ := h.exists_entry hcell
  have hweight : entry.content.weight ≤ cache.size := by
    rw [hcontent]
    exact h.weight_le hcell
  have hafter : (cache.unlink cell.1).entries.get? cell.1
      = some { entry with newer := none, older := none } := by
    rw [get?_unlink hentry, hentry, Option.map_some, bypass, if_pos rfl]
  simp [Strict.drop, h.chain_around.strict_unlink, Slab.remove?, hafter, hweight, Cache.drop,
    hentry]

/-- **Evicting**: it ends in time, and drops what is there. -/
theorem strict_evict {cell : Cell} (h : Represents cache (cell :: cells)) {count : Nat}
    (hcount : cells.length ≤ count) :
    Strict.evict cell.1 count cache = some (Cache.evict cell.1 count cache) := by
  induction count generalizing cache cells with
  | zero =>
      obtain rfl := List.length_eq_zero_iff.1 (Nat.le_zero.1 hcount)
      have holdest : cache.oldest = some cell.1 := h.chain.oldest_eq
      rw [Strict.evict, holdest]
      simp [Cache.evict]
  | succ count ih =>
      rw [Strict.evict, Cache.evict]
      by_cases hfits : cache.size ≤ cache.budget
      · rw [if_neg (Nat.not_lt.2 hfits), if_pos hfits]
      · rw [if_pos (Nat.lt_of_not_le hfits), if_neg hfits]
        rcases cells.eq_nil_or_concat with rfl | ⟨cells, last, rfl⟩
        · have holdest : cache.oldest = some cell.1 := h.chain.oldest_eq
          simp [holdest]
        · have hsplit : Represents cache (cell :: cells ++ [last]) := by simpa using h
          have holdest : cache.oldest = some last.1 := by
            rw [h.chain.oldest_eq]
            simp [List.getLast?_cons]
          have hrest : Represents (cache.drop last.1) (cell :: cells) := by
            simpa using hsplit.drop
          have hmore := ih hrest (by simpa using hcount)
          rw [holdest]
          simp only [hsplit.strict_drop, Option.bind_eq_bind, Option.bind_some, hmore]
          split <;> rfl

/-- **Forgetting** a key drops its entry, if there is one. -/
theorem strict_forget (h : Represents cache cells) (key : String) :
    Strict.forget cache key = some (cache.forget key) := by
  unfold Strict.forget Cache.forget
  rcases hkey : cache.index[key]? with _ | slot
  · rfl
  · obtain ⟨front, back, content, rfl⟩ := h.exists_split_of_index hkey
    exact h.strict_drop

/-- **Adding** an entry links the slot that it was put into. -/
theorem strict_add (h : Represents cache cells) (key : String) (content : Content) :
    Strict.add cache key content = some (cache.add key content) := by
  have hvacant := cache.entries.get?_nextKey
  have hchain : Chain { cache with
      size := cache.size + content.weight
      entries := cache.entries.insert ⟨key, content, none, none⟩ } (cells.map Prod.fst) := by
    refine h.chain.congr rfl rfl fun other hother => ?_
    rw [Slab.get?_insert, if_neg]
    rintro rfl
    rw [h.mem_slots_iff, hvacant] at hother
    exact Bool.false_ne_true hother
  have hfilled : (cache.entries.insert ⟨key, content, none, none⟩).contains
      cache.entries.nextKey = true := by
    rw [Slab.contains, Slab.get?_insert, if_pos rfl]
    rfl
  simp only [Strict.add, hchain.strict_link hfilled]
  rfl

/-! ### Calls -/

/-- **Storing.** -/
theorem strict_put (h : Represents cache cells) (key : String) (content : Content) :
    Strict.put cache key content = some (cache.put key content) := by
  obtain ⟨rest, hrest, -, hkey⟩ := h.forget key
  have hadded := hrest.add hkey content
  have hcount : rest.length ≤ ((cache.forget key).add key content).entries.length := by
    have hlength := hadded.length_eq
    rw [length, List.length_cons] at hlength
    omega
  have hevicted := hadded.strict_evict hcount
  unfold Strict.put
  rw [h.strict_forget]
  simp only [Option.bind_eq_bind, Option.bind_some, hrest.strict_add, hevicted]
  rfl

/-- **Looking up.** -/
theorem strict_get (h : Represents cache cells) (key : String) :
    Strict.get cache key = some (cache.get? key) := by
  unfold Strict.get Cache.get?
  rcases hkey : cache.index[key]? with _ | slot
  · rfl
  · obtain ⟨front, back, content, rfl⟩ := h.exists_split_of_index hkey
    have hcell : (slot, key, content) ∈ front ++ (slot, key, content) :: back := by simp
    obtain ⟨entry, hentry, -⟩ := h.exists_entry hcell
    have hunlinked : ((cache.unlink slot).entries.get? slot).isSome := by
      rw [get?_unlink hentry, hentry]
      rfl
    have hlinked : (((cache.unlink slot).link slot).entries.get? slot).isSome := by
      rwa [get?_link, Option.isSome_map]
    obtain ⟨moved, hmoved⟩ := Option.isSome_iff_exists.1 hlinked
    have hunlink : Strict.unlink cache slot = _ := h.chain_around.strict_unlink
    have hlink := h.chain_around.unlink.strict_link hunlinked
    simp [hunlink, hlink, hmoved]

/-- **Walking** along the links meets the cells, and ends in time. -/
theorem keysFrom_eq (h : Represents cache (front ++ back)) {count : Nat}
    (hcount : back.length ≤ count) :
    Strict.keysFrom cache.entries count (back.map Prod.fst).head?
      = some (Recency.keys (back.map Prod.snd)) := by
  induction back generalizing front count with
  | nil => cases count <;> rfl
  | cons cell back ih =>
      obtain ⟨count, rfl⟩ : ∃ fewer, count = fewer + 1 :=
        ⟨count - 1, by simp only [List.length_cons] at hcount; omega⟩
      obtain ⟨entry, hentry, -, holder⟩ := h.chain_around.get?
      have hcell : cell ∈ front ++ cell :: back := by simp
      obtain ⟨found, hfound, hkey, -⟩ := h.exists_entry hcell
      obtain rfl : entry = found := Option.some.inj (hentry.symm.trans hfound)
      have hsplit : Represents cache (front ++ [cell] ++ back) := by simpa using h
      have hrest := ih hsplit (Nat.le_of_succ_le_succ hcount)
      rw [← holder] at hrest
      rw [List.map_cons, List.head?_cons, Strict.keysFrom]
      simp [hentry, hrest, hkey, Recency.keys]

/-- **Listing the keys.** -/
theorem strict_keys (h : Represents cache cells) : Strict.keys cache = some cache.keys := by
  have hwalk : Represents cache ([] ++ cells) := h
  have hlength : cells.length ≤ cache.entries.length := Nat.le_of_eq h.length_eq.symm
  rw [Strict.keys, h.chain.newest_eq, hwalk.keysFrom_eq hlength, keys, h.toList_eq]
  rfl

end Represents

end Cache

end FileServer
