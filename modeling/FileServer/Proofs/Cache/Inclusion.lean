import FileServer.Proofs.Cache.Refinement

/-!
# A larger budget loses no hit

A reference to a key looks its content up and, where nothing is found, stores what the key stands
for. Two caches that are empty at first and see the same references differ in what they drop, and
so in which references are hits. Still the keys of the cache with the smaller budget are always the
first keys of the other one (`keys_referAll_isPrefix`), so what is found in the one is found in the
other.

The two caches part where the smaller one misses and the larger one hits: the one stores, the other
moves an entry to the front, and both come to the same front (`Recency.refer_isPrefix`). That needs
the stored content to be the one that was found, which is why what a key stands for is fixed
(`Recency.Holds`).
-/

namespace FileServer

namespace Recency

variable {content : String → Content} {budget small large : Nat} {front entries : Recency}
  {key : String}

/-- A reference on a recency list: whether the key is found, and the list after it. -/
def refer (budget : Nat) (content : String → Content) (entries : Recency) (key : String) :
    Bool × Recency :=
  match entries.get? key with
  | (some _, moved) => (true, moved)
  | (none, same) => (false, same.put budget key (content key))

/-- Every entry holds what its key stands for. -/
def Holds (content : String → Content) (entries : Recency) : Prop :=
  ∀ entry ∈ entries, entry.2 = content entry.1

/-- A reference that finds nothing puts the content. -/
theorem refer_of_notMem (h : key ∉ entries.keys) :
    entries.refer budget content key = (false, entries.put budget key (content key)) := by
  rw [refer, get?_eq_self h]

/-- A reference to a key that occurs moves its entry to the front. -/
theorem refer_of_split {found : Content} {back : Recency} (hfront : key ∉ front.keys)
    (hback : key ∉ back.keys) :
    (front ++ (key, found) :: back).refer budget content key
      = (true, (key, found) :: (front ++ back)) := by
  rw [refer, get?_of_split hfront hback]

/-- A reference leaves every entry with the content of its key. -/
theorem Holds.refer (h : entries.Holds content) (budget : Nat) (key : String) :
    (entries.refer budget content key).2.Holds content := by
  intro entry hentry
  have hmoved : ∀ entry ∈ (entries.get? key).2, entry.2 = content entry.1 :=
    fun entry hentry => h entry (mem_of_mem_get? hentry)
  unfold Recency.refer at hentry
  split at hentry
  · rename_i moved hget
    rw [hget] at hmoved
    exact hmoved entry hentry
  · rename_i same hget
    rw [hget] at hmoved
    rcases mem_of_mem_put hentry with rfl | hold
    · rfl
    · exact hmoved entry hold

/-- Storing in front of a longer list keeps as much, if the budget is no smaller. -/
theorem keep_cons_isPrefix (hbudget : small ≤ large) (hpart : front <+: entries)
    (entry : String × Content) :
    keep small (entry :: front) <+: keep large (entry :: entries) := by
  have hkept : keep small (entry :: front) <+: entry :: entries :=
    (keep_isPrefix small _).trans ((List.prefix_cons_inj entry).2 hpart)
  rcases weight_keep_le small (entry :: front) with hfits | hsingle
  · exact prefix_keep_of_weight_le hkept (Nat.le_trans hfits hbudget)
  · -- Too heavy for the smaller budget, the new entry is alone there; it is never dropped here.
    obtain ⟨only, honly⟩ := List.length_eq_one_iff.1 hsingle
    rw [honly] at hkept ⊢
    obtain rfl : only = entry := by simpa using hkept
    rw [keep_cons]
    split
    · exact List.prefix_append [only] _
    · exact List.prefix_refl _

/-- **One reference** on two lists, the one a front part of the other: so it is afterwards, and what
is found in the shorter list is found in the longer one. -/
theorem refer_isPrefix (hbudget : small ≤ large) (hpart : front <+: entries)
    (hnodup : entries.keys.Nodup) (hholds : entries.Holds content) (key : String) :
    (front.refer small content key).2 <+: (entries.refer large content key).2 ∧
      ((front.refer small content key).1 = true → (entries.refer large content key).1 = true) := by
  obtain ⟨rest, rfl⟩ := hpart
  have hparts := hnodup
  rw [keys_append, List.nodup_append] at hparts
  obtain ⟨hfront, hrest, hapart⟩ := hparts
  by_cases hshort : key ∈ front.keys
  · -- Both find it, at the same place.
    obtain ⟨before, found, behind, rfl, hbefore, hbehind⟩ := exists_split hfront hshort
    have hbeyond : key ∉ keys (behind ++ rest) := by
      rw [keys_append, List.mem_append, not_or]
      exact ⟨hbehind, fun hmem => hapart key hshort key hmem rfl⟩
    rw [refer_of_split hbefore hbehind, List.append_assoc, List.cons_append,
      refer_of_split hbefore hbeyond, ← List.append_assoc]
    exact ⟨List.prefix_append _ rest, fun _ => rfl⟩
  · rw [refer_of_notMem hshort, put, without_eq_self hshort]
    refine ⟨?_, fun hhit => by cases hhit⟩
    by_cases hlong : key ∈ keys rest
    · -- The longer list finds what the shorter one stores.
      obtain ⟨before, found, behind, rfl, hbefore, hbehind⟩ := exists_split hrest hlong
      have hahead : key ∉ keys (front ++ before) := by
        rw [keys_append, List.mem_append, not_or]
        exact ⟨hshort, hbefore⟩
      have hfound : found = content key := hholds (key, found) (by simp)
      rw [← List.append_assoc, refer_of_split hahead hbehind, hfound, List.append_assoc]
      show keep small ((key, content key) :: front) <+: _
      apply (keep_isPrefix small _).trans
      exact (List.prefix_cons_inj _).2 (List.prefix_append front _)
    · -- Both store it.
      have hneither : key ∉ keys (front ++ rest) := by
        rw [keys_append, List.mem_append, not_or]
        exact ⟨hshort, hlong⟩
      rw [refer_of_notMem hneither, put, without_eq_self hneither]
      exact keep_cons_isPrefix hbudget (List.prefix_append front rest) _

end Recency

namespace Cache

variable {cache : Cache} {cells : List Cell} {content : String → Content}

/-- A reference to a key: its content is looked up, and stored if nothing is found. Gives whether
something was found. -/
def refer (content : String → Content) (cache : Cache) (key : String) : Bool × Cache :=
  match cache.get? key with
  | (some _, moved) => (true, moved)
  | (none, same) => (false, same.put key (content key))

/-- Several references, one after the other, with whether each of them found something. -/
def referAll (content : String → Content) (cache : Cache) : List String → List Bool × Cache
  | [] => ([], cache)
  | key :: keys =>
    let (hit, cache) := cache.refer content key
    let (hits, cache) := cache.referAll content keys
    (hit :: hits, cache)

/-- A reference does to a cache what it does to the recency list. -/
theorem Represents.refer (h : Represents cache cells) (content : String → Content) (key : String) :
    ∃ left, Represents (cache.refer content key).2 left ∧
      (cache.refer content key).2.budget = cache.budget ∧
      ((cache.refer content key).1, left.map Prod.snd)
        = Recency.refer cache.budget content (cells.map Prod.snd) key := by
  obtain ⟨moved, hmoved, heq⟩ := h.get? key
  have hbudget := budget_get? cache key
  unfold Cache.refer Recency.refer
  rw [← heq]
  rcases hget : cache.get? key with ⟨found, next⟩
  rw [hget] at hmoved hbudget
  cases found with
  | some found => exact ⟨moved, hmoved, hbudget, rfl⟩
  | none =>
      obtain ⟨left, hleft, hentries⟩ := hmoved.put key (content key)
      refine ⟨left, hleft, (budget_put next key _).trans hbudget, ?_⟩
      rw [hentries]
      show (false, Recency.put next.budget _ key _) = _
      rw [show next.budget = cache.budget from hbudget]

/-- The entries of one cache are the first entries of another one with no smaller budget, and every
entry holds what its key stands for. -/
structure Included (content : String → Content) (small large : Cache) : Prop where
  /-- The one budget is no larger than the other. -/
  budget_le : small.budget ≤ large.budget
  /-- The one is represented by a front part of what represents the other. -/
  represented : ∃ cells cells', Represents small cells ∧ Represents large cells' ∧
    cells.map Prod.snd <+: cells'.map Prod.snd ∧ Recency.Holds content (cells'.map Prod.snd)

/-- Of two empty caches one is included in the other. -/
theorem included_empty (content : String → Content) {small large : Nat} (h : small ≤ large) :
    Included content (empty small) (empty large) where
  budget_le := h
  represented := ⟨[], [], represents_empty small, represents_empty large, List.prefix_refl _,
    fun _ hentry => absurd hentry List.not_mem_nil⟩

variable {small large : Cache}

/-- The keys of the smaller cache are the first ones of the larger. -/
theorem Included.keys_isPrefix (h : Included content small large) : small.keys <+: large.keys := by
  obtain ⟨cells, cells', hsmall, hlarge, hpart, -⟩ := h.represented
  rw [keys, keys, hsmall.toList_eq, hlarge.toList_eq]
  exact hpart.map Prod.fst

/-- **A reference** leaves the one cache included in the other, which misses only where both do. -/
theorem Included.refer (h : Included content small large) (key : String) :
    Included content (small.refer content key).2 (large.refer content key).2 ∧
      ((small.refer content key).1 = true → (large.refer content key).1 = true) := by
  obtain ⟨cells, cells', hsmall, hlarge, hpart, hholds⟩ := h.represented
  obtain ⟨left, hleft, hbudget, heq⟩ := hsmall.refer content key
  obtain ⟨left', hleft', hbudget', heq'⟩ := hlarge.refer content key
  have hstep := Recency.refer_isPrefix h.budget_le hpart hlarge.keys_nodup hholds key
  have hstill := hholds.refer large.budget key
  rw [← heq, ← heq'] at hstep
  rw [← heq'] at hstill
  refine ⟨⟨?_, left, left', hleft, hleft', hstep.1, hstill⟩, hstep.2⟩
  rw [hbudget, hbudget']
  exact h.budget_le

/-- **Whatever the smaller cache finds**, the larger one finds as well, and it stays so. -/
theorem Included.referAll (h : Included content small large) (references : List String) :
    Included content (small.referAll content references).2 (large.referAll content references).2 ∧
      ∀ place : Nat, (small.referAll content references).1[place]? = some true →
        (large.referAll content references).1[place]? = some true := by
  induction references generalizing small large with
  | nil => exact ⟨h, fun place hhit => hhit⟩
  | cons key references ih =>
      obtain ⟨hnext, hhit⟩ := h.refer key
      obtain ⟨hend, hrest⟩ := ih hnext
      refine ⟨hend, fun place => ?_⟩
      cases place with
      | zero =>
          intro hfirst
          exact congrArg some (hhit (Option.some.inj hfirst))
      | succ place => exact hrest place

/-- **A larger budget loses no hit.** Two caches that were empty see the same references, each of
which stores what its key stands for if it is not found. Then the keys of the one with the smaller
budget are the first keys of the other, and whichever reference hits in the smaller cache hits in
the larger one. -/
theorem keys_referAll_isPrefix (content : String → Content) {small large : Nat}
    (hbudget : small ≤ large) (references : List String) :
    ((empty small).referAll content references).2.keys
        <+: ((empty large).referAll content references).2.keys ∧
      ∀ place : Nat, ((empty small).referAll content references).1[place]? = some true →
        ((empty large).referAll content references).1[place]? = some true := by
  obtain ⟨hend, hhits⟩ := (included_empty content hbudget).referAll references
  exact ⟨hend.keys_isPrefix, hhits⟩

/-- Of two budgets only the larger one finds `a` again; the heavy content fits neither, the empty
one weighs nothing. -/
theorem keys_referAll_isPrefix_heavy :
    let content : String → Content := fun key =>
      if key = "heavy" then .file [1, 2, 3, 4, 5, 6, 7]
      else if key = "empty" then .file [] else .file [1, 2]
    let small := (empty 3).referAll content ["heavy", "a", "b", "empty", "a", "empty"]
    let large := (empty 6).referAll content ["heavy", "a", "b", "empty", "a", "empty"]
    3 ≤ 6 ∧ small.1 = [false, false, false, false, false, true] ∧
      large.1 = [false, false, false, false, true, true] ∧
      small.2.keys = ["empty", "a"] ∧ large.2.keys = ["empty", "a", "b"] ∧
      small.2.keys <+: large.2.keys ∧
      ∀ place : Nat, small.1[place]? = some true → large.1[place]? = some true := by
  intro content small large
  refine ⟨by decide, ?_, ?_, ?_, ?_, keys_referAll_isPrefix content (by decide) _⟩
  · decide +kernel
  · decide +kernel
  · decide +kernel
  · decide +kernel

end Cache

end FileServer
