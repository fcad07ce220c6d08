import Mathlib.Algebra.BigOperators.Group.Finset.Basic
import Mathlib.Algebra.GroupWithZero.Nat
import Mathlib.Algebra.Order.BigOperators.Group.Finset
import FileServer.Proofs.Cache.Inclusion

/-!
# Storing many contents at once

A batch of loads stores the contents of several keys, one after the other and with no lookup in
between. What was stored last is there in any case, since nothing is dropped by its own arrival
(`mem_stockAll_last`). If the contents of all keys fit the budget together, all of them are there
(`mem_stockAll_of_fits`), whatever the list held before: the contents stored so far stand in front
of everything older (`Leads`), and a front part within the budget is never dropped.
-/

namespace FileServer.Recency

variable {content : String → Content} {budget : Nat} {entries front : Recency}
  {names : List String} {name : String}

/-- Stores the contents of some keys, one after the other. -/
def stockAll (budget : Nat) (content : String → Content) (entries : Recency)
    (names : List String) : Recency :=
  names.foldl (fun entries name => entries.put budget name (content name)) entries

/-- The last content is put last. -/
theorem stockAll_concat (budget : Nat) (content : String → Content) (entries : Recency)
    (names : List String) (name : String) :
    entries.stockAll budget content (names ++ [name])
      = (entries.stockAll budget content names).put budget name (content name) :=
  List.foldl_append

/-- What is stored is there, however heavy it is. -/
theorem mem_put_self (budget : Nat) (entries : Recency) (name : String) (stored : Content) :
    (name, stored) ∈ entries.put budget name stored := by
  rw [put, keep_cons]
  split <;> exact List.mem_cons_self

/-- **What was stored last** is there, however heavy the contents are. -/
theorem mem_stockAll_last (budget : Nat) (content : String → Content) (entries : Recency)
    (names : List String) (name : String) :
    (name, content name) ∈ entries.stockAll budget content (names ++ [name]) := by
  rw [stockAll_concat]
  exact mem_put_self budget _ name (content name)

/-! ### What stands in front -/

/-- A list has the contents of some keys, each key once, and nothing else. -/
structure Leads (content : String → Content) (names : List String) (front : Recency) : Prop where
  /-- Every key has its content. -/
  holds : front.Holds content
  /-- No key occurs twice. -/
  nodup : front.keys.Nodup
  /-- The keys are these. -/
  mem_iff : ∀ name, name ∈ front.keys ↔ name ∈ names

/-- No names lead to no entries. -/
theorem leads_nil (content : String → Content) : Leads content [] [] where
  holds _ hentry := absurd hentry List.not_mem_nil
  nodup := List.nodup_nil
  mem_iff _ := Iff.rfl

/-- Without a name, its key is gone and the others stay. -/
theorem keys_without (entries : Recency) (name : String) :
    (entries.without name).keys = entries.keys.filter fun key => key ≠ name := by
  rw [keys, without, keys, List.filter_map]
  rfl

/-- The weight of contents that are fixed by their keys is a sum over the keys. -/
theorem Holds.weight_eq (h : front.Holds content) :
    front.weight = (front.keys.map fun name => (content name).weight).sum := by
  induction front with
  | nil => rfl
  | cons entry front ih =>
      rw [weight_cons, keys_cons, List.map_cons, List.sum_cons, h entry List.mem_cons_self,
        ih fun other hother => h other (List.mem_cons_of_mem _ hother)]

namespace Leads

/-- What stands in front weighs as much as the contents of the names, each counted once. -/
theorem weight_eq (h : Leads content names front) :
    front.weight = ∑ name ∈ names.toFinset, (content name).weight := by
  have hkeys : front.keys.toFinset = names.toFinset := by
    ext name
    rw [List.mem_toFinset, List.mem_toFinset, h.mem_iff]
  rw [h.holds.weight_eq, ← List.sum_toFinset _ h.nodup, hkeys]

/-- The content of one more key in front, in the place of an older one of the same key. -/
theorem cons (h : Leads content names front) (name : String) :
    Leads content (names ++ [name]) ((name, content name) :: front.without name) where
  holds := by
    intro entry hentry
    rcases List.mem_cons.1 hentry with rfl | hold
    · rfl
    · exact h.holds entry (List.mem_of_mem_filter hold)
  nodup := by
    rw [keys_cons, keys_without, List.nodup_cons]
    exact ⟨by simp, h.nodup.filter _⟩
  mem_iff := by
    intro other
    rw [keys_cons, keys_without, List.mem_cons, List.mem_filter, h.mem_iff, List.mem_append,
      List.mem_singleton]
    by_cases heq : other = name <;> simp [heq]

/-- **Storing one more content** leaves those stored before it, if all fit the budget together. -/
theorem put (h : Leads content names front) (hfront : front <+: entries)
    (hfits : ∑ key ∈ (names ++ [name]).toFinset, (content key).weight ≤ budget) :
    (name, content name) :: front.without name <+: entries.put budget name (content name) := by
  apply prefix_keep_of_weight_le
  · exact (List.prefix_cons_inj _).2 (hfront.filter _)
  · rw [(h.cons name).weight_eq]
    exact hfits

end Leads

/-- **Contents that fit the budget together** stand in front of all others once they are stored. -/
theorem exists_leads_stockAll (entries : Recency)
    (hfits : ∑ name ∈ names.toFinset, (content name).weight ≤ budget) :
    ∃ front, Leads content names front ∧ front <+: entries.stockAll budget content names := by
  induction names using List.reverseRecOn with
  | nil => exact ⟨[], leads_nil content, List.nil_prefix⟩
  | append_singleton names name ih =>
      have hless : ∑ key ∈ names.toFinset, (content key).weight ≤ budget := by
        refine le_trans (Finset.sum_le_sum_of_subset ?_) hfits
        intro key hkey
        rw [List.mem_toFinset] at hkey ⊢
        exact List.mem_append_left _ hkey
      obtain ⟨front, hleads, hfront⟩ := ih hless
      rw [stockAll_concat]
      exact ⟨_, hleads.cons name, hleads.put hfront hfits⟩

/-- **All contents are there** once they are stored, if they fit the budget together. -/
theorem mem_stockAll_of_fits (entries : Recency)
    (hfits : ∑ name ∈ names.toFinset, (content name).weight ≤ budget) (hname : name ∈ names) :
    (name, content name) ∈ entries.stockAll budget content names := by
  obtain ⟨front, hleads, hfront⟩ := exists_leads_stockAll entries hfits
  obtain ⟨⟨key, stored⟩, hentry, rfl⟩ := List.mem_map.1 ((hleads.mem_iff name).2 hname)
  have hstored : stored = content key := hleads.holds (key, stored) hentry
  rw [hstored] at hentry
  exact hfront.subset hentry

end FileServer.Recency
