import Mathlib.Data.List.Nodup
import Mathlib.Data.List.Perm.Basic
import FileServer.Slab

/-!
# Counting the occupied slots of a slab

`length` is computed from the number of slots and the number of vacancies. Here it is tied to the
values themselves: a list that names every occupied slot once is as long as the slab
(`length_eq_of_nodup`), so inserting adds one and removing takes one away.

`values` are the values in the slots. Whatever is done to one slot, they are what is in that slot
then, and others which stay the same (`exists_others`). Whatever is done to many, the values that
are there or gone are those that were there or are new (`values_append_perm`).
-/

namespace FileServer.Slab

variable {α : Type}

/-- A slot that holds a value is one of the slots. -/
theorem lt_size_of_get? {slab : Slab α} {key : Nat} {a : α} (h : slab.get? key = some a) :
    key < slab.slots.size := by
  by_contra hge
  rw [get?_eq_some_iff, Array.getElem?_eq_none (Nat.not_lt.1 hge)] at h
  cases h

/-- A vacant slot is one of the slots. -/
theorem lt_size_of_mem_vacant {slab : Slab α} {key : Nat} (h : key ∈ slab.vacant) :
    key < slab.slots.size := by
  have hvacant := (slab.mem_vacant key).1 h
  by_contra hge
  rw [Array.getElem?_eq_none (Nat.not_lt.1 hge)] at hvacant
  cases hvacant

/-- A slot is vacant exactly if it exists and holds nothing. -/
theorem mem_vacant_iff {slab : Slab α} {key : Nat} :
    key ∈ slab.vacant ↔ key < slab.slots.size ∧ slab.get? key = none := by
  constructor
  · intro h
    refine ⟨lt_size_of_mem_vacant h, ?_⟩
    simp [get?, (slab.mem_vacant key).1 h]
  · rintro ⟨hlt, hnone⟩
    rw [slab.mem_vacant, Array.getElem?_eq_getElem hlt]
    rw [get?, Array.getElem?_eq_getElem hlt] at hnone
    simpa using hnone

/-- Changing an occupied slot. -/
theorem get?_modify_of_get? {slab : Slab α} {changed : Nat} {a : α}
    (h : slab.get? changed = some a) (f : α → α) (key : Nat) :
    (slab.modify changed f).get? key = if key = changed then some (f a) else slab.get? key := by
  rw [get?_modify]
  split
  · rename_i heq
    rw [heq, h, Option.map_some]
  · rfl

/-- Changing an occupied slot writes to it. -/
theorem slots_modify {slab : Slab α} {key : Nat} {a : α} (h : slab.get? key = some a) (f : α → α) :
    (slab.modify key f).slots = slab.slots.setIfInBounds key (some (f a)) := by
  unfold modify
  split
  · rename_i hnone
    rw [h] at hnone
    cases hnone
  · rename_i b hsome
    rw [h] at hsome
    rw [Option.some.inj hsome]

/-- Changing a slot leaves the vacancies. -/
theorem vacant_modify (slab : Slab α) (key : Nat) (f : α → α) :
    (slab.modify key f).vacant = slab.vacant := by
  unfold modify
  split <;> rfl

/-- Two changes of the same slot are one. -/
theorem modify_modify {slab : Slab α} {key : Nat} {a : α} (h : slab.get? key = some a)
    (f g : α → α) : (slab.modify key f).modify key g = slab.modify key fun a => g (f a) := by
  have hself := get?_modify_of_get? h f key
  rw [if_pos rfl] at hself
  apply Slab.ext
  · rw [slots_modify hself, slots_modify h, slots_modify h, Array.setIfInBounds_setIfInBounds]
  · rw [vacant_modify, vacant_modify, vacant_modify]

/-- A list that names every occupied slot once is as long as the slab. -/
theorem length_eq_of_nodup {slab : Slab α} {order : List Nat} (hnodup : order.Nodup)
    (hmem : ∀ key, key ∈ order ↔ (slab.get? key).isSome) : slab.length = order.length := by
  have happ : (order ++ slab.vacant).Nodup := by
    refine List.Nodup.append hnodup slab.vacant_nodup ?_
    intro key hkey hvacant
    rw [hmem, (mem_vacant_iff.1 hvacant).2] at hkey
    cases hkey
  have hperm : (order ++ slab.vacant).Perm (List.range slab.slots.size) := by
    apply (List.perm_ext_iff_of_nodup happ List.nodup_range).2
    intro key
    rw [List.mem_append, List.mem_range, hmem, mem_vacant_iff]
    constructor
    · rintro (hsome | ⟨hlt, -⟩)
      · obtain ⟨a, ha⟩ := Option.isSome_iff_exists.1 hsome
        exact lt_size_of_get? ha
      · exact hlt
    · intro hlt
      rcases h : slab.get? key with _ | a
      · exact Or.inr ⟨hlt, rfl⟩
      · exact Or.inl rfl
  have hlen := hperm.length_eq
  rw [List.length_append, List.length_range] at hlen
  unfold length
  omega

/-! ### The values -/

/-- The values in the slots. -/
def values (slab : Slab α) : List α := slab.keys.filterMap slab.get?

/-- No key comes twice. -/
theorem nodup_keys (slab : Slab α) : slab.keys.Nodup := List.nodup_range.filter _

/-- The keys are those under which there is a value. -/
theorem mem_keys {slab : Slab α} {key : Nat} : key ∈ slab.keys ↔ (slab.get? key).isSome := by
  rw [keys, List.mem_filter, List.mem_range, contains]
  constructor
  · exact And.right
  · intro h
    obtain ⟨a, ha⟩ := Option.isSome_iff_exists.1 h
    exact ⟨lt_size_of_get? ha, h⟩

/-- A list that names every occupied slot once gives the values, in some order. -/
theorem values_perm {slab : Slab α} {order : List Nat} (hnodup : order.Nodup)
    (hmem : ∀ key, key ∈ order ↔ (slab.get? key).isSome) :
    slab.values.Perm (order.filterMap slab.get?) := by
  apply List.Perm.filterMap
  apply (List.perm_ext_iff_of_nodup slab.nodup_keys hnodup).2
  intro key
  rw [hmem, mem_keys]

/-- **Beside what is in one slot** there are others, whatever is done to that slot. -/
theorem exists_others (slab : Slab α) (key : Nat) : ∃ others, ∀ next : Slab α,
    (∀ other, other ≠ key → next.get? other = slab.get? other) →
    next.values.Perm ((next.get? key).toList ++ others) := by
  refine ⟨(slab.keys.filter (· ≠ key)).filterMap slab.get?, fun next hothers => ?_⟩
  have hnot : key ∉ slab.keys.filter (· ≠ key) := by simp
  have hrest : (slab.keys.filter (· ≠ key)).filterMap next.get?
      = (slab.keys.filter (· ≠ key)).filterMap slab.get? := by
    apply List.filterMap_congr
    intro other hother
    exact hothers other (by simpa using (List.mem_filter.1 hother).2)
  have hmem : ∀ other, other ≠ key →
      (other ∈ slab.keys.filter (· ≠ key) ↔ (next.get? other).isSome) := by
    intro other hne
    rw [hothers other hne, List.mem_filter, mem_keys]
    simp [hne]
  rcases hkey : next.get? key with _ | a
  · refine (values_perm (slab.nodup_keys.filter _) fun other => ?_).trans (.of_eq hrest)
    by_cases heq : other = key
    · subst heq
      rw [hkey]
      simp
    · exact hmem other heq
  · have hnodup : (key :: slab.keys.filter (· ≠ key)).Nodup :=
      List.nodup_cons.2 ⟨hnot, slab.nodup_keys.filter _⟩
    refine (values_perm hnodup fun other => ?_).trans (.of_eq ?_)
    · by_cases heq : other = key
      · subst heq
        simp [hkey]
      · rw [List.mem_cons, hmem other heq]
        simp [heq]
    · rw [List.filterMap_cons_some hkey, hrest]
      rfl

/-! ### Two slabs -/

/-- The keys that are taken in a slab and vacant in another. -/
def keysBeside (slab other : Slab α) : List Nat := slab.keys.filter fun key => !other.contains key

/-- A key that is taken here and vacant there. -/
theorem mem_keysBeside {slab other : Slab α} {key : Nat} :
    key ∈ slab.keysBeside other ↔ (slab.get? key).isSome ∧ other.get? key = none := by
  rw [keysBeside, List.mem_filter, mem_keys, contains, Bool.not_eq_true',
    Option.isSome_eq_false_iff, Option.isNone_iff_eq_none]

/-- None of them comes twice. -/
theorem nodup_keysBeside (slab other : Slab α) : (slab.keysBeside other).Nodup :=
  slab.nodup_keys.filter _

/-- The values of a slab are those under keys that are taken in another one too, and the rest. -/
theorem values_perm_beside (slab other : Slab α) :
    slab.values.Perm ((slab.keys.filter other.contains).filterMap slab.get?
      ++ (slab.keysBeside other).filterMap slab.get?) := by
  rw [values, keysBeside, ← List.filterMap_append]
  exact (List.filter_append_perm other.contains slab.keys).symm.filterMap _

/-- **Whatever is there now or is gone** was there before or is new, as far as those that stay tell
it. -/
theorem values_append_perm {β : Type} (before after : Slab α) (f : α → β)
    (hkept : ∀ key a b, before.get? key = some a → after.get? key = some b → f b = f a) :
    (after.values.map f ++ ((before.keysBeside after).filterMap before.get?).map f).Perm
      (before.values.map f ++ ((after.keysBeside before).filterMap after.get?).map f) := by
  have hkeys : (after.keys.filter before.contains).Perm (before.keys.filter after.contains) := by
    apply (List.perm_ext_iff_of_nodup (after.nodup_keys.filter _) (before.nodup_keys.filter _)).2
    intro key
    rw [List.mem_filter, List.mem_filter, mem_keys, mem_keys]
    exact and_comm
  have hstay : ((after.keys.filter before.contains).filterMap after.get?).map f
      |>.Perm (((before.keys.filter after.contains).filterMap before.get?).map f) := by
    refine ((hkeys.filterMap _).map f).trans (.of_eq ?_)
    rw [List.map_filterMap, List.map_filterMap]
    apply List.filterMap_congr
    intro key hkey
    obtain ⟨hbefore, hafter⟩ := List.mem_filter.1 hkey
    obtain ⟨a, ha⟩ := Option.isSome_iff_exists.1 (mem_keys.1 hbefore)
    obtain ⟨b, hb⟩ := Option.isSome_iff_exists.1 hafter
    rw [ha, hb, Option.map_some, Option.map_some, hkept key a b ha hb]
  have hbefore := (values_perm_beside before after).map f
  have hafter := (values_perm_beside after before).map f
  rw [List.map_append] at hbefore hafter
  refine ((hafter.trans (hstay.append_right _)).append_right _).trans ?_
  refine .trans ?_ (hbefore.symm.append_right _)
  rw [List.append_assoc, List.append_assoc]
  exact List.perm_append_comm.append_left _

end FileServer.Slab
