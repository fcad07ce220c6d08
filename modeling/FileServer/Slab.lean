/-!
# Slabs

A slab keeps values in numbered slots. Inserting a value chooses a vacant slot and gives back its
number, the value's key; removing the value makes the slot vacant again, so keys are reused, the
one vacated last first. A key therefore names a value only while that value is in its slot.

Vacant slots are kept in a list beside the slots themselves. That the list holds exactly the vacant
slots, each once, is part of the type.
-/

namespace FileServer

/-- Values in numbered slots. -/
@[ext] structure Slab (α : Type) where
  /-- The slots, vacant or occupied. -/
  slots : Array (Option α)
  /-- The vacant slots, the next to be used first. -/
  vacant : List Nat
  /-- No slot is listed twice. -/
  vacant_nodup : vacant.Nodup
  /-- The list holds the vacant slots and no others. -/
  mem_vacant : ∀ key, key ∈ vacant ↔ slots[key]? = some none

namespace Slab

variable {α : Type}

/-- A slab without slots. -/
def empty : Slab α where
  slots := #[]
  vacant := []
  vacant_nodup := List.nodup_nil
  mem_vacant := by simp

/-- The value in a slot, if the slot exists and is occupied. -/
def get? (slab : Slab α) (key : Nat) : Option α :=
  slab.slots[key]?.join

/-- Whether a slot is occupied. -/
def contains (slab : Slab α) (key : Nat) : Bool :=
  (slab.get? key).isSome

/-- The number of occupied slots. -/
def length (slab : Slab α) : Nat :=
  slab.slots.size - slab.vacant.length

/-- The occupied slots in the order of their keys. -/
def keys (slab : Slab α) : List Nat :=
  (List.range slab.slots.size).filter slab.contains

/-- The key that the next inserted value will have. -/
def nextKey (slab : Slab α) : Nat :=
  slab.vacant.head?.getD slab.slots.size

/-- The key under which a value that stands in the slot is found. -/
theorem get?_eq_some_iff {slab : Slab α} {key : Nat} {a : α} :
    slab.get? key = some a ↔ slab.slots[key]? = some (some a) := by
  simp [get?, Option.join_eq_some_iff]

/-- A new value never lands on another. -/
theorem get?_nextKey (slab : Slab α) : slab.get? slab.nextKey = none := by
  unfold get? nextKey
  cases h : slab.vacant with
  | nil => simp
  | cons key rest =>
    have : slab.slots[key]? = some none := (slab.mem_vacant key).1 (by simp [h])
    simp [this]

/-- Puts a value into the slot `nextKey`. -/
def insert (slab : Slab α) (a : α) : Slab α :=
  match h : slab.vacant with
  | [] =>
    { slots := slab.slots.push (some a)
      vacant := []
      vacant_nodup := List.nodup_nil
      mem_vacant := by
        intro key
        have hnot : slab.slots[key]? ≠ some none := by
          intro hk
          have := (slab.mem_vacant key).2 hk
          simp [h] at this
        rw [Array.getElem?_push]
        split <;> simp_all }
  | key :: rest =>
    { slots := slab.slots.setIfInBounds key (some a)
      vacant := rest
      vacant_nodup := (List.nodup_cons.1 (h ▸ slab.vacant_nodup)).2
      mem_vacant := by
        intro other
        have hnodup := (List.nodup_cons.1 (h ▸ slab.vacant_nodup)).1
        have hmem := slab.mem_vacant other
        rw [h] at hmem
        rw [Array.getElem?_setIfInBounds]
        by_cases heq : key = other
        · subst heq
          simp only [↓reduceIte]
          split <;> simp_all
        · simp only [heq, ↓reduceIte, ← hmem, List.mem_cons]
          constructor
          · exact Or.inr
          · rintro (rfl | hrest)
            · exact absurd rfl heq
            · exact hrest }

/-- Makes a slot vacant. -/
def erase (slab : Slab α) (key : Nat) : Slab α :=
  if h : slab.contains key then
    { slots := slab.slots.setIfInBounds key none
      vacant := key :: slab.vacant
      vacant_nodup := by
        refine List.nodup_cons.2 ⟨fun hmem => ?_, slab.vacant_nodup⟩
        have := (slab.mem_vacant key).1 hmem
        simp [contains, get?, this] at h
      mem_vacant := by
        intro other
        have hmem := slab.mem_vacant other
        have hlt : key < slab.slots.size := by
          rcases Nat.lt_or_ge key slab.slots.size with hlt | hge
          · exact hlt
          · simp [contains, get?, Array.getElem?_eq_none hge] at h
        rw [Array.getElem?_setIfInBounds]
        by_cases heq : key = other
        · subst heq
          simp [hlt]
        · simp only [List.mem_cons, heq, ↓reduceIte, ← hmem]
          constructor
          · rintro (rfl | hrest)
            · exact absurd rfl heq
            · exact hrest
          · exact Or.inr }
  else slab

/-- Changes the value in a slot, if there is one. -/
def modify (slab : Slab α) (key : Nat) (f : α → α) : Slab α :=
  match h : slab.get? key with
  | none => slab
  | some a =>
    { slots := slab.slots.setIfInBounds key (some (f a))
      vacant := slab.vacant
      vacant_nodup := slab.vacant_nodup
      mem_vacant := by
        intro other
        have hmem := slab.mem_vacant other
        have hkey := get?_eq_some_iff.1 h
        rw [Array.getElem?_setIfInBounds]
        by_cases heq : key = other
        · subst heq
          rw [hmem, hkey]
          simp
        · simp [heq, hmem] }

/-- An empty slab holds nothing. -/
@[simp] theorem get?_empty (key : Nat) : (empty : Slab α).get? key = none := by
  simp [get?, empty]

/-- After an insertion the new key holds the new value, and every other key what it held. -/
theorem get?_insert (slab : Slab α) (a : α) (key : Nat) :
    (slab.insert a).get? key = if key = slab.nextKey then some a else slab.get? key := by
  unfold insert
  split
  · rename_i h
    have hnext : slab.nextKey = slab.slots.size := by simp [nextKey, h]
    rw [hnext]
    simp only [get?, Array.getElem?_push]
    split <;> simp
  · rename_i first rest h
    have hnext : slab.nextKey = first := by simp [nextKey, h]
    have hvac : slab.slots[first]? = some none := (slab.mem_vacant first).1 (by simp [h])
    have hlt : first < slab.slots.size := by
      rcases Nat.lt_or_ge first slab.slots.size with hlt | hge
      · exact hlt
      · simp [Array.getElem?_eq_none hge] at hvac
    rw [hnext]
    simp only [get?, Array.getElem?_setIfInBounds]
    by_cases heq : first = key
    · subst heq; simp [hlt]
    · simp [heq, Ne.symm heq]

/-- After a removal the key holds nothing, and every other key what it held. -/
theorem get?_erase (slab : Slab α) (gone key : Nat) :
    (slab.erase gone).get? key = if key = gone then none else slab.get? key := by
  unfold erase
  split
  · simp only [get?, Array.getElem?_setIfInBounds]
    by_cases heq : gone = key
    · subst heq; simp; split <;> simp
    · simp [heq, Ne.symm heq]
  · rename_i h
    split
    · rename_i heq
      subst heq
      simpa [contains] using h
    · rfl

/-- Changing a slot changes no other, and no vacant one. -/
theorem get?_modify (slab : Slab α) (changed : Nat) (f : α → α) (key : Nat) :
    (slab.modify changed f).get? key
      = if key = changed then (slab.get? key).map f else slab.get? key := by
  unfold modify
  split
  · rename_i h
    split
    · rename_i heq; subst heq; simp [h]
    · rfl
  · rename_i a h
    have hkey := get?_eq_some_iff.1 h
    have hlt : changed < slab.slots.size := by
      rcases Nat.lt_or_ge changed slab.slots.size with hlt | hge
      · exact hlt
      · simp [Array.getElem?_eq_none hge] at hkey
    by_cases heq : changed = key
    · subst heq
      simp only [get?, ↓reduceIte]
      rw [Array.getElem?_setIfInBounds, hkey]
      simp [hlt]
    · simp [get?, heq, Ne.symm heq]

end Slab

end FileServer
