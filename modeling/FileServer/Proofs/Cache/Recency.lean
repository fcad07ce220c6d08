import Mathlib.Data.List.Nodup
import FileServer.Cache.Recency

/-!
# What a recency list keeps

`keep` is defined entry by entry from the front. Here it is shown to be what its name says: a front
part of the list that is never empty, that weighs no more than the budget unless it is a single
entry, and that contains every front part within the budget (`prefix_keep_of_weight_le`). Seen from
the other end, an entry at the back goes as long as the list is too heavy
(`keep_append_singleton`), which is how a cache drops what no longer fits.
-/

namespace FileServer.Recency

/-- Weights of parts add up. -/
theorem weight_append (front back : Recency) :
    weight (front ++ back) = weight front + weight back := by
  induction front with
  | nil => simp
  | cons entry front ih =>
      rw [List.cons_append, weight_cons, weight_cons, ih]
      omega

/-- An entry is kept if it fits, and then whatever fits behind it. -/
theorem fit_cons (budget : Nat) (entry : String × Content) (rest : Recency) :
    fit budget (entry :: rest)
      = if entry.2.weight ≤ budget then entry :: fit (budget - entry.2.weight) rest else [] := rfl

/-- The first entry is kept in any case. -/
theorem keep_cons (budget : Nat) (entry : String × Content) (rest : Recency) :
    keep budget (entry :: rest)
      = if entry.2.weight ≤ budget then entry :: fit (budget - entry.2.weight) rest
        else [entry] := rfl

/-- A list that fits is kept whole. -/
theorem fit_eq_self {budget : Nat} {entries : Recency} (h : entries.weight ≤ budget) :
    entries.fit budget = entries := by
  induction entries generalizing budget with
  | nil => rfl
  | cons entry rest ih =>
      rw [weight_cons] at h
      rw [fit_cons, if_pos (by omega), ih (by omega)]

/-- Where everything fits, everything is kept. -/
theorem keep_eq_self {budget : Nat} {entries : Recency} (h : entries.weight ≤ budget) :
    entries.keep budget = entries := by
  cases entries with
  | nil => rfl
  | cons entry rest =>
      rw [weight_cons] at h
      rw [keep_cons, if_pos (by omega), fit_eq_self (by omega)]

/-- What stands at the back of a list that is too heavy has no part in what fits. -/
theorem fit_append_singleton {budget : Nat} {entries : Recency} {last : String × Content}
    (h : budget < weight (entries ++ [last])) :
    (entries ++ [last]).fit budget = entries.fit budget := by
  induction entries generalizing budget with
  | nil =>
      have hlast : budget < last.2.weight := by simpa using h
      rw [List.nil_append, fit_cons, if_neg (by omega)]
      rfl
  | cons entry rest ih =>
      rw [List.cons_append, weight_cons] at h
      rw [List.cons_append, fit_cons, fit_cons]
      split
      · rw [ih (by omega)]
      · rfl

/-- Where an entry is too much at the end, it makes no difference. -/
theorem keep_append_singleton {budget : Nat} {first last : String × Content} {entries : Recency}
    (h : budget < weight (first :: entries ++ [last])) :
    keep budget (first :: entries ++ [last]) = keep budget (first :: entries) := by
  rw [List.cons_append, weight_cons] at h
  rw [List.cons_append, keep_cons, keep_cons]
  split
  · rw [fit_append_singleton (by omega)]
  · rfl

/-- A single entry is kept, however heavy it is. -/
theorem keep_singleton (budget : Nat) (entry : String × Content) :
    keep budget [entry] = [entry] := by
  rw [keep_cons]
  split <;> rfl

/-- What is kept is a front part of the list. -/
theorem keep_isPrefix (budget : Nat) (entries : Recency) : entries.keep budget <+: entries := by
  cases entries with
  | nil => exact List.nil_prefix
  | cons entry rest =>
      rw [keep_cons]
      split
      · exact (List.prefix_cons_inj entry).2 ( fit_prefix _ rest)
      · exact (List.prefix_cons_inj entry).2 List.nil_prefix

/-- What is kept weighs no more than the budget, unless it is a single entry. -/
theorem weight_keep_le (budget : Nat) (entries : Recency) :
    (entries.keep budget).weight ≤ budget ∨ (entries.keep budget).length = 1 := by
  cases entries with
  | nil => exact Or.inl (Nat.zero_le _)
  | cons entry rest =>
      rw [keep_cons]
      split
      · have := weight_fit_le (budget - entry.2.weight) rest
        exact Or.inl (by rw [weight_cons]; omega)
      · exact Or.inr rfl

/-- A front part of the list that weighs no more than the budget is part of what fits. -/
theorem prefix_fit_of_weight_le {budget : Nat} {front entries : Recency}
    (hfront : front <+: entries) (h : front.weight ≤ budget) : front <+: entries.fit budget := by
  induction front generalizing budget entries with
  | nil => exact List.nil_prefix
  | cons entry front ih =>
      obtain ⟨rest, rfl⟩ := hfront
      rw [weight_cons] at h
      rw [List.cons_append, fit_cons, if_pos (by omega)]
      exact (List.prefix_cons_inj entry).2 (ih (List.prefix_append front rest) (by omega))

/-- What is kept is the longest such front part. -/
theorem prefix_keep_of_weight_le {budget : Nat} {front entries : Recency}
    (hfront : front <+: entries) (h : front.weight ≤ budget) : front <+: entries.keep budget := by
  cases front with
  | nil => exact List.nil_prefix
  | cons entry front =>
      obtain ⟨rest, rfl⟩ := hfront
      rw [weight_cons] at h
      rw [List.cons_append, keep_cons, if_pos (by omega)]
      exact (List.prefix_cons_inj entry).2
        (prefix_fit_of_weight_le (List.prefix_append front rest) (by omega))

/-! ## One key among others -/

variable {front back entries : Recency} {key : String} {content : Content}

/-- The keys of parts, one after the other. -/
@[simp] theorem keys_append (front back : Recency) :
    keys (front ++ back) = keys front ++ keys back :=
  List.map_append

/-- The key of the first entry comes first. -/
@[simp] theorem keys_cons (entry : String × Content) (entries : Recency) :
    keys (entry :: entries) = entry.1 :: keys entries := rfl

/-- Where a key does not occur there is nothing to be taken out. -/
theorem without_eq_self (h : key ∉ entries.keys) : entries.without key = entries := by
  apply List.filter_eq_self.2
  intro entry hentry
  have hne : entry.1 ≠ key := fun heq => h (heq ▸ List.mem_map_of_mem hentry)
  simpa using hne

/-- The entry of a key that occurs once is taken out of the list. -/
theorem without_of_split (hfront : key ∉ front.keys) (hback : key ∉ back.keys) :
    (front ++ (key, content) :: back).without key = front ++ back := by
  have happ : (front ++ (key, content) :: back).without key
      = front.without key ++ back.without key := by simp [without]
  rw [happ, without_eq_self hfront, without_eq_self hback]

/-- Where there is no such key, nothing is found. -/
theorem find?_eq_none (h : key ∉ entries.keys) : entries.find? key = none := by
  induction entries with
  | nil => rfl
  | cons entry rest ih =>
      simp only [keys_cons, List.mem_cons, not_or] at h
      rw [find?, List.lookup_cons, beq_eq_false_iff_ne.2 h.1]
      exact ih h.2

/-- The first entry with the key is found. -/
theorem find?_of_split (hfront : key ∉ front.keys) :
    find? (front ++ (key, content) :: back) key = some content := by
  induction front with
  | nil => simp [find?]
  | cons entry rest ih =>
      simp only [keys_cons, List.mem_cons, not_or] at hfront
      rw [find?, List.cons_append, List.lookup_cons, beq_eq_false_iff_ne.2 hfront.1]
      exact ih hfront.2

/-- Looking up a key that does not occur changes nothing. -/
theorem get?_eq_self (h : key ∉ entries.keys) : entries.get? key = (none, entries) := by
  rw [get?, find?_eq_none h]

/-- What is found is an entry. -/
theorem mem_of_find? (h : entries.find? key = some content) : (key, content) ∈ entries := by
  induction entries with
  | nil => cases h
  | cons entry rest ih =>
      rw [find?, List.lookup_cons] at h
      split at h
      · rename_i heq
        obtain rfl : key = entry.1 := by simpa using heq
        cases h
        exact List.mem_cons_self
      · exact List.mem_cons_of_mem _ (ih h)

/-- What looking up gives is an entry. -/
theorem mem_of_get? (h : (entries.get? key).1 = some content) : (key, content) ∈ entries := by
  unfold get? at h
  split at h
  · cases h
  · rename_i found hfound
    obtain rfl := Option.some.inj h
    exact mem_of_find? hfound

/-- Looking up leaves no entry that was not there. -/
theorem mem_of_mem_get? {entry : String × Content} (h : entry ∈ (entries.get? key).2) :
    entry ∈ entries := by
  unfold get? at h
  split at h
  · exact h
  · rename_i content hfound
    rcases List.mem_cons.1 h with rfl | h
    · exact mem_of_find? hfound
    · exact List.mem_of_mem_filter h

/-- Storing leaves no entry but the new one that was not there. -/
theorem mem_of_mem_put {budget : Nat} {entry : String × Content}
    (h : entry ∈ entries.put budget key content) : entry = (key, content) ∨ entry ∈ entries := by
  rcases List.mem_cons.1 ((keep_isPrefix budget _).subset h) with heq | h
  · exact Or.inl heq
  · exact Or.inr (List.mem_of_mem_filter h)

/-- Looking up a key that occurs once moves its entry to the front. -/
theorem get?_of_split (hfront : key ∉ front.keys) (hback : key ∉ back.keys) :
    get? (front ++ (key, content) :: back) key
      = (some content, (key, content) :: (front ++ back)) := by
  rw [get?, find?_of_split hfront, without_of_split hfront hback]

/-- Where keys do not repeat, a key that occurs has one entry. -/
theorem exists_split (hnodup : entries.keys.Nodup) (h : key ∈ entries.keys) :
    ∃ front content back, entries = front ++ (key, content) :: back ∧
      key ∉ keys front ∧ key ∉ keys back := by
  obtain ⟨⟨key, content⟩, hentry, rfl⟩ := List.mem_map.1 h
  obtain ⟨front, back, rfl⟩ := List.append_of_mem hentry
  rw [keys_append, keys_cons, List.nodup_middle, List.nodup_cons, List.mem_append, not_or] at hnodup
  exact ⟨front, content, back, rfl, hnodup.1.1, hnodup.1.2⟩

/-- Looking a key up changes the order of the entries and nothing else. -/
theorem get?_perm (hnodup : entries.keys.Nodup) (key : String) :
    (entries.get? key).2.Perm entries := by
  by_cases h : key ∈ entries.keys
  · obtain ⟨front, content, back, rfl, hfront, hback⟩ := exists_split hnodup h
    rw [get?_of_split hfront hback]
    exact List.perm_middle.symm
  · rw [get?_eq_self h]

/-- The order does not matter for the weight. -/
theorem weight_perm {first second : Recency} (h : first.Perm second) :
    first.weight = second.weight := by
  induction h with
  | nil => rfl
  | cons entry _ ih => rw [weight_cons, weight_cons, ih]
  | swap entry other rest =>
      simp only [weight_cons]
      omega
  | trans _ _ ih ih' => exact ih.trans ih'

end FileServer.Recency
