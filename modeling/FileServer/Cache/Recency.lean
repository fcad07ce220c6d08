import FileServer.Content

/-!
# Recency lists

What a cache with a byte budget means, said without its representation: the entries are a list of
keys and contents, the most recently used first. Storing an entry puts it in front of the others
and then keeps as much of the list, counted from the front, as the budget allows; the entry just
stored always stays, however heavy it is. Looking an entry up moves it to the front.
-/

namespace FileServer

/-- Keys and contents, the most recently used first. -/
abbrev Recency := List (String × Content)

namespace Recency

/-- The keys, the most recently used first. -/
def keys (entries : Recency) : List String :=
  entries.map Prod.fst

/-- The sum of all weights. -/
def weight : Recency → Nat
  | [] => 0
  | entry :: rest => entry.2.weight + weight rest

/-- The entries without those of one key. -/
def without (entries : Recency) (key : String) : Recency :=
  entries.filter fun entry => entry.1 ≠ key

/-- The longest front part of the list whose weight is at most `budget`. -/
def fit (budget : Nat) : Recency → Recency
  | [] => []
  | entry :: rest =>
    if entry.2.weight ≤ budget then entry :: fit (budget - entry.2.weight) rest else []

/-- The longest front part of the list whose weight is at most `budget`, but never less than the
first entry. -/
def keep (budget : Nat) : Recency → Recency
  | [] => []
  | entry :: rest =>
    if entry.2.weight ≤ budget then entry :: fit (budget - entry.2.weight) rest else [entry]

/-- Stores a content under a key. -/
def put (budget : Nat) (entries : Recency) (key : String) (content : Content) : Recency :=
  keep budget ((key, content) :: entries.without key)

/-- The content under a key. -/
def find? (entries : Recency) (key : String) : Option Content :=
  entries.lookup key

/-- Looks a content up and makes its entry the most recent. -/
def get? (entries : Recency) (key : String) : Option Content × Recency :=
  match entries.find? key with
  | none => (none, entries)
  | some content => (some content, (key, content) :: entries.without key)

/-- No entries weigh nothing. -/
@[simp] theorem weight_nil : weight [] = 0 := rfl

/-- Weights add up. -/
@[simp] theorem weight_cons (entry : String × Content) (entries : Recency) :
    weight (entry :: entries) = entry.2.weight + weight entries := rfl

/-- What fits a budget weighs no more than it. -/
theorem weight_fit_le (budget : Nat) (entries : Recency) :
    (entries.fit budget).weight ≤ budget := by
  induction entries generalizing budget with
  | nil => simp [fit]
  | cons entry rest ih =>
    unfold fit
    split
    · have := ih (budget - entry.2.weight)
      simp; omega
    · simp

/-- What fits is a front part of the list. -/
theorem fit_prefix (budget : Nat) (entries : Recency) : entries.fit budget <+: entries := by
  induction entries generalizing budget with
  | nil => simp [fit]
  | cons entry rest ih =>
    unfold fit
    split
    · exact List.prefix_cons_inj entry |>.2 (ih _)
    · exact List.nil_prefix

end Recency

end FileServer
