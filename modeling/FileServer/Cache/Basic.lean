import Std.Data.TreeMap
import FileServer.Content
import FileServer.Slab

/-!
# The content cache

The cache keeps loaded contents under their keys, within a budget of bytes. Its entries are the
slots of a slab, linked in both directions in the order of their last use, and an index gives the
slot of every key, so that each operation touches only a few entries.

Storing a content counts as a use. It replaces an older content of the same key, and then the least
recently used entries are dropped until the weights fit the budget again; the entry just stored is
never dropped by its own arrival, so a content heavier than the whole budget stays alone. Looking a
content up moves its entry to the front. Failed loads are contents like any other.
-/

namespace FileServer

open Std (TreeMap)

/-- One entry and its neighbours in the order of last use. -/
structure Cache.Entry where
  /-- The key under which the entry is found. -/
  key : String
  /-- What was loaded. -/
  content : Content
  /-- The slot of the entry used next after this one. -/
  newer : Option Nat
  /-- The slot of the entry used last before this one. -/
  older : Option Nat

/-- Contents by key within a budget, ordered by their last use. -/
structure Cache where
  /-- What the weights may add up to. -/
  budget : Nat
  /-- The slot of every key. -/
  index : TreeMap String Nat
  /-- The entries. -/
  entries : Slab Cache.Entry
  /-- The slot of the most recently used entry. -/
  newest : Option Nat
  /-- The slot of the least recently used entry. -/
  oldest : Option Nat
  /-- The sum of the weights. -/
  size : Nat

namespace Cache

/-- A cache without entries. -/
def empty (budget : Nat) : Cache where
  budget := budget
  index := ∅
  entries := .empty
  newest := none
  oldest := none
  size := 0

/-- Takes an entry out of the order of last use: its neighbours become each other's. -/
def unlink (cache : Cache) (slot : Nat) : Cache :=
  match cache.entries.get? slot with
  | none => cache
  | some entry =>
    let entries := match entry.newer with
      | some newer => cache.entries.modify newer ({ · with older := entry.older })
      | none => cache.entries
    let entries := match entry.older with
      | some older => entries.modify older ({ · with newer := entry.newer })
      | none => entries
    { cache with
      entries := entries.modify slot ({ · with newer := none, older := none })
      newest := if entry.newer.isNone then entry.older else cache.newest
      oldest := if entry.older.isNone then entry.newer else cache.oldest }

/-- Puts an entry that is in no order in front of all others. -/
def link (cache : Cache) (slot : Nat) : Cache :=
  let entries := cache.entries.modify slot ({ · with newer := none, older := cache.newest })
  { cache with
    entries := match cache.newest with
      | some newest => entries.modify newest ({ · with newer := some slot })
      | none => entries
    newest := some slot
    oldest := cache.oldest <|> some slot }

/-- Drops the entry in a slot. -/
def drop (cache : Cache) (slot : Nat) : Cache :=
  match cache.entries.get? slot with
  | none => cache
  | some entry =>
    let cache := cache.unlink slot
    { cache with
      entries := cache.entries.erase slot
      index := cache.index.erase entry.key
      size := cache.size - entry.content.weight }

/-- Drops the least recently used entries, at most `count` of them, until the weights fit the budget
or only the entry in the slot `kept` is left. -/
def evict (kept : Nat) : Nat → Cache → Cache
  | 0, cache => cache
  | count + 1, cache =>
    if cache.size ≤ cache.budget then cache
    else match cache.oldest with
      | none => cache
      | some cold => if cold = kept then cache else evict kept count (cache.drop cold)

/-- Adds an entry in front of all others, whether or not it fits the budget. -/
def add (cache : Cache) (key : String) (content : Content) : Cache :=
  let slot := cache.entries.nextKey
  let cache := { cache with
    entries := cache.entries.insert ⟨key, content, none, none⟩
    index := cache.index.insert key slot
    size := cache.size + content.weight }
  cache.link slot

/-- Drops the entry of a key, if there is one. -/
def forget (cache : Cache) (key : String) : Cache :=
  match cache.index[key]? with
  | none => cache
  | some slot => cache.drop slot

/-- Stores a content under a key as the most recently used entry, and drops what no longer fits. -/
def put (cache : Cache) (key : String) (content : Content) : Cache :=
  let cache := cache.forget key
  let slot := cache.entries.nextKey
  let cache := cache.add key content
  evict slot cache.entries.length cache

/-- The content under a key. The entry becomes the most recently used one; without an entry nothing
changes. -/
def get? (cache : Cache) (key : String) : Option Content × Cache :=
  match cache.index[key]? with
  | none => (none, cache)
  | some slot =>
    let cache := (cache.unlink slot).link slot
    ((cache.entries.get? slot).map Entry.content, cache)

/-- Whether there is an entry for a key. The order of last use stays as it is. -/
def contains (cache : Cache) (key : String) : Bool :=
  cache.index.contains key

/-- The number of entries. -/
def length (cache : Cache) : Nat :=
  cache.entries.length

/-- Whether there is no entry. -/
def isEmpty (cache : Cache) : Bool :=
  cache.length = 0

/-- The keys and contents met on the way from a slot to ever older entries, at most `count`. -/
def walk (cache : Cache) : Nat → Option Nat → List (String × Content)
  | count + 1, some slot =>
    match cache.entries.get? slot with
    | none => []
    | some entry => (entry.key, entry.content) :: cache.walk count entry.older
  | _, _ => []

/-- The keys and contents, the most recently used first. -/
def toList (cache : Cache) : List (String × Content) :=
  cache.walk cache.length cache.newest

/-- The keys, the most recently used first. -/
def keys (cache : Cache) : List String :=
  cache.toList.map Prod.fst

end Cache

end FileServer
