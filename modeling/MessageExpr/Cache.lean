/-!
# Bounded caches

A cache keeps the entries that were used last. Every access takes a new stamp, an entry carries
the stamp of its last use, and what is over the capacity goes in the order of the stamps. A
cache of capacity zero keeps nothing.

## Main definitions

* `Cache`, `Cache.empty` — a cache with its entries and the order of their use
* `Cache.get`, `Cache.put`, `Cache.clear` — look up, store and forget
-/

namespace MessageExpr

/-- An entry of a cache with the stamp of its last use. -/
structure CacheEntry (α : Type) where
  key : String
  value : α
  stamp : Nat

/-- A cache. -/
structure Cache (α : Type) where
  capacity : Nat
  entries : List (CacheEntry α)
  /-- The keys by their stamps, oldest first. -/
  order : List (Nat × String)
  /-- The latest stamp. -/
  clock : Nat

namespace Cache

variable {α : Type}

/-- The cache without entries. -/
def empty (capacity : Nat) : Cache α := ⟨capacity, [], [], 0⟩

/-- The number of entries. -/
def size (cache : Cache α) : Nat := cache.entries.length

/-- Whether there are no entries. -/
def isEmpty (cache : Cache α) : Bool := cache.size == 0

/-- The entry of a key. -/
def find? (cache : Cache α) (key : String) : Option (CacheEntry α) :=
  cache.entries.find? (·.key == key)

/-- Sets the entry of a key. -/
def setEntry (entry : CacheEntry α) : List (CacheEntry α) → List (CacheEntry α)
  | [] => [entry]
  | old :: rest => if old.key = entry.key then entry :: rest else old :: setEntry entry rest

/-- Gives a key a later place in the order. -/
def restamp (old new : Nat) (order : List (Nat × String)) : List (Nat × String) :=
  match order.lookup old with
  | some key => order.filter (·.1 != old) ++ [(new, key)]
  | none => order

/-- Looks up a key. What is found counts as used. -/
def get (cache : Cache α) (key : String) : Option α × Cache α :=
  let stamp := cache.clock + 1
  -- A key that is not found takes a stamp as well.
  match cache.find? key with
  | none => (none, { cache with clock := stamp })
  | some entry =>
    (some entry.value,
      { cache with
        entries := setEntry { entry with stamp := stamp } cache.entries
        order := restamp entry.stamp stamp cache.order
        clock := stamp })

/-- Forgets the oldest entries as long as there are more than the capacity. -/
def evict (capacity : Nat) (entries : List (CacheEntry α)) :
    List (Nat × String) → List (CacheEntry α) × List (Nat × String)
  | [] => (entries, [])
  | (stamp, key) :: rest =>
    if entries.length > capacity then evict capacity (entries.filter (·.key != key)) rest
    else (entries, (stamp, key) :: rest)

/-- Stores the value of a key. -/
def put (cache : Cache α) (key : String) (value : α) : Cache α :=
  if cache.capacity = 0 then cache
  else
    let stamp := cache.clock + 1
    -- A key that is stored again loses its old place.
    let order := match cache.find? key with
      | some old => cache.order.filter (·.1 != old.stamp)
      | none => cache.order
    let kept := evict cache.capacity (setEntry ⟨key, value, stamp⟩ cache.entries)
      (order ++ [(stamp, key)])
    { cache with entries := kept.1, order := kept.2, clock := stamp }

/-- Forgets all entries. -/
def clear (cache : Cache α) : Cache α := { cache with entries := [], order := [] }

end Cache

end MessageExpr
