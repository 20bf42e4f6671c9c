import MessageExpr.Cache

/-!
# What a cache holds

A property of keys and values that is true of all that is put into a cache is true of all that it
holds, and of what is found in it: a cache never changes a value, and never gives the value of one
key for another.

## Main definitions

* `Cache.Holds` — a property of all keys with their values

## Main results

* `Cache.Holds.get`, `Cache.Holds.of_get` — looking up keeps the property, and what is found has it
* `Cache.Holds.put` — storing what has the property keeps it
* `Cache.entries_get_of_none` — looking up in vain leaves the entries alone
-/

namespace MessageExpr.Cache

variable {α : Type} {P : String → α → Prop} {cache : Cache α} {key : String}

/-- Whether all entries of a cache have a property. -/
def Holds (P : String → α → Prop) (cache : Cache α) : Prop :=
  ∀ e ∈ cache.entries, P e.key e.value

/-! ## Single steps on entries -/

private theorem mem_setEntry {entry e : CacheEntry α} {entries : List (CacheEntry α)}
    (mem : e ∈ setEntry entry entries) : e = entry ∨ e ∈ entries := by
  induction entries with
  | nil => exact .inl (List.mem_singleton.mp mem)
  | cons old rest ih =>
    rw [setEntry] at mem
    split at mem
    · exact (List.mem_cons.mp mem).imp_right (List.mem_cons_of_mem old)
    · rcases List.mem_cons.mp mem with rfl | later
      · exact .inr List.mem_cons_self
      · exact (ih later).imp_right (List.mem_cons_of_mem old)

private theorem mem_evict {capacity : Nat} {e : CacheEntry α} {entries : List (CacheEntry α)}
    {order : List (Nat × String)} (mem : e ∈ (evict capacity entries order).1) : e ∈ entries := by
  induction order generalizing entries with
  | nil => exact mem
  | cons oldest rest ih =>
    obtain ⟨stamp, key⟩ := oldest
    rw [evict] at mem
    split at mem
    · exact (List.mem_filter.mp (ih mem)).1
    · exact mem

theorem mem_of_find? {entry : CacheEntry α} (found : cache.find? key = some entry) :
    entry ∈ cache.entries ∧ entry.key = key :=
  ⟨List.mem_of_find?_eq_some found, by simpa using List.find?_some found⟩

/-! ## Operations -/

theorem holds_empty (P : String → α → Prop) (capacity : Nat) : (empty capacity).Holds P := nofun

theorem holds_clear (P : String → α → Prop) (cache : Cache α) : cache.clear.Holds P := nofun

/-- What is found has the property. -/
theorem Holds.of_get (h : cache.Holds P) {value : α} (found : (cache.get key).1 = some value) :
    P key value := by
  rw [Cache.get] at found
  cases looked : cache.find? key with
  | none =>
    rw [looked] at found
    cases found
  | some entry =>
    rw [looked] at found
    cases found
    obtain ⟨mem, rfl⟩ := mem_of_find? looked
    exact h entry mem

/-- Looking up keeps the property. -/
theorem Holds.get (h : cache.Holds P) (key : String) : (cache.get key).2.Holds P := by
  rw [Cache.get]
  cases looked : cache.find? key with
  | none => exact h
  | some entry =>
    intro e mem
    obtain ⟨mem', -⟩ := mem_of_find? looked
    rcases mem_setEntry mem with rfl | old
    · exact h entry mem'
    · exact h e old

/-- Storing what has the property keeps it. -/
theorem Holds.put (h : cache.Holds P) {value : α} (new : P key value) :
    (cache.put key value).Holds P := by
  rw [Cache.put]
  split
  · exact h
  · intro e mem
    rcases mem_setEntry (mem_evict mem) with rfl | old
    · exact new
    · exact h e old

/-- Looking up in vain leaves the entries alone. -/
theorem entries_get_of_none (missing : (cache.get key).1 = none) :
    (cache.get key).2.entries = cache.entries := by
  rw [Cache.get] at missing ⊢
  cases looked : cache.find? key with
  | none => rfl
  | some entry =>
    rw [looked] at missing
    cases missing

end MessageExpr.Cache
