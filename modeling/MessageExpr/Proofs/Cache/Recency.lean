import MessageExpr.Proofs.Cache.Holding
import Mathlib.Data.List.Nodup
import Mathlib.Data.List.Perm.Basic

/-!
# Caches keep what was used last

A cache with stamps answers like a plain list of pairs in which what is used moves to the front
and what is over the capacity falls off the end. The list that a cache stands for is the list of
its entries in the order of their stamps.

## Main definitions

* `Recency` — pairs of keys and values, the one that was used last first
* `CacheOperation`, `CacheAnswer` — what can be asked of a cache, and what it answers
* `Cache.performAll`, `Recency.performAll` — a row of operations on a cache and on a list
* `Cache.Lists` — the entries of a cache in the order of their use, oldest first
* `Cache.IsOrdered` — the keys by their stamps are exactly the keys of the entries

## Main results

* `Cache.Lists.perform` — one operation on a cache is the same operation on its list
* `Cache.performAll_empty` — a row of operations on an empty cache is answered as by a list
-/

namespace MessageExpr

variable {α : Type}

/-! ## Lists of pairs -/

/-- Pairs of keys and values, each key once, and the one that was used last first. -/
abbrev Recency (α : Type) := List (String × α)

namespace Recency

/-- Leaves out the pair of a key. -/
def erase (key : String) (pairs : Recency α) : Recency α := pairs.filter (·.1 != key)

/-- Looks up a key. The pair that is found moves to the front. -/
def get (key : String) (pairs : Recency α) : Option α × Recency α :=
  match pairs.lookup key with
  | some value => (some value, (key, value) :: erase key pairs)
  | none => (none, pairs)

/-- Puts a pair in front, in place of the pair of its key, and cuts the list to the capacity. -/
def put (capacity : Nat) (key : String) (value : α) (pairs : Recency α) : Recency α :=
  if capacity = 0 then pairs else ((key, value) :: erase key pairs).take capacity

end Recency

/-! ## Operations -/

/-- What can be asked of a cache. -/
inductive CacheOperation (α : Type) where
  | put (key : String) (value : α)
  | get (key : String)
  | clear
  | size
  | isEmpty

/-- What is answered. -/
inductive CacheAnswer (α : Type) where
  | done
  | value (found : Option α)
  | number (n : Nat)
  | truth (b : Bool)

/-- An operation on a cache. -/
def Cache.perform (cache : Cache α) : CacheOperation α → CacheAnswer α × Cache α
  | .put key value => (.done, cache.put key value)
  | .get key => (.value (cache.get key).1, (cache.get key).2)
  | .clear => (.done, cache.clear)
  | .size => (.number cache.size, cache)
  | .isEmpty => (.truth cache.isEmpty, cache)

/-- An operation on a list of pairs. -/
def Recency.perform (capacity : Nat) (pairs : Recency α) :
    CacheOperation α → CacheAnswer α × Recency α
  | .put key value => (.done, pairs.put capacity key value)
  | .get key => (.value (pairs.get key).1, (pairs.get key).2)
  | .clear => (.done, [])
  | .size => (.number pairs.length, pairs)
  | .isEmpty => (.truth pairs.isEmpty, pairs)

/-- The answers to a row of operations on a cache, and the cache after them. -/
def Cache.performAll (cache : Cache α) :
    List (CacheOperation α) → List (CacheAnswer α) × Cache α
  | [] => ([], cache)
  | operation :: rest =>
    let (answer, cache) := cache.perform operation
    let (answers, cache) := cache.performAll rest
    (answer :: answers, cache)

/-- The answers to a row of operations on a list of pairs, and the list after them. -/
def Recency.performAll (capacity : Nat) (pairs : Recency α) :
    List (CacheOperation α) → List (CacheAnswer α) × Recency α
  | [] => ([], pairs)
  | operation :: rest =>
    let (answer, pairs) := pairs.perform capacity operation
    let (answers, pairs) := Recency.performAll capacity pairs rest
    (answer :: answers, pairs)

/-! ## Entries in the order of their use -/

namespace CacheEntry

/-- The place of an entry in the order. -/
def place (entry : CacheEntry α) : Nat × String := (entry.stamp, entry.key)

/-- The key of an entry with its value. -/
def pair (entry : CacheEntry α) : String × α := (entry.key, entry.value)

/-- The entries after one is used: it goes to the end, in place of the one of its key. -/
def touch (used : List (CacheEntry α)) (entry : CacheEntry α) : List (CacheEntry α) :=
  used.filter (·.key != entry.key) ++ [entry]

/-- Using an entry of a key that was there makes the list no longer. -/
theorem length_touch_le {used : List (CacheEntry α)} {entry entry' : CacheEntry α}
    (mem : entry ∈ used) (same : entry'.key = entry.key) :
    (touch used entry').length ≤ used.length := by
  have less : (used.filter (·.key != entry'.key)).length < used.length :=
    List.length_filter_lt_length_iff_exists.mpr ⟨entry, mem, by simp [same]⟩
  rw [touch, List.length_append, List.length_singleton]
  exact less

/-- Leaving out the first entry by its key leaves the others, when keys are distinct. -/
theorem filter_key_cons {entry : CacheEntry α} {rest : List (CacheEntry α)}
    (distinct : ((entry :: rest).map (·.key)).Nodup) :
    (entry :: rest).filter (·.key != entry.key) = rest := by
  rw [List.filter_cons_of_neg (by simp), List.filter_eq_self]
  intro x mem
  have fresh : entry.key ∉ rest.map (·.key) := (List.nodup_cons.mp distinct).1
  have differ : x.key ≠ entry.key := by
    intro same
    rw [← same] at fresh
    exact fresh (List.mem_map_of_mem mem)
  simpa using differ

end CacheEntry

/-- The pairs of entries in the order of their use. -/
def Recency.ofUsed (used : List (CacheEntry α)) : Recency α :=
  (used.map CacheEntry.pair).reverse

/-- Entries in the order of their stamps, oldest first, each key once. -/
structure AreUsed (used : List (CacheEntry α)) (clock : Nat) : Prop where
  sorted : used.Pairwise (·.stamp < ·.stamp)
  distinct : (used.map (·.key)).Nodup
  stamp_le : ∀ e ∈ used, e.stamp ≤ clock

namespace AreUsed

variable {used : List (CacheEntry α)} {clock : Nat} {e e' : CacheEntry α}

private theorem eq_of_key (h : AreUsed used clock) (mem : e ∈ used) (mem' : e' ∈ used)
    (same : e.key = e'.key) : e = e' :=
  List.inj_on_of_nodup_map h.distinct mem mem' same

private theorem eq_of_stamp (h : AreUsed used clock) (mem : e ∈ used) (mem' : e' ∈ used)
    (same : e.stamp = e'.stamp) : e = e' := by
  have stamps : (used.map (·.stamp)).Nodup :=
    (List.pairwise_map.mpr h.sorted).imp fun less => Nat.ne_of_lt less
  exact List.inj_on_of_nodup_map stamps mem mem' same

private theorem later (h : AreUsed used clock) : AreUsed used (clock + 1) :=
  ⟨h.sorted, h.distinct, fun e mem => Nat.le_succ_of_le (h.stamp_le e mem)⟩

theorem drop (h : AreUsed used clock) (n : Nat) : AreUsed (used.drop n) clock where
  sorted := h.sorted.sublist (List.drop_sublist n used)
  distinct := h.distinct.sublist ((List.drop_sublist n used).map _)
  stamp_le := fun e mem => h.stamp_le e (List.mem_of_mem_drop mem)

/-- An entry with a new stamp is the last one to be used. -/
theorem touch (h : AreUsed used clock) (new : e.stamp = clock + 1) :
    AreUsed (CacheEntry.touch used e) (clock + 1) where
  sorted := by
    refine List.pairwise_append.mpr ⟨h.sorted.sublist List.filter_sublist, by simp, ?_⟩
    intro x mem y last
    have old := h.stamp_le x (List.mem_filter.mp mem).1
    rw [List.mem_singleton.mp last, new]
    exact Nat.lt_succ_of_le old
  distinct := by
    rw [CacheEntry.touch, List.map_append, List.nodup_append]
    refine ⟨h.distinct.sublist (List.filter_sublist.map _), by simp, ?_⟩
    intro key mem key' last
    obtain ⟨x, kept, rfl⟩ := List.mem_map.mp mem
    rw [List.map_singleton, List.mem_singleton] at last
    simpa [last] using (List.mem_filter.mp kept).2
  stamp_le := by
    intro x mem
    rcases List.mem_append.mp mem with mem | last
    · exact Nat.le_succ_of_le (h.stamp_le x (List.mem_filter.mp mem).1)
    · exact Nat.le_of_eq (List.mem_singleton.mp last ▸ new)

/-- Leaving out an entry by its stamp is leaving it out by its key. -/
theorem filter_stamp (h : AreUsed used clock) (mem : e ∈ used) :
    used.filter (·.stamp != e.stamp) = used.filter (·.key != e.key) := by
  refine List.filter_congr fun x memx => ?_
  have iff : x.stamp = e.stamp ↔ x.key = e.key := by
    constructor
    · intro same
      rw [h.eq_of_stamp memx mem same]
    · intro same
      rw [h.eq_of_key memx mem same]
  simp only [bne, Bool.beq_eq_decide_eq, iff]

private theorem filter_places (h : AreUsed used clock) (mem : e ∈ used) :
    (used.map CacheEntry.place).filter (·.1 != e.stamp) =
      (used.filter (·.key != e.key)).map CacheEntry.place := by
  rw [List.filter_map, ← h.filter_stamp mem]
  rfl

private theorem lookup_place (h : AreUsed used clock) (mem : e ∈ used) :
    (used.map CacheEntry.place).lookup e.stamp = some e.key := by
  induction used with
  | nil => cases mem
  | cons x rest ih =>
    have tail : AreUsed rest clock := h.drop 1
    by_cases same : e.stamp = x.stamp
    · rw [h.eq_of_stamp mem List.mem_cons_self same]
      simp [CacheEntry.place]
    · have mem : e ∈ rest := by
        rcases List.mem_cons.mp mem with rfl | mem
        · exact absurd rfl same
        · exact mem
      have differ : (e.stamp == x.stamp) = false := by simpa using same
      rw [List.map_cons, CacheEntry.place, List.lookup_cons, differ]
      exact ih tail mem

end AreUsed

/-! ## The list of a cache -/

namespace Cache

open CacheEntry

/-- The entries of a cache in the order of their use, oldest first. -/
structure Lists (cache : Cache α) (used : List (CacheEntry α)) : Prop where
  perm : cache.entries.Perm used
  order : cache.order = used.map place
  areUsed : AreUsed used cache.clock
  length_le : used.length ≤ cache.capacity

theorem lists_empty (capacity : Nat) : (empty capacity : Cache α).Lists [] :=
  ⟨.nil, rfl, ⟨.nil, List.nodup_nil, by simp⟩, Nat.zero_le _⟩

private theorem setEntry_perm {entry : CacheEntry α} {entries : List (CacheEntry α)}
    (distinct : (entries.map (·.key)).Nodup) :
    (setEntry entry entries).Perm (touch entries entry) := by
  induction entries with
  | nil => exact .refl _
  | cons old rest ih =>
    rw [setEntry]
    split
    · rename_i same
      -- No other entry has the key, so that nothing else is left out.
      rw [touch, ← same, filter_key_cons distinct]
      exact (List.perm_append_singleton entry rest).symm
    · rename_i differ
      have kept : touch (old :: rest) entry = old :: touch rest entry := by
        rw [touch, List.filter_cons_of_pos (by simpa using differ), List.cons_append, ← touch]
      rw [kept]
      exact (ih (List.nodup_cons.mp distinct).2).cons old

/-- Forgetting the oldest entries keeps as many as the capacity. -/
theorem evict_eq (capacity : Nat) {clock : Nat} {entries used : List (CacheEntry α)}
    (perm : entries.Perm used) (h : AreUsed used clock) :
    ∃ kept, evict capacity entries (used.map place) =
        (kept, (used.drop (used.length - capacity)).map place) ∧
      kept.Perm (used.drop (used.length - capacity)) := by
  induction used generalizing entries with
  | nil => exact ⟨entries, by simp [evict], by simpa using perm⟩
  | cons oldest rest ih =>
    have length : entries.length = rest.length + 1 := by simpa using perm.length_eq
    rw [List.map_cons, place, evict]
    split
    · rename_i full
      -- The oldest entry goes, and it is the only one of its key.
      have perm' : (entries.filter (·.key != oldest.key)).Perm rest :=
        filter_key_cons h.distinct ▸ perm.filter _
      obtain ⟨kept, evicted, keeps⟩ := ih perm' (h.drop 1)
      have count : (oldest :: rest).length - capacity = rest.length - capacity + 1 := by
        rw [List.length_cons]
        omega
      rw [count, List.drop_succ_cons]
      exact ⟨kept, evicted, keeps⟩
    · rename_i fits
      have count : (oldest :: rest).length - capacity = 0 := by
        rw [List.length_cons]
        omega
      rw [count, List.drop_zero]
      exact ⟨entries, rfl, perm⟩

variable {cache : Cache α} {used : List (CacheEntry α)} {key : String}

namespace Lists

theorem distinct (h : cache.Lists used) : (cache.entries.map (·.key)).Nodup :=
  (h.perm.map _).nodup_iff.mpr h.areUsed.distinct

private theorem mem_of_find? (h : cache.Lists used) {e : CacheEntry α}
    (found : cache.find? key = some e) :
    e ∈ used ∧ e.key = key := by
  obtain ⟨mem, same⟩ := Cache.mem_of_find? found
  exact ⟨h.perm.mem_iff.mp mem, same⟩

private theorem ne_of_find? (h : cache.Lists used) (missing : cache.find? key = none) :
    ∀ e ∈ used, e.key ≠ key := by
  intro e mem
  simpa using List.find?_eq_none.mp missing e (h.perm.mem_iff.mpr mem)

end Lists

end Cache

namespace Recency

variable {used : List (CacheEntry α)} {clock : Nat} {e : CacheEntry α} {key : String}

private theorem ofUsed_touch (used : List (CacheEntry α)) (e : CacheEntry α) :
    ofUsed (CacheEntry.touch used e) = e.pair :: erase e.key (ofUsed used) := by
  simp only [ofUsed, CacheEntry.touch, List.map_append, List.reverse_append, List.map_cons,
    List.map_nil, List.reverse_singleton, List.singleton_append, erase, List.filter_reverse,
    List.filter_map]
  rfl

private theorem ofUsed_drop (used : List (CacheEntry α)) (capacity : Nat) :
    ofUsed (used.drop (used.length - capacity)) = (ofUsed used).take capacity := by
  rw [ofUsed, ofUsed, List.take_reverse, List.length_map, List.map_drop]

private theorem nodup_ofUsed (h : AreUsed used clock) : ((ofUsed used).map Prod.fst).Nodup := by
  rw [ofUsed, List.map_reverse, List.nodup_reverse, List.map_map]
  exact h.distinct

private theorem lookup_ofUsed_of_mem (h : AreUsed used clock) (mem : e ∈ used) :
    (ofUsed used).lookup e.key = some e.value := by
  have distinct := nodup_ofUsed h
  have inside : e.pair ∈ ofUsed used := List.mem_reverse.mpr (List.mem_map_of_mem mem)
  generalize ofUsed used = pairs at distinct inside
  induction pairs with
  | nil => cases inside
  | cons first rest ih =>
    obtain ⟨fresh, distinct⟩ := List.nodup_cons.mp distinct
    rcases List.mem_cons.mp inside with rfl | inside
    · simp [CacheEntry.pair]
    · have differ : (e.key == first.1) = false := by
        rw [beq_eq_false_iff_ne]
        exact fun same => fresh (same ▸ List.mem_map_of_mem (f := Prod.fst) inside)
      rw [List.lookup_cons, differ]
      exact ih distinct inside

private theorem lookup_ofUsed_of_ne (missing : ∀ e ∈ used, e.key ≠ key) :
    (ofUsed used).lookup key = none := by
  rw [List.lookup_eq_none_iff]
  intro pair mem
  obtain ⟨e, inside, rfl⟩ := List.mem_map.mp (List.mem_reverse.mp mem)
  simpa [CacheEntry.pair] using (missing e inside).symm

end Recency

/-! ## One operation -/

namespace Cache

open CacheEntry

variable {cache : Cache α} {used : List (CacheEntry α)}

/-- What a step of a cache does to its list: the answer is that of the list, and the new list is
the one of the new cache. The clock goes on by one at most. -/
structure StepsTo (cache : Cache α) (answer : CacheAnswer α) (pairs : Recency α)
    (result : CacheAnswer α × Cache α) : Prop where
  answer_eq : result.1 = answer
  capacity_eq : result.2.capacity = cache.capacity
  clock_le : result.2.clock ≤ cache.clock + 1
  exists_used : ∃ used, result.2.Lists used ∧ Recency.ofUsed used = pairs

theorem Lists.get (h : cache.Lists used) (key : String) :
    StepsTo cache (.value ((Recency.ofUsed used).get key).1) ((Recency.ofUsed used).get key).2
      (cache.perform (.get key)) := by
  rw [perform, Cache.get]
  cases found : cache.find? key with
  | none =>
    rw [Recency.get, Recency.lookup_ofUsed_of_ne (h.ne_of_find? found)]
    have lists : Lists { cache with clock := cache.clock + 1 } used :=
      ⟨h.perm, h.order, h.areUsed.later, h.length_le⟩
    exact ⟨rfl, rfl, Nat.le_refl _, used, lists, rfl⟩
  | some entry =>
    obtain ⟨mem, rfl⟩ := h.mem_of_find? found
    rw [Recency.get, Recency.lookup_ofUsed_of_mem h.areUsed mem]
    let entry' : CacheEntry α := { entry with stamp := cache.clock + 1 }
    have perm : (setEntry entry' cache.entries).Perm (touch used entry') :=
      (setEntry_perm h.distinct).trans ((h.perm.filter _).append_right _)
    have order : restamp entry.stamp (cache.clock + 1) cache.order =
        (touch used entry').map place := by
      rw [restamp, h.order, h.areUsed.lookup_place mem]
      simp only
      rw [h.areUsed.filter_places mem, touch, List.map_append]
      rfl
    exact ⟨rfl, rfl, Nat.le_refl _, touch used entry', ⟨perm, order, h.areUsed.touch rfl,
      Nat.le_trans (length_touch_le mem rfl) h.length_le⟩, Recency.ofUsed_touch used entry'⟩

/-- Storing a key makes its entry the last one to be used, and then forgets the oldest. -/
theorem Lists.put_eq (h : cache.Lists used) (positive : cache.capacity ≠ 0) (key : String)
    (value : α) (entry : CacheEntry α) (made : entry = ⟨key, value, cache.clock + 1⟩) :
    cache.put key value =
      { cache with
        entries := (evict cache.capacity (setEntry entry cache.entries)
          ((touch used entry).map place)).1
        order := (evict cache.capacity (setEntry entry cache.entries)
          ((touch used entry).map place)).2
        clock := cache.clock + 1 } := by
  subst made
  have order : (used.filter (·.key != key)).map place ++ [(cache.clock + 1, key)] =
      (touch used ⟨key, value, cache.clock + 1⟩).map place := by
    rw [touch, List.map_append]
    rfl
  rw [Cache.put, if_neg positive]
  cases found : cache.find? key with
  | none =>
    have all : used.filter (·.key != key) = used :=
      List.filter_eq_self.mpr fun e mem => by simpa using h.ne_of_find? found e mem
    rw [all] at order
    simp only [h.order, order]
  | some old =>
    obtain ⟨mem, rfl⟩ := h.mem_of_find? found
    simp only [h.order, h.areUsed.filter_places mem, order]

theorem Lists.put (h : cache.Lists used) (key : String) (value : α) :
    StepsTo cache .done ((Recency.ofUsed used).put cache.capacity key value)
      (cache.perform (.put key value)) := by
  rw [perform, Recency.put]
  by_cases positive : cache.capacity = 0
  · rw [Cache.put, if_pos positive, if_pos positive]
    exact ⟨rfl, rfl, Nat.le_succ _, used, h, rfl⟩
  · let entry : CacheEntry α := ⟨key, value, cache.clock + 1⟩
    have areUsed : AreUsed (touch used entry) (cache.clock + 1) := h.areUsed.touch rfl
    have perm : (setEntry entry cache.entries).Perm (touch used entry) :=
      (setEntry_perm h.distinct).trans ((h.perm.filter _).append_right _)
    obtain ⟨kept, evicted, keeps⟩ := evict_eq cache.capacity perm areUsed
    rw [if_neg positive, h.put_eq positive key value entry rfl, evicted]
    refine ⟨rfl, rfl, Nat.le_refl _, _, ⟨keeps, rfl, areUsed.drop _, ?_⟩, ?_⟩
    · show (List.drop _ _).length ≤ cache.capacity
      rw [List.length_drop]
      omega
    · rw [Recency.ofUsed_drop, Recency.ofUsed_touch]
      rfl

/-- One operation on a cache is the same operation on its list. -/
theorem Lists.perform (h : cache.Lists used) (operation : CacheOperation α) :
    StepsTo cache ((Recency.ofUsed used).perform cache.capacity operation).1
      ((Recency.ofUsed used).perform cache.capacity operation).2 (cache.perform operation) := by
  have length : cache.entries.length = (Recency.ofUsed used).length := by
    simpa [Recency.ofUsed] using h.perm.length_eq
  cases operation with
  | put key value => exact h.put key value
  | get key => exact h.get key
  | clear =>
    exact ⟨rfl, rfl, Nat.le_succ _, [], ⟨.nil, rfl, ⟨.nil, List.nodup_nil, by simp⟩,
      Nat.zero_le _⟩, rfl⟩
  | size => exact ⟨by rw [Cache.perform, size, length]; rfl, rfl, Nat.le_succ _, used, h, rfl⟩
  | isEmpty =>
    refine ⟨?_, rfl, Nat.le_succ _, used, h, rfl⟩
    rw [Cache.perform, isEmpty, size, length, Recency.perform]
    cases Recency.ofUsed used <;> rfl

/-! ## Rows of operations -/

/-- A row of operations on a cache is answered as by its list. -/
theorem Lists.performAll (h : cache.Lists used) (operations : List (CacheOperation α)) :
    (cache.performAll operations).1 =
        (Recency.performAll cache.capacity (Recency.ofUsed used) operations).1 ∧
      (cache.performAll operations).2.clock ≤ cache.clock + operations.length ∧
      ∃ used', (cache.performAll operations).2.Lists used' ∧ Recency.ofUsed used' =
        (Recency.performAll cache.capacity (Recency.ofUsed used) operations).2 := by
  induction operations generalizing cache used with
  | nil => exact ⟨rfl, Nat.le_refl _, used, h, rfl⟩
  | cons operation rest ih =>
    obtain ⟨answer, capacity, clock, used', lists, pairs⟩ := h.perform operation
    obtain ⟨answers, clock', last⟩ := ih lists
    rw [capacity, pairs] at answers last
    refine ⟨congrArg₂ List.cons answer answers, ?_, last⟩
    change ((cache.perform operation).2.performAll rest).2.clock ≤ _
    rw [List.length_cons]
    omega

/-- The order of a cache gives back the keys of exactly the stamps of its entries, no stamp stands
twice, and none is later than the clock. -/
structure IsOrdered (cache : Cache α) : Prop where
  mem_order_iff : ∀ stamp key, (stamp, key) ∈ cache.order ↔
    ∃ e ∈ cache.entries, e.stamp = stamp ∧ e.key = key
  order_sorted : (cache.order.map (·.1)).Pairwise (· < ·)
  stamps_nodup : (cache.entries.map (·.stamp)).Nodup
  keys_nodup : (cache.entries.map (·.key)).Nodup
  stamp_le : ∀ e ∈ cache.entries, e.stamp ≤ cache.clock

theorem Lists.isOrdered (h : cache.Lists used) : cache.IsOrdered where
  mem_order_iff := by
    intro stamp key
    simp only [h.order, List.mem_map, place, Prod.mk.injEq, h.perm.mem_iff]
  order_sorted := by
    rw [h.order, List.map_map]
    exact List.pairwise_map.mpr h.areUsed.sorted
  stamps_nodup := by
    rw [(h.perm.map _).nodup_iff]
    exact (List.pairwise_map.mpr h.areUsed.sorted).imp fun less => Nat.ne_of_lt less
  keys_nodup := h.distinct
  stamp_le := fun e mem => h.areUsed.stamp_le e (h.perm.mem_iff.mp mem)

/-- A row of operations on an empty cache is answered as by a list of pairs, in which what is used
moves to the front and what is over the capacity falls off the end. The list has each key once.
The order and the entries of the cache agree after the row, and the clock has gone on by one for
each operation at most, so that it stays below `2 ^ 64` for fewer operations than that. -/
theorem performAll_empty (capacity : Nat) (operations : List (CacheOperation α)) :
    ((empty capacity).performAll operations).1 =
        (Recency.performAll capacity [] operations).1 ∧
      ((Recency.performAll capacity ([] : Recency α) operations).2.map Prod.fst).Nodup ∧
      ((empty capacity).performAll operations).2.IsOrdered ∧
      ((empty capacity).performAll operations).2.clock ≤ operations.length := by
  obtain ⟨answers, clock, used, lists, pairs⟩ := (lists_empty capacity).performAll operations
  refine ⟨answers, ?_, lists.isOrdered, ?_⟩
  · have nodup := Recency.nodup_ofUsed lists.areUsed
    rw [pairs] at nodup
    exact nodup
  · simpa [empty] using clock

end Cache

end MessageExpr
