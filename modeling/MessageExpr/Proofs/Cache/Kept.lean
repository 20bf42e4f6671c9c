import MessageExpr.Proofs.Cache.Recency
import Mathlib.Data.Finset.Card

/-!
# What was used lately is kept

A pair is lost from a cache only when as many other keys as the capacity have been used after it.
So the keys that stand before a pair in the order of use are followed: using another key adds that
key to them, and looking up in vain adds none.

## Main definitions

* `Recency.Keeps`, `Cache.Keeps` — a pair of a list or of a cache, with the keys that may have been
  used after it

## Main results

* `Cache.Keeps.get_eq` — what is kept is found
* `Cache.Keeps.get_of_some`, `Cache.Keeps.get_of_none`, `Cache.Keeps.put` — what is kept after one
  operation
-/

namespace MessageExpr

variable {α : Type}

/-! ## Lists of pairs -/

namespace Recency

/-- A pair stands in a list. Before it there are only pairs of some other keys, each key once. -/
structure Keeps (key : String) (value : α) (later : Finset String) (pairs : Recency α) : Prop where
  notMem : key ∉ later
  exists_front : ∃ front back, pairs = front ++ (key, value) :: back ∧
    (front.map Prod.fst).Nodup ∧ ∀ pair ∈ front, pair.1 ∈ later

variable {key other : String} {value : α} {later : Finset String} {pairs : Recency α}

/-- The first pair is kept. -/
theorem keeps_cons (notMem : key ∉ later) (value : α) (rest : Recency α) :
    Keeps key value later ((key, value) :: rest) :=
  ⟨notMem, [], rest, rfl, List.nodup_nil, nofun⟩

namespace Keeps

/-- What is kept is found. -/
theorem lookup_eq (h : Keeps key value later pairs) : pairs.lookup key = some value := by
  obtain ⟨front, back, rfl, -, mem⟩ := h.exists_front
  have missing : front.lookup key = none := by
    rw [List.lookup_eq_none_iff]
    intro pair inside
    rw [bne_iff_ne]
    rintro rfl
    exact h.notMem (mem pair inside)
  rw [List.lookup_append, missing, List.lookup_cons_self]
  rfl

/-- Another pair that is put in front stands before the one that is kept. -/
theorem cons (h : Keeps key value later pairs) (differ : other ≠ key) (value' : α) :
    Keeps key value (insert other later) ((other, value') :: erase other pairs) := by
  obtain ⟨front, back, rfl, distinct, mem⟩ := h.exists_front
  have kept : erase other ((key, value) :: back) = (key, value) :: erase other back :=
    List.filter_cons_of_pos (bne_iff_ne.mpr differ.symm)
  refine ⟨?_, (other, value') :: erase other front, erase other back, ?_, ?_, ?_⟩
  · rw [Finset.mem_insert]
    exact not_or.mpr ⟨differ.symm, h.notMem⟩
  · rw [erase, List.filter_append, ← erase, ← erase, kept]
    rfl
  · rw [List.map_cons, List.nodup_cons]
    refine ⟨?_, distinct.sublist (List.filter_sublist.map _)⟩
    intro inside
    obtain ⟨pair, unlike, same⟩ := List.mem_map.mp inside
    exact absurd same (bne_iff_ne.mp (List.mem_filter.mp unlike).2)
  · rw [List.forall_mem_cons]
    refine ⟨Finset.mem_insert_self _ _, fun pair inside => ?_⟩
    exact Finset.mem_insert_of_mem (mem pair (List.mem_filter.mp inside).1)

/-- No more pairs stand before the one that is kept than there are keys for them. -/
theorem take (h : Keeps key value later pairs) {capacity : Nat} (few : later.card < capacity) :
    Keeps key value later (pairs.take capacity) := by
  obtain ⟨front, back, rfl, distinct, mem⟩ := h.exists_front
  have short : front.length ≤ later.card := by
    have among : (front.map Prod.fst).toFinset ⊆ later := by
      intro key inside
      obtain ⟨pair, here, rfl⟩ := List.mem_map.mp (List.mem_toFinset.mp inside)
      exact mem pair here
    have count := Finset.card_le_card among
    rwa [List.toFinset_card_of_nodup distinct, List.length_map] at count
  obtain ⟨rest, length⟩ : ∃ rest, capacity = front.length + (rest + 1) :=
    ⟨capacity - front.length - 1, by omega⟩
  refine ⟨h.notMem, front, back.take rest, ?_, distinct, mem⟩
  rw [length, List.take_length_add_append, List.take_succ_cons]

/-- Looking up a key that is found adds the key to those used after the pair. -/
theorem get_of_some (h : Keeps key value later pairs) {value' : α}
    (found : (pairs.get other).1 = some value') :
    Keeps key value ((insert other later).erase key) (pairs.get other).2 := by
  rw [get] at found ⊢
  by_cases same : other = key
  · subst same
    rw [h.lookup_eq]
    exact keeps_cons (Finset.notMem_erase _ _) _ _
  · have kept := h.cons same value'
    rw [Finset.erase_eq_of_notMem kept.notMem]
    cases looked : pairs.lookup other with
    | none =>
      rw [looked] at found
      cases found
    | some value'' =>
      rw [looked] at found
      cases found
      exact kept

/-- Looking up in vain changes nothing. -/
theorem get_of_none (h : Keeps key value later pairs) (missing : (pairs.get other).1 = none) :
    Keeps key value later (pairs.get other).2 := by
  rw [get] at missing ⊢
  cases looked : pairs.lookup other with
  | none => exact h
  | some value' =>
    rw [looked] at missing
    cases missing

/-- Storing another key leaves a pair after which few keys were used. -/
theorem put (h : Keeps key value later pairs) (differ : other ≠ key) {capacity : Nat}
    (few : (insert other later).card < capacity) (value' : α) :
    Keeps key value (insert other later) (pairs.put capacity other value') := by
  rw [Recency.put, if_neg (Nat.ne_zero_of_lt few)]
  exact (h.cons differ value').take few

end Keeps

/-- A pair that is stored is kept at first. -/
theorem keeps_put {capacity : Nat} (positive : capacity ≠ 0) (key : String) (value : α)
    (pairs : Recency α) : Keeps key value ∅ (pairs.put capacity key value) := by
  rw [put, if_neg positive]
  exact (keeps_cons (Finset.notMem_empty key) _ _).take (Nat.pos_of_ne_zero positive)

/-- A pair that is found is kept at first. -/
theorem keeps_get (found : (pairs.get key).1 = some value) :
    Keeps key value ∅ (pairs.get key).2 := by
  rw [get] at found ⊢
  cases looked : pairs.lookup key with
  | none =>
    rw [looked] at found
    cases found
  | some value' =>
    rw [looked] at found
    cases found
    exact keeps_cons (Finset.notMem_empty key) _ _

end Recency

/-! ## Caches -/

namespace Cache

variable {cache : Cache α} {key other : String} {value : α} {later : Finset String}

/-- Whether the entries of a cache stand in an order of use. -/
def IsListed (cache : Cache α) : Prop := ∃ used, cache.Lists used

theorem isListed_empty (capacity : Nat) : (empty capacity : Cache α).IsListed :=
  ⟨[], lists_empty capacity⟩

theorem IsListed.perform (h : cache.IsListed) (operation : CacheOperation α) :
    (cache.perform operation).2.IsListed := by
  obtain ⟨used, lists⟩ := h
  obtain ⟨used', lists', -⟩ := (lists.perform operation).exists_used
  exact ⟨used', lists'⟩

@[simp] theorem capacity_get (cache : Cache α) (key : String) :
    (cache.get key).2.capacity = cache.capacity := by
  rw [get]
  split <;> rfl

@[simp] theorem capacity_put (cache : Cache α) (key : String) (value : α) :
    (cache.put key value).capacity = cache.capacity := by
  rw [put]
  split <;> rfl

/-- The list of a cache keeps a pair, and only some keys were used after it. -/
def Keeps (key : String) (value : α) (later : Finset String) (cache : Cache α) : Prop :=
  ∃ used, cache.Lists used ∧ (Recency.ofUsed used).Keeps key value later

/-- Looking up a key in a cache finds what looking it up in its list finds. -/
theorem Lists.get_eq {used : List (CacheEntry α)} (h : cache.Lists used) (key : String) :
    (cache.get key).1 = ((Recency.ofUsed used).get key).1 :=
  CacheAnswer.value.inj (h.get key).answer_eq

/-- What the list keeps after a step is kept by the cache. -/
theorem StepsTo.keeps {answer : CacheAnswer α} {pairs : Recency α}
    {result : CacheAnswer α × Cache α} (h : StepsTo cache answer pairs result)
    (keeps : pairs.Keeps key value later) : result.2.Keeps key value later := by
  obtain ⟨used, lists, same⟩ := h.exists_used
  exact ⟨used, lists, same ▸ keeps⟩

/-- A key that is found is kept at first. -/
theorem keeps_get (listed : cache.IsListed) (found : (cache.get key).1 = some value) :
    (cache.get key).2.Keeps key value ∅ := by
  obtain ⟨used, lists⟩ := listed
  exact (lists.get key).keeps (Recency.keeps_get ((lists.get_eq key).symm.trans found))

/-- A key that is stored is kept at first. -/
theorem keeps_put (listed : cache.IsListed) (positive : cache.capacity ≠ 0) (key : String)
    (value : α) : (cache.put key value).Keeps key value ∅ := by
  obtain ⟨used, lists⟩ := listed
  exact (lists.put key value).keeps (Recency.keeps_put positive key value _)

namespace Keeps

theorem notMem (h : cache.Keeps key value later) : key ∉ later := by
  obtain ⟨_, _, keeps⟩ := h
  exact keeps.notMem

/-- What is kept is found. -/
theorem get_eq (h : cache.Keeps key value later) : (cache.get key).1 = some value := by
  obtain ⟨used, lists, keeps⟩ := h
  rw [lists.get_eq, Recency.get, keeps.lookup_eq]

/-- Looking up a key that is found adds the key to those used later. -/
theorem get_of_some (h : cache.Keeps key value later) {value' : α}
    (found : (cache.get other).1 = some value') :
    (cache.get other).2.Keeps key value ((insert other later).erase key) := by
  obtain ⟨used, lists, keeps⟩ := h
  exact (lists.get other).keeps (keeps.get_of_some ((lists.get_eq other).symm.trans found))

/-- Looking up in vain adds no key. -/
theorem get_of_none (h : cache.Keeps key value later) (missing : (cache.get other).1 = none) :
    (cache.get other).2.Keeps key value later := by
  obtain ⟨used, lists, keeps⟩ := h
  exact (lists.get other).keeps (keeps.get_of_none ((lists.get_eq other).symm.trans missing))

/-- Storing another key adds it, and what is kept stays as long as there are fewer such keys than
the capacity. -/
theorem put (h : cache.Keeps key value later) (differ : other ≠ key)
    (few : (insert other later).card < cache.capacity) (value' : α) :
    (cache.put other value').Keeps key value (insert other later) := by
  obtain ⟨used, lists, keeps⟩ := h
  exact (lists.put other value').keeps (keeps.put differ few value')

end Keeps

end Cache

end MessageExpr
