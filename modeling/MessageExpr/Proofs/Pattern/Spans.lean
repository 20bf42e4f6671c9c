import Mathlib.Data.Finset.Card
import MessageExpr.Pattern.Match

/-!
# What a pattern spans

A pattern spans the places between which it can match. Matching works on sets of places and stops a
repetition when nothing new comes up; it finds the places that are spanned from where it starts, and
no others.

## Main definitions

* `Steps` — a number of steps in a row
* `Pattern.Spans` — a pattern can match from one place of a text to another

## Main results

* `mem_iterate_iff`, `Frontier.mem_closure_iff` — the places that are reached by a number of steps,
  and by a bounded number
* `Frontier.mem_closure_of_steps` — when there are as many rounds as places, all that any number of
  steps reaches is found
* `Pattern.mem_ends_iff` — matching ends at the places that are spanned
-/

namespace MessageExpr

/-- A number of steps in a row, from one place to another. -/
inductive Steps (R : Nat → Nat → Prop) : Nat → Nat → Nat → Prop where
  | zero {i} : Steps R 0 i i
  | succ {n i j k} : R i j → Steps R n j k → Steps R (n + 1) i k

namespace Steps

variable {R : Nat → Nat → Prop} {m n i j k : Nat}

theorem zero_iff : Steps R 0 i j ↔ i = j := by
  constructor
  · intro h
    cases h
    rfl
  · rintro rfl
    exact .zero

theorem succ_iff : Steps R (n + 1) i k ↔ ∃ j, R i j ∧ Steps R n j k := by
  constructor
  · intro h
    cases h with
    | succ step rest => exact ⟨_, step, rest⟩
  · rintro ⟨j, step, rest⟩
    exact .succ step rest

private theorem add_iff : Steps R (m + n) i k ↔ ∃ j, Steps R m i j ∧ Steps R n j k := by
  induction m generalizing i with
  | zero => simp [zero_iff]
  | succ m ih =>
    simp only [Nat.succ_add, succ_iff, ih]
    constructor
    · rintro ⟨x, step, j, rest, last⟩
      exact ⟨j, ⟨x, step, rest⟩, last⟩
    · rintro ⟨j, ⟨x, step, rest⟩, last⟩
      exact ⟨x, step, j, rest, last⟩

/-- Steps do not leave the places that single steps do not leave. -/
theorem le {bound : Nat} (stays : ∀ i j, R i j → i ≤ bound → j ≤ bound) (h : Steps R n i j)
    (start : i ≤ bound) : j ≤ bound := by
  induction h with
  | zero => exact start
  | succ step _ ih => exact ih (stays _ _ step start)

end Steps

namespace Pattern

/-! ## Sets of places -/

section

variable {R : Nat → Nat → Prop} {step : List Nat → List Nat} {bound : Nat}

private theorem mem_merge_iff {places others : List Nat} {j : Nat} :
    j ∈ merge places others ↔ j ∈ places ∨ j ∈ others := by
  rw [merge, List.mem_append, List.mem_filter]
  by_cases mem : j ∈ places <;> simp [mem]

/-- Places that a step leaves as they are stay as they are. -/
theorem mem_iff_of_fixed {places : List Nat} (fixed : ∀ j, j ∈ places ↔ ∃ i ∈ places, R i j)
    (count j : Nat) : j ∈ places ↔ ∃ i ∈ places, Steps R count i j := by
  induction count generalizing j with
  | zero => simp [Steps.zero_iff]
  | succ count ih =>
    simp only [Steps.succ_iff]
    constructor
    · intro mem
      obtain ⟨k, mem, rest⟩ := (ih j).mp mem
      obtain ⟨i, mem, first⟩ := (fixed k).mp mem
      exact ⟨i, mem, k, first, rest⟩
    · rintro ⟨i, mem, k, first, rest⟩
      exact (ih j).mpr ⟨k, (fixed k).mpr ⟨i, mem, first⟩, rest⟩

variable (stays : ∀ i j, R i j → i ≤ bound → j ≤ bound)
  (image : ∀ places : List Nat, (∀ i ∈ places, i ≤ bound) →
    ∀ j, j ∈ step places ↔ ∃ i ∈ places, R i j)

include stays image

private theorem step_le {places : List Nat} (inside : ∀ i ∈ places, i ≤ bound) :
    ∀ j ∈ step places, j ≤ bound := by
  intro j mem
  obtain ⟨i, mem, first⟩ := (image places inside j).mp mem
  exact stays i j first (inside i mem)

/-- Taking a step a number of times leads to where that many steps lead. -/
theorem mem_iterate_iff (count : Nat) {places : List Nat} (inside : ∀ i ∈ places, i ≤ bound)
    (j : Nat) : j ∈ iterate step count places ↔ ∃ i ∈ places, Steps R count i j := by
  induction count generalizing places with
  | zero => simp [iterate, Steps.zero_iff]
  | succ count ih =>
    rw [iterate]
    split
    · rename_i same
      have same : step places = places := by simpa using same
      exact mem_iff_of_fixed (fun j => by rw [← image places inside, same]) (count + 1) j
    · rw [ih (step_le stays image inside)]
      simp only [image places inside, Steps.succ_iff]
      constructor
      · rintro ⟨k, ⟨i, mem, first⟩, rest⟩
        exact ⟨i, mem, k, first, rest⟩
      · rintro ⟨i, mem, k, first, rest⟩
        exact ⟨k, ⟨i, mem, first⟩, rest⟩

end

/-- A set of places with those that were found last. Steps from the places found before them lead
to no new places. -/
structure Frontier (R : Nat → Nat → Prop) (bound : Nat) (found latest : List Nat) : Prop where
  inside : ∀ i ∈ found, i ≤ bound
  part : ∀ i ∈ latest, i ∈ found
  known : ∀ i ∈ found, i ∉ latest → ∀ j, R i j → j ∈ found

section

variable {R : Nat → Nat → Prop} {step : List Nat → List Nat} {bound : Nat} {found latest : List Nat}

theorem Frontier.start {places : List Nat} (inside : ∀ i ∈ places, i ≤ bound) :
    Frontier R bound places places where
  inside := inside
  part := fun _ mem => mem
  known := fun _ mem notMem => absurd mem notMem

/-- The places that a step from the places found last leads to, without those that were found. -/
def newPlaces (step : List Nat → List Nat) (found latest : List Nat) : List Nat :=
  (step latest).filter fun place => !found.contains place

variable (image : ∀ places : List Nat, (∀ i ∈ places, i ≤ bound) →
  ∀ j, j ∈ step places ↔ ∃ i ∈ places, R i j)

include image

theorem Frontier.mem_newPlaces_iff (h : Frontier R bound found latest) {j : Nat} :
    j ∈ newPlaces step found latest ↔ (∃ i ∈ latest, R i j) ∧ j ∉ found := by
  rw [newPlaces, List.mem_filter, image latest fun i mem => h.inside i (h.part i mem)]
  simp

/-- A step from a place that was found leads to a place that was found, or to a new one. -/
theorem Frontier.mem_of_step (h : Frontier R bound found latest) {i j : Nat} (mem : i ∈ found)
    (first : R i j) : j ∈ found ++ newPlaces step found latest := by
  rw [List.mem_append, or_iff_not_imp_left]
  intro notFound
  refine (h.mem_newPlaces_iff image).mpr ⟨⟨i, ?_, first⟩, notFound⟩
  by_contra notLatest
  exact notFound (h.known i mem notLatest j first)

/-- Where nothing is new, no number of steps leads anywhere else. -/
theorem Frontier.mem_of_steps (h : Frontier R bound found latest)
    (nothing : newPlaces step found latest = []) {n i j : Nat} (mem : i ∈ found)
    (steps : Steps R n i j) : j ∈ found := by
  induction steps with
  | zero => exact mem
  | succ first _ ih =>
    have next := h.mem_of_step image mem first
    rw [nothing, List.append_nil] at next
    exact ih next

variable (stays : ∀ i j, R i j → i ≤ bound → j ≤ bound)

include stays

theorem Frontier.next (h : Frontier R bound found latest) :
    Frontier R bound (found ++ newPlaces step found latest) (newPlaces step found latest) where
  inside := by
    intro i mem
    rcases List.mem_append.mp mem with mem | mem
    · exact h.inside i mem
    · obtain ⟨⟨k, mem, first⟩, -⟩ := (h.mem_newPlaces_iff image).mp mem
      exact stays k i first (h.inside k (h.part k mem))
  part := fun _ mem => List.mem_append_right _ mem
  known := fun _ mem notNew _ first =>
    h.mem_of_step image ((List.mem_append.mp mem).resolve_right notNew) first

/-- The places that up to `count` steps lead to are added. -/
theorem Frontier.mem_closure_iff (h : Frontier R bound found latest) (count j : Nat) :
    j ∈ closure step count found latest ↔ ∃ n ≤ count, ∃ i ∈ found, Steps R n i j := by
  induction count generalizing found latest with
  | zero => simp [closure, Steps.zero_iff]
  | succ count ih =>
    rw [closure]
    change j ∈ (if (newPlaces step found latest).isEmpty then found
      else closure step count (found ++ newPlaces step found latest)
        (newPlaces step found latest)) ↔ _
    split
    · rename_i isEmpty
      constructor
      · exact fun mem => ⟨0, Nat.zero_le _, j, mem, .zero⟩
      · rintro ⟨n, -, i, mem, steps⟩
        exact h.mem_of_steps image (List.isEmpty_iff.mp isEmpty) mem steps
    · rw [ih (h.next image stays)]
      constructor
      · rintro ⟨n, le, i, mem, steps⟩
        rcases List.mem_append.mp mem with mem | mem
        · exact ⟨n, Nat.le_succ_of_le le, i, mem, steps⟩
        · obtain ⟨⟨k, mem, first⟩, -⟩ := (h.mem_newPlaces_iff image).mp mem
          exact ⟨n + 1, Nat.succ_le_succ le, k, h.part k mem, .succ first steps⟩
      · rintro ⟨n, le, i, mem, steps⟩
        cases steps with
        | zero => exact ⟨0, Nat.zero_le _, j, List.mem_append_left _ mem, .zero⟩
        | @succ n _ k _ first rest =>
          exact ⟨n, Nat.le_of_succ_le_succ le, k, h.mem_of_step image mem first, rest⟩

/-- With one round for each place that is not found yet, all that any number of steps leads to is
added. -/
theorem Frontier.mem_closure_of_steps (h : Frontier R bound found latest) {count : Nat}
    (enough : (Finset.range (bound + 1) \ found.toFinset).card ≤ count) {n i j : Nat}
    (mem : i ∈ found) (steps : Steps R n i j) : j ∈ closure step count found latest := by
  induction count generalizing found latest i n with
  | zero =>
    have all : Finset.range (bound + 1) ⊆ found.toFinset := by
      rw [← Finset.sdiff_eq_empty_iff_subset, ← Finset.card_eq_zero]
      exact Nat.le_zero.mp enough
    have le : j ≤ bound := steps.le stays (h.inside i mem)
    exact List.mem_toFinset.mp (all (Finset.mem_range.mpr (Nat.lt_succ_of_le le)))
  | succ count ih =>
    rw [closure]
    change j ∈ if (newPlaces step found latest).isEmpty then found
      else closure step count (found ++ newPlaces step found latest)
        (newPlaces step found latest)
    split
    · rename_i isEmpty
      exact h.mem_of_steps image (List.isEmpty_iff.mp isEmpty) mem steps
    · rename_i notEmpty
      refine ih (h.next image stays) ?_ (List.mem_append_left _ mem) steps
      -- A new place is one that was not found before.
      obtain ⟨k, new⟩ :=
        List.exists_mem_of_ne_nil _ fun isNil => notEmpty (List.isEmpty_iff.mpr isNil)
      have notFound := ((h.mem_newPlaces_iff image).mp new).2
      have le := (h.next image stays).inside k (List.mem_append_right _ new)
      have fewer : Finset.range (bound + 1) \ (found ++ newPlaces step found latest).toFinset ⊂
          Finset.range (bound + 1) \ found.toFinset := by
        rw [Finset.ssubset_iff_of_subset (Finset.sdiff_subset_sdiff (Finset.Subset.refl _)
          (by intro x; simp +contextual))]
        refine ⟨k, ?_, ?_⟩
        · simpa [notFound, Nat.lt_succ_iff] using le
        · simp [new]
      exact Nat.le_of_lt_succ ((Finset.card_lt_card fewer).trans_le enough)

end

/-! ## Patterns -/

/-- Whether a pattern can match from one place of a text to another. -/
def Spans (text : Array Char) : Pattern → Nat → Nat → Prop
  | empty, i, j => j = i
  | one s, i, j => j = i + 1 ∧ ∃ c, text[i]? = some c ∧ s.contains c = true
  | assertion a, i, j => j = i ∧ a.holds (charBefore text i) text[i]? = true
  | concat p q, i, j => ∃ k, p.Spans text i k ∧ q.Spans text k j
  | either p q, i, j => p.Spans text i j ∨ q.Spans text i j
  | repeated p least most, i, j =>
    ∃ extra, (∀ m ∈ most, extra ≤ m - least) ∧ Steps (p.Spans text) (least + extra) i j

variable {text : Array Char}

/-- A pattern does not match beyond the end of a text. -/
theorem Spans.le {p : Pattern} {i j : Nat} (h : p.Spans text i j) (start : i ≤ text.size) :
    j ≤ text.size := by
  induction p generalizing i j with
  | empty =>
    obtain rfl := h
    exact start
  | one s =>
    obtain ⟨rfl, c, found, -⟩ := h
    exact (Array.getElem?_eq_some_iff.mp found).1
  | assertion a =>
    obtain ⟨rfl, -⟩ := h
    exact start
  | concat p q ihp ihq =>
    obtain ⟨k, first, rest⟩ := h
    exact ihq rest (ihp first start)
  | either p q ihp ihq =>
    rcases h with h | h
    · exact ihp h start
    · exact ihq h start
  | repeated p least most ih =>
    obtain ⟨_, -, steps⟩ := h
    exact steps.le (fun _ _ => ih) start

/-- Matching from some places of a text ends at the places that are spanned from them. -/
theorem mem_ends_iff {p : Pattern} {places : List Nat} (inside : ∀ i ∈ places, i ≤ text.size)
    (j : Nat) : j ∈ ends text p places ↔ ∃ i ∈ places, p.Spans text i j := by
  induction p generalizing places j with
  | empty => simp [ends, Spans]
  | one s =>
    rw [ends, List.mem_filterMap]
    refine exists_congr fun i => and_congr_right fun _ => ?_
    rw [Spans]
    cases text[i]? with
    | none => simp
    | some c =>
      rw [Option.any_some, Option.ite_none_right_eq_some, Option.some_inj]
      constructor
      · rintro ⟨mem, rfl⟩
        exact ⟨rfl, c, rfl, mem⟩
      · rintro ⟨rfl, _, ⟨⟩, mem⟩
        exact ⟨mem, rfl⟩
  | assertion a =>
    rw [ends, List.mem_filter]
    constructor
    · rintro ⟨mem, holds⟩
      exact ⟨j, mem, rfl, holds⟩
    · rintro ⟨i, mem, rfl, holds⟩
      exact ⟨mem, holds⟩
  | concat p q ihp ihq =>
    have inside' (k : Nat) (mem : k ∈ ends text p places) : k ≤ text.size := by
      obtain ⟨i, mem, first⟩ := (ihp inside k).mp mem
      exact first.le (inside i mem)
    rw [ends, ihq inside']
    simp only [ihp inside, Spans]
    constructor
    · rintro ⟨k, ⟨i, mem, first⟩, rest⟩
      exact ⟨i, mem, k, first, rest⟩
    · rintro ⟨i, mem, k, first, rest⟩
      exact ⟨k, ⟨i, mem, first⟩, rest⟩
  | either p q ihp ihq =>
    rw [ends, mem_merge_iff, ihp inside, ihq inside]
    simp only [Spans, and_or_left, exists_or]
  | repeated p least most ih =>
    have stays (i j : Nat) (h : p.Spans text i j) (le : i ≤ text.size) : j ≤ text.size := h.le le
    have image (places : List Nat) (inside : ∀ i ∈ places, i ≤ text.size) (j : Nat) :
        j ∈ ends text p places ↔ ∃ i ∈ places, p.Spans text i j := ih inside j
    have atLeast := mem_iterate_iff stays image least inside
    have inside' (k : Nat) (mem : k ∈ iterate (ends text p) least places) : k ≤ text.size := by
      obtain ⟨i, mem, steps⟩ := (atLeast k).mp mem
      exact steps.le stays (inside i mem)
    have frontier : Frontier (p.Spans text) text.size _ _ := .start inside'
    simp only [ends, Spans, Steps.add_iff]
    constructor
    · intro mem
      obtain ⟨extra, le, k, mem, more⟩ := (frontier.mem_closure_iff image stays _ j).mp mem
      obtain ⟨i, mem, steps⟩ := (atLeast k).mp mem
      refine ⟨i, mem, extra, ?_, k, steps, more⟩
      rintro m ⟨⟩
      exact le
    · rintro ⟨i, mem, extra, few, k, steps, more⟩
      have mem : k ∈ iterate (ends text p) least places := (atLeast k).mpr ⟨i, mem, steps⟩
      cases most with
      | none =>
        -- There are no more places than rounds.
        refine frontier.mem_closure_of_steps image stays ?_ mem more
        exact (Finset.card_le_card Finset.sdiff_subset).trans_eq (Finset.card_range _)
      | some m =>
        exact (frontier.mem_closure_iff image stays _ j).mpr ⟨extra, few m rfl, k, mem, more⟩

/-- A pattern occurs in a text if it can match from one of its places. -/
theorem occursIn_iff {p : Pattern} {text : List Char} :
    p.occursIn text = true ↔ ∃ i ≤ text.length, ∃ j, p.Spans text.toArray i j := by
  have inside (i : Nat) (mem : i ∈ List.range (text.length + 1)) : i ≤ text.toArray.size :=
    Nat.le_of_lt_succ (List.mem_range.mp mem)
  have ends (j : Nat) := mem_ends_iff (p := p) inside j
  simp only [List.mem_range, Nat.lt_succ_iff] at ends
  rw [occursIn, Bool.not_eq_true', List.isEmpty_eq_false_iff]
  constructor
  · intro nonempty
    obtain ⟨j, mem⟩ := List.exists_mem_of_ne_nil _ nonempty
    obtain ⟨i, le, spans⟩ := (ends j).mp mem
    exact ⟨i, le, j, spans⟩
  · rintro ⟨i, le, j, spans⟩
    exact List.ne_nil_of_mem ((ends j).mpr ⟨i, le, spans⟩)

end Pattern

end MessageExpr
