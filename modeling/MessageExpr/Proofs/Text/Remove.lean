import MessageExpr.Text.Basic
import Mathlib.Data.List.Infix

/-!
# Removing a piece from a text

What is left of a text once the occurrences of a piece are taken out. A character that the piece
does not hold keeps what stands before it apart from what stands after it.

## Main results

* `removeAll_append_cons` — both sides of a character outside the piece are treated apart
* `length_removeAll_le` — nothing is added
* `removeAll_eq_self_iff` — a text stays as it is exactly when the piece does not occur in it
-/

namespace MessageExpr.Text

variable {piece t : List Char} {c : Char}

@[simp] theorem removeAll_nil : removeAll piece [] = [] := by simp [removeAll, removeAfter]

private theorem removeAfter_eq (skip : Nat) (t : List Char) :
    removeAfter piece skip t = removeAll piece (t.drop skip) := by
  induction t generalizing skip with
  | nil => simp [removeAfter]
  | cons c rest ih =>
    cases skip with
    | zero => rfl
    | succ skip => simp [removeAfter, ih]

/-- An occurrence at the start is dropped. -/
theorem removeAll_of_starts (nonempty : piece ≠ []) (h : piece <+: t) :
    removeAll piece t = removeAll piece (t.drop piece.length) := by
  cases t with
  | nil => exact absurd (List.prefix_nil.1 h) nonempty
  | cons c rest =>
    obtain ⟨n, length⟩ : ∃ n, piece.length = n + 1 :=
      Nat.exists_eq_succ_of_ne_zero (by simpa using nonempty)
    rw [removeAll, removeAfter, if_pos (List.isPrefixOf_iff_prefix.2 h), removeAfter_eq, length]
    rfl

/-- A character where nothing occurs is kept. -/
theorem removeAll_cons_of_not_starts (h : ¬ piece <+: c :: t) :
    removeAll piece (c :: t) = c :: removeAll piece t := by
  rw [removeAll, removeAfter, if_neg (by rwa [List.isPrefixOf_iff_prefix])]
  rfl

/-- A piece in front is dropped. -/
theorem removeAll_piece_append (nonempty : piece ≠ []) (t : List Char) :
    removeAll piece (piece ++ t) = removeAll piece t := by
  rw [removeAll_of_starts nonempty (List.prefix_append piece t), List.drop_left]

theorem length_removeAll_le (piece t : List Char) :
    (removeAll piece t).length ≤ t.length := by
  suffices ∀ skip, (removeAfter piece skip t).length ≤ t.length from this 0
  induction t with
  | nil => simp [removeAfter]
  | cons c rest ih =>
    intro skip
    cases skip with
    | succ skip => exact Nat.le_succ_of_le (ih skip)
    | zero =>
      rw [removeAfter]
      split
      · exact Nat.le_succ_of_le (ih _)
      · exact Nat.succ_le_succ (ih 0)

/-- An occurrence makes the text shorter. -/
theorem length_removeAll_lt (nonempty : piece ≠ []) (h : piece <:+: t) :
    (removeAll piece t).length < t.length := by
  induction t with
  | nil => exact absurd (List.infix_nil.1 h) nonempty
  | cons c rest ih =>
    by_cases start : piece <+: c :: rest
    · rw [removeAll_of_starts nonempty start]
      -- Where the piece starts at once, all of it is gone and the rest grows no longer.
      have := length_removeAll_le piece ((c :: rest).drop piece.length)
      have positive : 0 < piece.length := List.length_pos_iff.2 nonempty
      rw [List.length_drop] at this
      simp only [List.length_cons] at this ⊢
      omega
    · rw [removeAll_cons_of_not_starts start]
      exact Nat.succ_lt_succ (ih ((List.infix_cons_iff.1 h).resolve_left start))

theorem removeAll_eq_self (h : ¬ piece <:+: t) : removeAll piece t = t := by
  induction t with
  | nil => simp
  | cons c rest ih =>
    rw [List.infix_cons_iff, not_or] at h
    rw [removeAll_cons_of_not_starts h.1, ih h.2]

theorem removeAll_eq_self_iff (nonempty : piece ≠ []) :
    removeAll piece t = t ↔ ¬ piece <:+: t := by
  refine ⟨fun h occurs => ?_, removeAll_eq_self⟩
  have := length_removeAll_lt nonempty occurs
  rw [h] at this
  omega

/-- Every occurrence that is found makes the text shorter, so nothing can make up for it. -/
theorem removeAll_removeAll_eq_self_iff {other : List Char} (nonempty : piece ≠ [])
    (nonempty' : other ≠ []) :
    removeAll other (removeAll piece t) = t ↔ ¬ piece <:+: t ∧ ¬ other <:+: t := by
  constructor
  · intro h
    by_cases occurs : piece <:+: t
    · have lt := length_removeAll_lt nonempty occurs
      have le := length_removeAll_le other (removeAll piece t)
      rw [h] at le
      omega
    · rw [removeAll_eq_self occurs] at h
      exact ⟨occurs, (removeAll_eq_self_iff nonempty').1 h⟩
  · rintro ⟨start, stop⟩
    rw [removeAll_eq_self start, removeAll_eq_self stop]

theorem removeAll_of_notMem (hc : c ∈ piece) (h : c ∉ t) : removeAll piece t = t :=
  removeAll_eq_self fun occurs => h (occurs.subset hc)

/-- What stands before the first place where the piece can start is kept. -/
theorem removeAll_cons_append (start : List Char) (h : c ∉ start) (t : List Char) :
    removeAll (c :: piece) (start ++ t) = start ++ removeAll (c :: piece) t := by
  induction start with
  | nil => rfl
  | cons d rest ih =>
    rw [List.mem_cons, not_or] at h
    have other : ¬ c :: piece <+: d :: (rest ++ t) := fun starts =>
      h.1 (List.cons_prefix_cons.1 starts).1
    rw [List.cons_append, removeAll_cons_of_not_starts other, ih h.2, List.cons_append]

/-- A piece that ends before a character it does not hold stands before it. -/
theorem prefix_append_cons_iff (h : c ∉ piece) (a b : List Char) :
    piece <+: a ++ c :: b ↔ piece <+: a := by
  refine ⟨fun starts => ?_, fun starts => starts.trans (List.prefix_append a _)⟩
  by_cases longer : a.length < piece.length
  -- A longer piece would reach past the character and hold it.
  · have start : a ++ [c] <+: piece := by
      refine List.prefix_of_prefix_length_le ⟨b, by simp⟩ starts ?_
      simpa using Nat.succ_le_of_lt longer
    exact absurd (start.subset (by simp)) h
  · exact List.prefix_of_prefix_length_le starts (List.prefix_append a _) (Nat.le_of_not_lt longer)

theorem removeAll_append_cons (nonempty : piece ≠ []) (h : c ∉ piece) (a b : List Char) :
    removeAll piece (a ++ c :: b) = removeAll piece a ++ c :: removeAll piece b := by
  -- An occurrence takes its whole length off the front, so the induction is on that length.
  induction size : a.length using Nat.strong_induction_on generalizing a with
  | _ n ih =>
    by_cases start : piece <+: a
    · have shorter : (a.drop piece.length).length < n := by
        have positive : 0 < piece.length := List.length_pos_iff.2 nonempty
        have := start.length_le
        rw [List.length_drop]
        omega
      rw [removeAll_of_starts nonempty ((prefix_append_cons_iff h a b).2 start),
        removeAll_of_starts nonempty start, List.drop_append_of_le_length start.length_le]
      exact ih _ shorter _ rfl
    · have start' := mt (prefix_append_cons_iff h a b).1 start
      cases a with
      | nil => simpa using removeAll_cons_of_not_starts start'
      | cons d rest =>
        rw [List.cons_append] at start' ⊢
        rw [removeAll_cons_of_not_starts start', removeAll_cons_of_not_starts start,
          ih rest.length (by simp [← size]) rest rfl, List.cons_append]

end MessageExpr.Text
