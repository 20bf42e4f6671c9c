import MessageExpr.Proofs.Code.Formula

/-!
# Rows of clauses

Clauses are written one after the other with "and" between them, but without parentheses around
them. An "or" that joins the two sides of a clause then binds less than the "and" next to it, and
takes what stands before the clause as its left side and what stands after it as its right side.

## Main definitions

* `Formula.conjoined` — the truth of clauses that are written in a row

## Main results

* `forall_conjoined_iff` — a row holds when all clauses do, whatever the atoms are, exactly when
  there is one clause only or none of them is a disjunction
-/

namespace MessageExpr.Formula

variable {α : Type} {v : Nat → Bool} {first : Nat} {f : Formula α} {fs rest : List (Formula α)}

/-- The truth of clauses in a row, where `before` is the truth of what stands in front of them
after the last "or". -/
def conjoined (v : Nat → Bool) (before : Bool) (first : Nat) : List (Formula α) → Bool
  | [] => before
  | f :: rest =>
    match f with
    | join .or x y =>
      before && x.holds v first ||
        conjoined v (y.holds v (first + x.size)) (first + f.size) rest
    | _ => conjoined v (before && f.holds v first) (first + f.size) rest

theorem conjoined_cons (notOr : f.isDisjunction = false) (before : Bool) (first : Nat)
    (rest : List (Formula α)) :
    conjoined v before first (f :: rest) =
      conjoined v (before && f.holds v first) (first + f.size) rest := by
  cases f with
  | atom a => rfl
  | join o x y =>
    cases o with
    | and => rfl
    | or => cases notOr

/-- The number of atoms of a row of clauses. -/
def totalSize : List (Formula α) → Nat
  | [] => 0
  | f :: rest => f.size + totalSize rest

/-! ## Atoms that are all alike -/

/-- A formula whose atoms have one truth value has that truth value. -/
theorem holds_of_const {b : Bool} (h : ∀ i, first ≤ i → i < first + f.size → v i = b) :
    f.holds v first = b := by
  induction f generalizing first with
  | atom a => exact h first (Nat.le_refl _) (by simp [size])
  | join o x y ihx ihy =>
    rw [size] at h
    have left : x.holds v first = b := ihx fun i low high => h i low (by omega)
    have right : y.holds v (first + x.size) = b :=
      ihy fun i low high => h i (by omega) (by omega)
    rw [holds, left, right]
    cases o <;> cases b <;> rfl

/-! ## Rows without disjunctions -/

private theorem conjoined_of_noDisjunction (h : ∀ f ∈ fs, f.isDisjunction = false) (before : Bool)
    (first : Nat) : conjoined v before first fs = (before && allHold v first fs) := by
  induction fs generalizing before first with
  | nil => simp [conjoined, allHold]
  | cons f rest ih =>
    rw [conjoined_cons (h f (by simp)), ih fun g hg => h g (by simp [hg]), allHold,
      Bool.and_assoc]

private theorem conjoined_singleton (f : Formula α) : conjoined v true 0 [f] = allHold v 0 [f] := by
  rw [allHold, allHold, Bool.and_true]
  cases f with
  | atom a => rfl
  | join o x y => cases o <;> simp [conjoined, holds, LogicalOperator.join]

/-! ## Rows with a disjunction -/

private theorem allHold_append (fs gs : List (Formula α)) (first : Nat) :
    allHold v first (fs ++ gs) = (allHold v first fs && allHold v (first + totalSize fs) gs) := by
  induction fs generalizing first with
  | nil => simp [allHold, totalSize]
  | cons f rest ih =>
    have size : first + f.size + totalSize rest = first + totalSize (f :: rest) := by
      rw [totalSize, Nat.add_assoc]
    rw [List.cons_append, allHold, allHold, ih, size, Bool.and_assoc]

theorem eq_join_of_isDisjunction (h : f.isDisjunction = true) : ∃ x y, f = join .or x y := by
  cases f with
  | atom a => cases h
  | join o x y =>
    cases o with
    | and => cases h
    | or => exact ⟨x, y, rfl⟩

/-- When all that stands before the right side of a disjunction is true, so is the row. -/
theorem conjoined_of_front (fs gs : List (Formula α)) (x y : Formula α) (first : Nat)
    (h : ∀ i, first ≤ i → i < first + totalSize fs + x.size → v i = true) :
    conjoined v true first (fs ++ join .or x y :: gs) = true := by
  induction fs generalizing first with
  | nil =>
    have left : x.holds v first = true := holds_of_const h
    simp [conjoined, left]
  | cons f fs ih =>
    rw [totalSize] at h
    cases disjunction : f.isDisjunction with
    | false =>
      have head : f.holds v first = true :=
        holds_of_const fun i low high => h i low (by omega)
      rw [List.cons_append, conjoined_cons disjunction, head, Bool.and_true]
      exact ih _ fun i low high => h i (by omega) (by omega)
    | true =>
      obtain ⟨x', y', rfl⟩ := eq_join_of_isDisjunction disjunction
      have left : x'.holds v first = true :=
        holds_of_const fun i low high => h i low (by rw [size]; omega)
      simp [conjoined, left]

/-- When the right side of a disjunction at the end is true, so is the row. -/
theorem conjoined_of_back (fs : List (Formula α)) (x y : Formula α) (before : Bool) (first : Nat)
    (h : ∀ i, first + totalSize fs + x.size ≤ i → v i = true) :
    conjoined v before first (fs ++ [join .or x y]) = true := by
  induction fs generalizing before first with
  | nil =>
    have right : y.holds v (first + x.size) = true := holds_of_const fun i low _ => h i low
    simp [conjoined, right]
  | cons f fs ih =>
    rw [totalSize] at h
    have rest (before : Bool) :
        conjoined v before (first + f.size) (fs ++ [join .or x y]) = true :=
      ih _ _ fun i low => h i (by omega)
    cases disjunction : f.isDisjunction with
    | false => rw [List.cons_append, conjoined_cons disjunction, rest]
    | true =>
      obtain ⟨x', y', rfl⟩ := eq_join_of_isDisjunction disjunction
      rw [List.cons_append, conjoined, rest, Bool.or_true]

/-- Among several clauses a disjunction is told apart by some atoms. -/
theorem exists_conjoined_ne (several : fs.length ≠ 1) (mem : f ∈ fs)
    (disjunction : f.isDisjunction = true) :
    ∃ v, conjoined v true 0 fs = true ∧ allHold v 0 fs = false := by
  obtain ⟨x, y, rfl⟩ := eq_join_of_isDisjunction disjunction
  obtain ⟨front, back, rfl⟩ := List.append_of_mem mem
  cases back with
  | cons g gs =>
    -- The atoms up to the disjunction are true, those after it are not.
    refine ⟨fun i => decide (i < totalSize front + x.size + y.size), ?_, ?_⟩
    · exact conjoined_of_front front _ x y 0 fun i _ high => decide_eq_true (by omega)
    · have false' : g.holds (fun i => decide (i < totalSize front + x.size + y.size))
          (0 + totalSize front + (join .or x y).size) = false :=
        holds_of_const fun i low _ => decide_eq_false (by rw [size] at low; omega)
      rw [allHold_append, allHold, allHold, false']
      simp
  | nil =>
    cases front with
    | nil => exact absurd rfl several
    | cons e front =>
      -- Only the atoms of the first clause are false.
      refine ⟨fun i => decide (e.size ≤ i), ?_, ?_⟩
      · refine conjoined_of_back (e :: front) x y true 0 fun i low => decide_eq_true ?_
        rw [totalSize] at low
        omega
      · have false' : e.holds (fun i => decide (e.size ≤ i)) 0 = false :=
          holds_of_const fun i _ high => decide_eq_false (by omega)
        rw [List.cons_append, allHold, false', Bool.false_and]

/-- A row says that all clauses hold, whatever the atoms are, exactly when there is one clause
only or none of them is a disjunction. -/
theorem forall_conjoined_iff :
    (∀ v, conjoined v true 0 fs = allHold v 0 fs) ↔
      fs.length = 1 ∨ ∀ f ∈ fs, f.isDisjunction = false := by
  constructor
  · intro h
    by_cases single : fs.length = 1
    · exact .inl single
    · refine .inr fun f mem => ?_
      cases disjunction : f.isDisjunction with
      | false => rfl
      | true =>
        obtain ⟨v, row, all⟩ := exists_conjoined_ne single mem disjunction
        rw [h v, all] at row
        cases row
  · rintro (single | none) v
    · obtain ⟨f, rfl⟩ := List.length_eq_one_iff.mp single
      exact conjoined_singleton f
    · rw [conjoined_of_noDisjunction none, Bool.true_and]

end MessageExpr.Formula
