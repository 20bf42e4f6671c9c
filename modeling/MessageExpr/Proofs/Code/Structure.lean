import MessageExpr.Proofs.Code.Reading
import MessageExpr.Proofs.Code.Row

/-!
# The boolean structure of generated code

The code of a row of clauses is read as one formula. Its atoms are the codes of the leaves, in
order, and its truth is that of the clauses written one after the other.

## Main definitions

* `Level.row` — the formula of clauses in a row

## Main results

* `parseLexemes_sequence` — clauses in a row are read as their formula
* `Level.holds_row` — the truth of that formula
* `exists_formula` — what is read from the code of a list of nodes
-/

namespace MessageExpr.Code

open Formula (conjoined allHold)

namespace Level

variable {v : Nat → Bool} (l : Level) (f : Formula (List Sign))

/-- A level after a clause and an "and". -/
def next : Level := (l.split f).1.operator .and (l.split f).2

/-- The formula of clauses in a row. -/
def row (l : Level) (f : Formula (List Sign)) : List (Formula (List Sign)) → Formula (List Sign)
  | [] => (l.split f).1.total (l.split f).2
  | g :: rest => (l.next f).row g rest

/-! ## Truth -/

/-- The number of atoms up to the last "or". -/
def orsSize : Nat := (l.ors.map Formula.size).getD 0

/-- The number of atoms. -/
def size : Nat := l.orsSize + (l.ands.map Formula.size).getD 0

/-- The truth of what stands before the last "or". -/
def orsHold (v : Nat → Bool) : Bool := (l.ors.map (Formula.holds v 0)).getD false

/-- The truth of what stands after the last "or". -/
def andsHold (v : Nat → Bool) : Bool := (l.ands.map (Formula.holds v l.orsSize)).getD true

private theorem size_term : (l.term f).size = (l.ands.map Formula.size).getD 0 + f.size := by
  obtain ⟨ors, _ | ands, last⟩ := l <;> simp [term, after, Formula.size]

private theorem size_total : (l.total f).size = l.size + f.size := by
  have term := l.size_term f
  obtain ⟨_ | ors, ands, last⟩ := l
  · simp_all [total, after, size, orsSize]
  · simp_all [total, after, Formula.size, size, orsSize]
    omega

theorem holds_term : (l.term f).holds v l.orsSize = (l.andsHold v && f.holds v l.size) := by
  obtain ⟨ors, _ | ands, last⟩ := l <;>
    simp [term, after, Formula.holds, andsHold, size, LogicalOperator.join, orsSize]

private theorem holds_total :
    (l.total f).holds v 0 = (l.orsHold v || (l.andsHold v && f.holds v l.size)) := by
  rw [← holds_term]
  obtain ⟨_ | ors, ands, last⟩ := l <;>
    simp [total, after, Formula.holds, orsHold, LogicalOperator.join, orsSize]

private theorem size_operator (o : LogicalOperator) : (l.operator o f).size = l.size + f.size := by
  cases o with
  | and =>
    have term := l.size_term f
    simp only [operator, size, orsSize, Option.map_some, Option.getD_some] at term ⊢
    omega
  | or =>
    have total := l.size_total f
    simp only [operator, size, orsSize, Option.map_some, Option.getD_some, Option.map_none,
      Option.getD_none] at total ⊢
    omega

private theorem andsHold_and :
    (l.operator .and f).andsHold v = (l.andsHold v && f.holds v l.size) :=
  l.holds_term f

private theorem orsHold_or :
    (l.operator .or f).orsHold v = (l.orsHold v || (l.andsHold v && f.holds v l.size)) :=
  l.holds_total f

/-- A clause and an "and" are taken off the front of a row. -/
theorem orsHold_next (rest : List (Formula (List Sign))) :
    ((l.next f).orsHold v || conjoined v ((l.next f).andsHold v) (l.next f).size rest) =
      (l.orsHold v || conjoined v (l.andsHold v) l.size (f :: rest)) := by
  -- An "and" leaves what stands before the last "or" as it is.
  have notLast (l : Level) (f : Formula (List Sign)) :
      (l.operator .and f).orsHold v = l.orsHold v := rfl
  cases f with
  | atom a =>
    rw [next, split, size_operator, andsHold_and, notLast]
    rfl
  | join o x y =>
    rw [next, split, size_operator, andsHold_and, notLast, size_operator]
    cases o with
    | and =>
      rw [andsHold_and, notLast, Formula.conjoined_cons rfl, Formula.holds, Formula.size,
        Nat.add_assoc, Bool.and_assoc]
      rfl
    | or =>
      -- The left side of an "or" closes the term before it, and a new term starts with the
      -- right side.
      have fresh : (l.operator .or x).andsHold v = true := rfl
      rw [fresh, orsHold_or, conjoined, Formula.size, Nat.add_assoc, Bool.true_and, Bool.or_assoc]

/-- A row of clauses holds when its clauses do, written one after the other. -/
theorem holds_row (rest : List (Formula (List Sign))) :
    (l.row f rest).holds v 0 =
      (l.orsHold v || conjoined v (l.andsHold v) l.size (f :: rest)) := by
  rw [← orsHold_next]
  induction rest generalizing l f with
  | nil =>
    rw [row, holds_total, conjoined, ← holds_term]
    rfl
  | cons g rest ih => rw [row, ih, orsHold_next]

/-! ## Atoms -/

/-- The atoms of a level. -/
def atoms : List (List Sign) :=
  (l.ors.map Formula.atoms).getD [] ++ (l.ands.map Formula.atoms).getD []

private theorem atoms_total : (l.total f).atoms = l.atoms ++ f.atoms := by
  obtain ⟨_ | ors, _ | ands, last⟩ := l <;>
    simp [total, term, after, atoms, Formula.atoms, List.append_assoc]

private theorem atoms_operator (o : LogicalOperator) :
    (l.operator o f).atoms = l.atoms ++ f.atoms := by
  cases o with
  | and =>
    obtain ⟨ors, _ | ands, last⟩ := l <;>
      simp [operator, term, after, atoms, Formula.atoms, List.append_assoc]
  | or =>
    have total := l.atoms_total f
    simpa [operator, atoms] using total

private theorem atoms_split : (l.split f).1.atoms ++ (l.split f).2.atoms = l.atoms ++ f.atoms := by
  cases f with
  | atom a => rfl
  | join o x y => simp [split, atoms_operator, Formula.atoms]

/-- A row of clauses has the atoms of its clauses, in order. -/
theorem atoms_row (rest : List (Formula (List Sign))) :
    (l.row f rest).atoms = l.atoms ++ (f :: rest).flatMap Formula.atoms := by
  induction rest generalizing l f with
  | nil => simp [row, atoms_total, atoms_split]
  | cons g rest ih =>
    rw [row, ih, next, atoms_operator, atoms_split]
    simp

end Level

/-! ## Reading -/

/-- The clauses of a row are read one after the other. -/
theorem parseLexemes_sequence {p : Piece} {ps : List Piece} {f : Formula (List Sign)}
    {fs : List (Formula (List Sign))} (l : Level) (free : l.last = none)
    (h : List.Forall₂ (fun (p : Piece) f => IsClause p.signs f) (p :: ps) (f :: fs)) :
    parseLexemes [] l (lexemes [] 0 (Piece.sequence (.logical .and) (p :: ps)).signs) =
      some (l.row f fs) := by
  induction ps generalizing p f fs l with
  | nil =>
    cases h with
    | cons head tail =>
      cases tail
      have read := head [] l [] free breaks_nil
      rw [List.append_nil] at read
      rw [Piece.sequence, read]
      rfl
  | cons q ps ih =>
    cases h with
    | cons head tail =>
      cases tail with
      | @cons _ g _ gs next rest =>
        have shape : (Piece.sequence (.logical .and) (p :: q :: ps)).signs =
            p.signs ++ .char ' ' :: .operator .and :: .char ' ' ::
              (Piece.sequence (.logical .and) (q :: ps)).signs := rfl
        have between (signs : List Sign) :
            lexemes [] 0 (.char ' ' :: .operator .and :: .char ' ' :: signs) =
              .operator .and :: lexemes [] 0 signs := by
          simp [lexemes, held?]
        rw [shape, head _ _ _ free (breaks_space _), between, parseLexemes]
        exact ih (l.next f) rfl (.cons next rest)

/-- The codes of clauses are read as the formulas of their nodes. -/
theorem exists_clauses {nodes : List Node} {codes : List String}
    (h : nodes.mapM (condition id) = .ok codes) :
    ∃ (ps : List Piece) (fs : List (Formula (List Sign))), ps.map Piece.plain = codes ∧
      List.Forall₂ (fun (p : Piece) f => IsClause p.signs f) ps fs ∧
      List.Forall₂ (Formula.Rel IsCodeOf) fs (nodes.map Node.formula) := by
  induction nodes generalizing codes with
  | nil =>
    obtain rfl := pure_eq_ok.mp h
    exact ⟨[], [], rfl, .nil, .nil⟩
  | cons node rest ih =>
    rw [List.mapM_cons] at h
    obtain ⟨code, hcode, more⟩ := bind_eq_ok.mp h
    obtain ⟨others, hothers, made⟩ := bind_eq_ok.mp more
    obtain rfl := pure_eq_ok.mp made
    obtain ⟨p, hp, f, reads, rel⟩ := exists_clause node code hcode
    obtain ⟨ps, fs, hps, clauses, rels⟩ := ih hothers
    exact ⟨p :: ps, f :: fs, by rw [List.map_cons, hp, hps], .cons reads clauses,
      .cons rel rels⟩

/-- What is read from the code of clauses, as long as there are any. -/
theorem exists_formula {nodes : List Node} (nonempty : nodes ≠ []) {code : String}
    (h : clausesCode id nodes = .ok code) :
    ∃ (read : Formula (List Sign)) (fs : List (Formula (List Sign))),
      formula? code = some read ∧
      List.Forall₂ (Formula.Rel IsCodeOf) fs (nodes.map Node.formula) ∧
      read.atoms = fs.flatMap Formula.atoms ∧
      ∀ v, read.holds v 0 = conjoined v true 0 fs := by
  rw [clausesCode] at h
  · obtain ⟨codes, written, made⟩ := bind_eq_ok.mp h
    obtain rfl := pure_eq_ok.mp made
    obtain ⟨ps, fs, rfl, clauses, rels⟩ := exists_clauses written
    have joint : " && " = (Joint.logical .and).code := by decide
    have plain : (Piece.sequence (.logical .and) ps).plain =
        (Joint.logical .and).code.intercalate (ps.map Piece.plain) :=
      Piece.code_sequence _ .plain ps
    rw [joint, ← plain]
    cases clauses with
    | nil =>
      cases nodes with
      | nil => exact absurd rfl nonempty
      | cons => cases rels
    | @cons p f ps fs head tail =>
      refine ⟨Level.empty.row f fs, f :: fs, ?_, rels, ?_, ?_⟩
      · rw [formula?, (Piece.sequence _ (p :: ps)).reads.signs?_eq]
        exact parseLexemes_sequence .empty rfl (.cons head tail)
      · exact Level.empty.atoms_row f fs
      · exact fun v => Level.empty.holds_row f fs
  · exact fun empty => nonempty empty

end MessageExpr.Code
