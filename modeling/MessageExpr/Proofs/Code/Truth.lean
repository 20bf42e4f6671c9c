import MessageExpr.Proofs.Code.Structure
import MessageExpr.Proofs.Code.Unmarked
import MessageExpr.Proofs.Expr.Formula

/-!
# Conditions in code and their evaluation

The code of a condition keeps its boolean structure when what is read from it holds for the same
leaves as the condition does when it is evaluated. Nested operators stand between parentheses, but
clauses in a row do not, so that a disjunction among several clauses is torn apart.

## Main definitions

* `Formula.rowHolds` — the truth of clauses in a row
* `KeepsStructure` — code that holds when the clauses it was written for do

## Main results

* `keepsStructure_iff` — when the code of a condition keeps its structure
* `code_tears_disjunction` — a disjunction beside another clause
-/

namespace MessageExpr

/-- The truth of clauses in a row, by the truth of their atoms: all of them hold. No clauses never
hold. -/
def Formula.rowHolds {α : Type} (v : Nat → Bool) (fs : List (Formula α)) : Bool :=
  !fs.isEmpty && allHold v 0 fs

section

variable {α β : Type} {R : α → β → Prop} {v : Nat → Bool}

theorem Formula.rowHolds_of_ne_nil {fs : List (Formula α)} (h : fs ≠ []) :
    rowHolds v fs = allHold v 0 fs := by
  cases fs with
  | nil => exact absurd rfl h
  | cons => rfl

theorem Formula.rowHolds_eq {fs : List (Formula α)} {gs : List (Formula β)}
    (h : List.Forall₂ (Rel R) fs gs) : rowHolds v fs = rowHolds v gs := by
  rw [rowHolds, rowHolds, allHold_eq h]
  cases h <;> rfl

end

/-- A predicate holds when its clauses do. -/
theorem test_eq [PatternLibrary] {s : Surroundings} {v : Nat → Bool} {p : Predicate}
    {fs : List (Formula Expr)}
    (clauses : p.clauses = fs.map Formula.expr)
    (h : GivesTruth s v 0 (fs.flatMap Formula.atoms)) :
    p.test s = .ok (Formula.rowHolds v fs) := by
  rw [Predicate.test, clauses]
  cases fs with
  | nil => rfl
  | cons f rest => exact testAll_eq h

namespace Code

/-- Code is read as a formula over the codes of the leaves of some nodes, in order, which holds
when all nodes do, whatever the leaves are. The code of no nodes is that of what never holds. -/
def KeepsStructure [PatternLibrary] (code : String) (nodes : List Node) : Prop :=
  if nodes = [] then code = "false"
  else
    ∃ read, formula? code = some read ∧
      List.Forall₂ IsCodeOf read.atoms (nodes.flatMap fun node => node.formula.atoms) ∧
      ∀ v, read.holds v 0 = Formula.rowHolds v (nodes.map Node.formula)

private theorem keepsStructure_clauses [PatternLibrary] {nodes : List Node} {code : String}
    (h : clausesCode id nodes = .ok code) :
    KeepsStructure code nodes ↔
      nodes.length ≤ 1 ∨ ∀ node ∈ nodes, node.formula.isDisjunction = false := by
  by_cases empty : nodes = []
  · subst empty
    rw [clausesCode] at h
    rw [KeepsStructure, if_pos rfl]
    exact ⟨fun _ => .inl (Nat.zero_le 1), fun _ => (Except.ok.inj h).symm⟩
  · obtain ⟨read, fs, isRead, rels, atoms, holds⟩ := exists_formula empty h
    have leaves :
        List.Forall₂ IsCodeOf read.atoms (nodes.flatMap fun node => node.formula.atoms) := by
      rw [atoms]
      simpa [List.flatMap_map] using Formula.atoms_rel rels
    have length : fs.length = nodes.length := by simpa using rels.length_eq
    have positive : 0 < nodes.length := List.length_pos_iff.mpr empty
    have disjunctions : (∀ f ∈ fs, f.isDisjunction = false) ↔
        ∀ node ∈ nodes, node.formula.isDisjunction = false := by
      have same := Formula.isDisjunction_eq rels
      rw [← List.forall_mem_map (P := fun b => b = false), same]
      simp
    -- The two truths differ as the truths of a row of clauses with and without parentheses do.
    have truth (v : Nat → Bool) : read.holds v 0 = Formula.rowHolds v (nodes.map Node.formula) ↔
        Formula.conjoined v true 0 fs = Formula.allHold v 0 fs := by
      rw [holds, ← Formula.rowHolds_eq rels, Formula.rowHolds_of_ne_nil]
      exact List.length_pos_iff.mp (by omega)
    rw [KeepsStructure, if_neg empty]
    constructor
    · rintro ⟨read', isRead', -, all⟩
      obtain rfl : read = read' := Option.some.inj (isRead.symm.trans isRead')
      rcases Formula.forall_conjoined_iff.mp fun v => (truth v).mp (all v) with single | none
      · exact .inl (by omega)
      · exact .inr (disjunctions.mp none)
    · intro shape
      refine ⟨read, isRead, leaves, fun v => (truth v).mpr ?_⟩
      refine Formula.forall_conjoined_iff.mpr ?_ v
      rcases shape with short | none
      · exact .inl (by omega)
      · exact .inr (disjunctions.mpr none)

/-- The code of a text, as it is written without marks, keeps the structure of the text exactly when
there is one node at most or none of them is a disjunction. It is what is written for the text
exactly when no text of the nodes holds a mark. The structure is the one that the compiled text is
evaluated by: when all leaves have values, the predicate holds if all nodes do, and if there is a
node. -/
theorem keepsStructure_iff [PatternLibrary] (language : Language) (text code : String)
    (written : language.predicateCode text = .ok code) :
    ∃ nodes unmarked, language.conditionNodes text = .ok nodes ∧
      clausesCode id nodes = .ok unmarked ∧
      (code = unmarked ↔ ∀ t ∈ clausesTexts nodes, Clean t) ∧
      (KeepsStructure unmarked nodes ↔
        nodes.length ≤ 1 ∨ ∀ node ∈ nodes, node.formula.isDisjunction = false) ∧
      ∀ w p w', (Compile.predicate nodes).run w = (.ok p, w') →
        ∃ fs : List (Formula Expr), p.value.clauses = fs.map Formula.expr ∧
          List.Forall₂ (Formula.Rel IsCompiled) fs (nodes.map Node.formula) ∧
          ∀ s v, GivesTruth s v 0 (fs.flatMap Formula.atoms) →
            p.value.test s = .ok (Formula.rowHolds v (nodes.map Node.formula)) := by
  obtain ⟨nodes, parsed, written⟩ := bind_eq_ok.mp written
  obtain ⟨unmarked, plain, -, same⟩ := (renders_clauses nodes).of_strip (mapError_eq_ok.mp written)
  refine ⟨nodes, unmarked, parsed, plain, same, keepsStructure_clauses plain,
    fun w p w' compiled => ?_⟩
  obtain ⟨es, w₁, compiled, made⟩ := Compile.run_bind_eq_ok.mp compiled
  obtain ⟨fs, rfl, rels⟩ := exists_compiledAll compiled
  have clauses : p.value.clauses = fs.map Formula.expr := by
    cases made
    rfl
  refine ⟨fs, clauses, rels, fun s v truth => ?_⟩
  rw [test_eq clauses truth, Formula.rowHolds_eq rels]

/-- Two clauses, the first of which is a disjunction. -/
theorem keepsStructure_iff_disjunction :
    (Language.start true Language.defaultCapacity none).predicateCode "true || true false" =
      .ok "true || true && false" ∧
    ∃ nodes, (Language.start true Language.defaultCapacity none).conditionNodes
      "true || true false" = .ok nodes ∧ ¬ KeepsStructure "true || true && false" nodes := by
  have written : (Language.start true Language.defaultCapacity none).predicateCode
      "true || true false" = .ok "true || true && false" := by decide +kernel
  obtain ⟨nodes, unmarked, parsed, -, same, keeps, -⟩ := keepsStructure_iff _ _ _ written
  have facts : ((Language.start true Language.defaultCapacity none).conditionNodes
      "true || true false").map (fun nodes => (clausesTexts nodes, nodes.length,
        nodes.map fun node => node.formula.isDisjunction)) = .ok ([], 2, [true, false]) := by
    decide +kernel
  rw [parsed] at facts
  obtain ⟨texts, length, disjunctions⟩ : clausesTexts nodes = [] ∧ nodes.length = 2 ∧
      nodes.map (fun node => node.formula.isDisjunction) = [true, false] := by
    simpa [Except.map] using facts
  rw [← same.mpr (by simp [texts])] at keeps
  refine ⟨written, nodes, parsed, fun kept => ?_⟩
  rcases keeps.mp kept with short | none
  · omega
  · have mem : true ∈ nodes.map fun node => node.formula.isDisjunction := by simp [disjunctions]
    obtain ⟨node, inside, disjunction⟩ := List.mem_map.mp mem
    rw [none node inside] at disjunction
    cases disjunction

/-- The disjunction loses its right side to the clause after it: the code holds when its first atom
does, and the predicate does not. -/
theorem code_tears_disjunction :
    (Language.start true Language.defaultCapacity none).predicateCode "true || true false" =
      .ok "true || true && false" ∧
    (formula? "true || true && false").map (Formula.holds (fun i => decide (i < 2)) 0) =
      some true ∧
    (((Language.start true Language.defaultCapacity none).createPredicate
      "true || true false").1.map fun p => p.value.test ⟨.empty, []⟩) = .ok (.ok false) := by
  refine ⟨?_, ?_, ?_⟩ <;> decide +kernel

end Code

end MessageExpr
