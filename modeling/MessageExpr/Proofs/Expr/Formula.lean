import MessageExpr.Proofs.Code.Reading
import MessageExpr.Proofs.Compile

/-!
# Formulas of expressions

A node is compiled to an expression with the same logical operators over the expressions of its
leaves. When the leaves have values, the truth of the expression is that of its formula.

## Main definitions

* `Formula.expr` — the expression that joins expressions
* `GivesTruth` — expressions have values of given truth

## Main results

* `exists_compiled` — what a node is compiled to
* `isTrue_expr` — the truth of an expression
-/

namespace MessageExpr

variable [PatternLibrary] {s : Surroundings} {v : Nat → Bool} {first : Nat}

/-- The expression that joins expressions. -/
def Formula.expr : Formula Expr → Expr
  | atom e => e
  | join o left right => .logical o left.expr right.expr

/-- Whether expressions have values whose truth is the one of their numbers, of which the first
one is `first`. -/
def GivesTruth (s : Surroundings) (v : Nat → Bool) (first : Nat) (es : List Expr) : Prop :=
  ∀ i e, es[i]? = some e → ∃ w, e.evaluate s = .ok w ∧ w.isTrue = v (first + i)

theorem GivesTruth.of_append {es es' : List Expr} (h : GivesTruth s v first (es ++ es')) :
    GivesTruth s v first es ∧ GivesTruth s v (first + es.length) es' := by
  constructor
  · intro i e mem
    have inside : i < es.length := (List.getElem?_eq_some_iff.mp mem).1
    exact h i e (by rwa [List.getElem?_append_left inside])
  · intro i e mem
    rw [Nat.add_assoc]
    refine h (es.length + i) e ?_
    rwa [List.getElem?_append_right (Nat.le_add_right _ _), Nat.add_sub_cancel_left]

omit [PatternLibrary] in
theorem Formula.length_atoms {α : Type} (f : Formula α) : f.atoms.length = f.size := by
  induction f with
  | atom => rfl
  | join _ _ _ ihl ihr => rw [atoms, List.length_append, ihl, ihr, size]

/-! ## Evaluation -/

/-- The right side is left out only where it does not matter. -/
theorem evaluate_logical {o : LogicalOperator} {left right : Expr} {a b : Value}
    (hl : left.evaluate s = .ok a) (hr : right.evaluate s = .ok b) :
    (Expr.logical o left right).evaluate s = .ok (.boolean (o.join a.isTrue b.isTrue)) := by
  rw [Expr.evaluate, hl, hr]
  change (if o.isOpen a.isTrue = true then Except.ok (Value.boolean b.isTrue)
    else Except.ok (Value.boolean a.isTrue)) = _
  generalize a.isTrue = x
  cases o <;> cases x <;> rfl

/-- The truth of the value of an expression is that of its formula. -/
theorem isTrue_expr {f : Formula Expr} (h : GivesTruth s v first f.atoms) :
    ∃ w, f.expr.evaluate s = .ok w ∧ w.isTrue = f.holds v first := by
  induction f generalizing first with
  | atom e => exact h 0 e rfl
  | join o left right ihl ihr =>
    -- The atoms on the right are numbered on from those on the left.
    obtain ⟨hl, hr⟩ := h.of_append
    rw [Formula.length_atoms] at hr
    obtain ⟨a, evaluated, truth⟩ := ihl hl
    obtain ⟨b, evaluated', truth'⟩ := ihr hr
    refine ⟨_, evaluate_logical evaluated evaluated', ?_⟩
    rw [Formula.holds, ← truth, ← truth']
    rfl

/-- A row of clauses holds when their formulas do. -/
theorem testAll_eq {fs : List (Formula Expr)}
    (h : GivesTruth s v first (fs.flatMap Formula.atoms)) :
    Predicate.testAll s (fs.map Formula.expr) = .ok (Formula.allHold v first fs) := by
  induction fs generalizing first with
  | nil => rfl
  | cons f rest ih =>
    obtain ⟨head, tail⟩ := h.of_append
    rw [Formula.length_atoms] at tail
    obtain ⟨a, evaluated, truth⟩ := isTrue_expr head
    rw [List.map_cons, Predicate.testAll, evaluated, Formula.allHold, ← truth]
    -- The clauses after a false one are not looked at, and are not needed either.
    change (if a.isTrue = true then Predicate.testAll s (rest.map Formula.expr)
      else Except.ok false) = _
    rw [ih tail]
    generalize a.isTrue = x
    cases x <;> rfl

/-! ## Compiling -/

/-- A node was compiled to an expression. -/
def IsCompiled (e : Expr) (node : Node) : Prop :=
  ∃ w w', (Compile.node node).run w = (.ok e, w')

/-- A node is compiled to the expressions of its leaves, joined as they are. -/
theorem exists_compiled (node : Node) {e : Expr} {w w' : Workshop}
    (h : (Compile.node node).run w = (.ok e, w')) :
    ∃ f : Formula Expr, f.expr = e ∧ Formula.Rel IsCompiled f node.formula := by
  rcases node.formula_cases with leaf | ⟨o, token, left, right, rfl⟩
  · rw [leaf]
    exact ⟨.atom e, rfl, .atom ⟨w, w', h⟩⟩
  · rw [Compile.node] at h
    obtain ⟨first, w₁, compiled, h⟩ := Compile.run_bind_eq_ok.mp h
    obtain ⟨second, w₂, compiled', h⟩ := Compile.run_bind_eq_ok.mp h
    obtain ⟨rfl, -⟩ := Compile.run_pure_eq_ok.mp h
    obtain ⟨f, rfl, relF⟩ := exists_compiled left compiled
    obtain ⟨g, rfl, relG⟩ := exists_compiled right compiled'
    rw [Node.formula]
    exact ⟨.join o f g, rfl, .join relF relG⟩
termination_by node

theorem exists_compiledAll {nodes : List Node} {es : List Expr} {w w' : Workshop}
    (h : (Compile.nodes nodes).run w = (.ok es, w')) :
    ∃ fs : List (Formula Expr), fs.map Formula.expr = es ∧
      List.Forall₂ (Formula.Rel IsCompiled) fs (nodes.map Node.formula) := by
  induction nodes generalizing es w with
  | nil =>
    rw [Compile.nodes] at h
    obtain ⟨rfl, -⟩ := Compile.run_pure_eq_ok.mp h
    exact ⟨[], rfl, .nil⟩
  | cons node rest ih =>
    rw [Compile.nodes] at h
    obtain ⟨e, w₁, compiled, h⟩ := Compile.run_bind_eq_ok.mp h
    obtain ⟨more, w₂, compiled', h⟩ := Compile.run_bind_eq_ok.mp h
    obtain ⟨rfl, rfl⟩ := Compile.run_pure_eq_ok.mp h
    obtain ⟨f, rfl, rel⟩ := exists_compiled node compiled
    obtain ⟨fs, rfl, rels⟩ := ih compiled'
    exact ⟨f :: fs, rfl, .cons rel rels⟩

end MessageExpr
