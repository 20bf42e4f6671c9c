import MessageExpr.Proofs.Compile
import MessageExpr.Proofs.Node.Unplaced

/-!
# Compiling nodes wherever they stand

A place is looked at only where something fails. So nodes are compiled to the same expressions as
the nodes without their places, or to none if those are not.

## Main results

* `Compile.run_node_unplaced`, `Compile.run_nodes_unplaced` — nodes without their places
-/

namespace MessageExpr

namespace Node

private theorem literalText_unplaced (n : Node) : n.unplaced.literalText = n.literalText := by
  unfold unplaced
  split <;> rfl

theorem literalTexts_unplaced (children : List Node) :
    literalTexts (children.map unplaced) = literalTexts children := by
  simp [literalTexts, Function.comp_def, literalText_unplaced]

end Node

open Node

namespace Compile

variable [PatternLibrary] {α β : Type} {w w' : Workshop}

/-- Two rows of steps succeed alike when their steps do. -/
theorem run_bind_congr {step step' : CompileM α} {next next' : α → CompileM β} {b : β}
    (first : ∀ {w w' a}, step.run w = (.ok a, w') ↔ step'.run w = (.ok a, w'))
    (rest : ∀ {w w' a}, (next a).run w = (.ok b, w') ↔ (next' a).run w = (.ok b, w')) :
    (step >>= next).run w = (.ok b, w') ↔ (step' >>= next').run w = (.ok b, w') := by
  rw [run_bind_eq_ok, run_bind_eq_ok]
  simp only [first, rest]

/-- A function is found, in the cache or by its name, whatever its place. -/
theorem run_function_unplaced {token : Token} {children : List Node} {object : Object Expr} :
    (function token.unplaced (unplacedAll children)).run w = (.ok object, w') ↔
      (function token children).run w = (.ok object, w') := by
  rw [function, function, unplacedAll_eq, literalTexts_unplaced]
  refine run_bind_congr Iff.rfl fun {w w' found} => ?_
  cases found with
  | some object => exact Iff.rfl
  | none =>
    cases Function.ofName? (trimmed (literalTexts children)) with
    | none => exact ⟨nofun, nofun⟩
    | some f => exact Iff.rfl

omit [PatternLibrary] in
private theorem knownPattern?_unplaced (operator : BinaryOperator) (right : Node) :
    knownPattern? operator right.unplaced = knownPattern? operator right := by
  cases right with
  | block form kind token children =>
    rw [unplaced, unplacedAll_eq]
    cases operator <;> cases form <;>
      simp only [knownPattern?, hasFunctions_unplaced, literalTexts_unplaced]
  | _ => cases operator <;> rfl

private theorem pattern?_unplaced (operator : BinaryOperator) (right : Node) :
    pattern? operator right.unplaced = pattern? operator right := by
  rw [pattern?, pattern?, knownPattern?_unplaced]

mutual

/-- A node is compiled to the same expression without its place. -/
theorem run_node_unplaced (n : Node) {w w' : Workshop} {e : Expr} :
    (node n.unplaced).run w = (.ok e, w') ↔ (node n).run w = (.ok e, w') := by
  match n with
  | .literal _ _ | .number _ _ _ | .boolean _ | .null _ =>
    rw [unplaced]
    exact Iff.rfl
  | .block .function _ token children =>
    rw [unplaced, node, node, unplacedAll_eq, hasFunctions_unplaced, ← unplacedAll_eq]
    split
    · exact run_bind_congr (run_nodes_unplaced children) Iff.rfl
    · exact run_bind_congr run_function_unplaced Iff.rfl
  | .block .quote _ _ children =>
    rw [unplaced, node, node, unplacedAll_eq, hasFunctions_unplaced, literalTexts_unplaced,
      ← unplacedAll_eq]
    split
    · exact run_bind_congr (run_nodes_unplaced children) Iff.rfl
    · exact Iff.rfl
  | .closing _ _ _ | .unary _ _ none | .binary _ _ none _ | .binary _ _ (some _) none
  | .logical _ _ none _ | .logical _ _ (some _) none =>
    exact ⟨nofun, nofun⟩
  | .unary _ _ (some operand) =>
    rw [unplaced, unplacedOperand, node, node]
    exact run_bind_congr (run_node_unplaced operand) Iff.rfl
  | .binary operator _ (some left) (some right) =>
    rw [unplaced, unplacedOperand, unplacedOperand, node, node, pattern?_unplaced]
    exact run_bind_congr (run_node_unplaced left)
      (run_bind_congr (run_node_unplaced right) Iff.rfl)
  | .logical operator _ (some left) (some right) =>
    rw [unplaced, unplacedOperand, unplacedOperand, node, node]
    exact run_bind_congr (run_node_unplaced left)
      (run_bind_congr (run_node_unplaced right) Iff.rfl)

/-- Nodes are compiled to the same expressions without their places. -/
theorem run_nodes_unplaced (l : List Node) {w w' : Workshop} {es : List Expr} :
    (nodes (unplacedAll l)).run w = (.ok es, w') ↔ (nodes l).run w = (.ok es, w') := by
  match l with
  | [] => exact Iff.rfl
  | first :: rest =>
    rw [unplacedAll, nodes, nodes]
    exact run_bind_congr (run_node_unplaced first)
      (run_bind_congr (run_nodes_unplaced rest) Iff.rfl)

end

end Compile

end MessageExpr
