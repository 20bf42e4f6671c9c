import MessageExpr.Proofs.Compile.Places
import MessageExpr.Proofs.Compile.Steady
import MessageExpr.Proofs.Node.Beside

/-!
# Compiling nodes side by side

Nodes that can be compiled are compiled to the same expressions at later places. Lists of nodes side
by side are compiled to the expressions of the one and of the other.

## Main results

* `Compile.plain_nodes_eq_ok_iff` — nodes that differ in their places only
* `Compile.plain_nodes_beside` — lists of nodes side by side
-/

namespace MessageExpr

variable [PatternLibrary]

open Node

namespace Compile

/-- Nodes are compiled to the same expressions without their places, or to none. -/
theorem plain_nodes_unplacedAll {l : List Node} {es : List Expr} :
    plain (nodes (unplacedAll l)) = .ok es ↔ plain (nodes l) = .ok es := by
  have run (l : List Node) :
      plain (nodes l) = .ok es ↔ ∃ w, (nodes l).run ⟨none, 0⟩ = (.ok es, w) :=
    ⟨fun h => ⟨_, Prod.ext h rfl⟩, fun ⟨_, h⟩ => congrArg Prod.fst h⟩
  simp only [run, run_nodes_unplaced]

/-- Nodes that are the same but for their places are compiled to the same expressions. -/
theorem plain_nodes_eq_ok_iff {l l' : List Node} (same : l.map unplaced = l'.map unplaced)
    {es : List Expr} : plain (nodes l) = .ok es ↔ plain (nodes l') = .ok es := by
  rw [← plain_nodes_unplacedAll, unplacedAll_eq, same, ← unplacedAll_eq, plain_nodes_unplacedAll]

/-- Lists of nodes that can be compiled are compiled side by side to the expressions of the one
followed by those of the other, where the other ones stand at later places. -/
theorem plain_nodes_beside (offset : Nat) {l l' : List Node} {es es' : List Expr}
    (h : plain (nodes l) = .ok es) (h' : plain (nodes l') = .ok es') :
    plain (nodes (l ++ l'.map (shifted offset))) = .ok (es ++ es') := by
  have same : (l'.map (shifted offset)).map unplaced = l'.map unplaced := by
    simp [unplaced_shifted]
  rw [plain_nodes_append, h, (plain_nodes_eq_ok_iff same).mpr h']
  rfl

end Compile

end MessageExpr
