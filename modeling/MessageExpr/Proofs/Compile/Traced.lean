import MessageExpr.Proofs.Compile.Refused
import MessageExpr.Proofs.Node.Traced

/-!
# Problems of compiling

Nodes that were made from some tokens are compiled, whatever was compiled before, or the problem is
at one of these tokens. A pattern that cannot be read is no problem at a place.

## Main results

* `Compile.traced_node` — the expression of a node
* `Compile.traced_expression`, `Compile.traced_predicate` — the object of a list of nodes
-/

namespace MessageExpr.Compile

variable [PatternLibrary] {P : Token → Prop}

/-- A node is compiled, or the problem is at one of the tokens that it was made from. -/
theorem traced_node {n : Node} (h : n.MadeFrom P) : FailsOnly (Problem.IsAt P) (node n) := by
  induction h with
  | literal | number | boolean | null =>
    rw [node]
    exact failsOnly_pure _
  | @block form kind token children start _ ih =>
    have inside := failsOnly_nodes ih
    cases form with
    | function =>
      rw [node]
      split
      · exact inside.bind fun _ => failsOnly_pure _
      · refine FailsOnly.bind (failsOnly_function (fun name => ?_) _) fun _ => failsOnly_pure _
        exact ⟨rfl, token, start, rfl⟩
    | quote =>
      rw [node]
      split
      · exact inside.bind fun _ => failsOnly_pure _
      · exact failsOnly_pure _
  | @closing form kind token start =>
    rw [node]
    exact failsOnly_fail ⟨rfl, token, start, rfl⟩
  | @unary operator token left start _ ih =>
    cases left with
    | none =>
      rw [node]
      exact failsOnly_fail ⟨rfl, token, start, rfl⟩
    | some left =>
      rw [node]
      exact (ih left rfl).bind fun _ => failsOnly_pure _
  | @binary operator token left right start _ _ ihLeft ihRight =>
    cases left with
    | none =>
      rw [node]
      exact failsOnly_fail ⟨rfl, token, start, rfl⟩
    | some left =>
      cases right with
      | none =>
        rw [node]
        exact failsOnly_fail ⟨rfl, token, start, rfl⟩
      | some right =>
        rw [node]
        exact (ihLeft left rfl).bind fun _ => (ihRight right rfl).bind fun _ =>
          (failsOnly_pattern? _ _).bind fun _ => failsOnly_pure _
  | @logical operator token left right start _ _ ihLeft ihRight =>
    cases left with
    | none =>
      rw [node]
      exact failsOnly_fail ⟨rfl, token, start, rfl⟩
    | some left =>
      cases right with
      | none =>
        rw [node]
        exact failsOnly_fail ⟨rfl, token, start, rfl⟩
      | some right =>
        rw [node]
        exact (ihLeft left rfl).bind fun _ => (ihRight right rfl).bind fun _ => failsOnly_pure _

/-- The object of a single node is made, or the problem is at one of its tokens. -/
theorem traced_single {n : Node} (h : n.MadeFrom P) : FailsOnly (Problem.IsAt P) (single n) := by
  have inside := (traced_node h).bind fun e => failsOnly_make e
  unfold single
  split
  · split
    · exact inside
    · exact failsOnly_function (fun name => ⟨rfl, _, h.token, rfl⟩) _
  · exact inside

variable {l : List Node} (h : ∀ n ∈ l, n.MadeFrom P)

include h

/-- The nodes of a template are compiled, or the problem is at one of their tokens. -/
theorem traced_expression : FailsOnly (Problem.IsAt P) (expression l) := by
  unfold expression
  split
  · exact failsOnly_make _
  · exact traced_single (h _ (by simp))
  · exact (failsOnly_nodes fun n mem => traced_node (h n mem)).bind fun _ => failsOnly_make _

/-- The nodes of a condition are compiled, or the problem is at one of their tokens. -/
theorem traced_predicate : FailsOnly (Problem.IsAt P) (predicate l) :=
  (failsOnly_nodes fun n mem => traced_node (h n mem)).bind fun _ => failsOnly_make _

end MessageExpr.Compile
