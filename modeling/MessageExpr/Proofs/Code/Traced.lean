import MessageExpr.Code
import MessageExpr.Proofs.Node.Traced

/-!
# Problems of writing code

Nodes that were made from some tokens are written as code, or the problem is at one of these tokens.

## Main results

* `Code.traced_value` — the code of a node
* `Code.traced_ofExpression`, `Code.traced_ofPredicate` — the code of a list of nodes
-/

namespace MessageExpr.Code

variable {P : Token → Prop} {wrap : String → String}

private theorem traced_ofFunctionNode {token : Token} (h : P token) (node : Node)
    (children : List Node) :
    Traced P (fun _ => True) (ofFunctionNode node token children) := by
  unfold ofFunctionNode
  split
  · exact ⟨rfl, token, h, rfl⟩
  · simp only
    split
    · trivial
    · exact ⟨rfl, token, h, rfl⟩

private theorem traced_pieces {children : List Node}
    (h : ∀ c ∈ children, Traced P (fun _ => True) (value wrap c)) :
    Traced P (fun _ => True) (pieces wrap children) := by
  induction children with
  | nil =>
    rw [pieces]
    trivial
  | cons child rest ih =>
    obtain ⟨head, others⟩ := List.forall_mem_cons.mp h
    have tail := ih others
    rw [pieces.eq_def]
    split
    · trivial
    · rename_i same
      obtain ⟨rfl, rfl⟩ := List.cons.inj same
      exact tail.bind fun _ _ => trivial
    · rename_i same
      obtain ⟨rfl, rfl⟩ := List.cons.inj same
      exact head.bind fun _ _ => tail.bind fun _ _ => trivial

/-- A node is written, or the problem is at one of the tokens that it was made from. -/
theorem traced_value {n : Node} (h : n.MadeFrom P) :
    Traced P (fun _ => True) (value wrap n) := by
  induction h with
  | literal | number | boolean | null =>
    rw [value]
    trivial
  | @block form kind token children start _ ih =>
    cases form with
    | function =>
      rw [value]
      exact traced_ofFunctionNode start _ _
    | quote =>
      rw [value]
      split
      · exact (traced_pieces ih).bind fun _ _ => trivial
      · trivial
  | @closing form kind token start =>
    rw [value]
    exact ⟨rfl, token, start, rfl⟩
  | @unary operator token left start _ ih =>
    cases left with
    | none =>
      rw [value]
      exact ⟨rfl, token, start, rfl⟩
    | some left =>
      rw [value]
      exact (ih left rfl).bind fun _ _ => trivial
  | @binary operator token left right start _ _ ihLeft ihRight
  | @logical operator token left right start _ _ ihLeft ihRight =>
    cases left with
    | none =>
      rw [value]
      exact ⟨rfl, token, start, rfl⟩
    | some left =>
      cases right with
      | none =>
        rw [value]
        exact ⟨rfl, token, start, rfl⟩
      | some right =>
        rw [value]
        exact (ihLeft left rfl).bind fun _ _ => (ihRight right rfl).bind fun _ _ => trivial

private theorem traced_mapM {α β : Type} {f : α → Except Problem β} {l : List α}
    (h : ∀ a ∈ l, Traced P (fun _ => True) (f a)) : Traced P (fun _ => True) (l.mapM f) := by
  cases made : l.mapM f with
  | ok bs => trivial
  | error p =>
    obtain ⟨a, mem, failed⟩ := mapM_eq_error made
    exact (h a mem).of_error failed

variable {nodes : List Node} (h : ∀ n ∈ nodes, n.MadeFrom P)

include h

/-- The nodes of a template are written, or the problem is at one of their tokens. -/
theorem traced_ofExpression : Traced P (fun _ => True) (ofExpression nodes) := by
  have code : Traced P (fun _ => True) (templateCode marked nodes) := by
    unfold templateCode
    split
    · trivial
    · exact (traced_mapM fun n mem => traced_value (h n mem)).bind fun _ _ => trivial
  exact code.map fun _ _ => trivial

/-- The nodes of a condition are written, or the problem is at one of their tokens. -/
theorem traced_ofPredicate : Traced P (fun _ => True) (ofPredicate nodes) := by
  have code : Traced P (fun _ => True) (clausesCode marked nodes) := by
    unfold clausesCode
    split
    · trivial
    · refine (traced_mapM fun n mem => ?_).bind fun _ _ => trivial
      exact (traced_value (h n mem)).map fun _ _ => trivial
  exact code.map fun _ _ => trivial

end MessageExpr.Code
