import MessageExpr.Proofs.Node.WellFormed

/-!
# Linking keeps the order

Linking only moves neighbours into operators: what an operator takes as its left operand stood
before it, and what it takes as its right operand after it. So whatever is read off the nodes of a
list, one after the other, is the same after linking, as long as an operator with its operands gives
what the left operand, the operator alone and the right operand gave.

## Main definitions

* `Node.ReadsInOrder` — what is read off an operator is in the order in which it was written

## Main results

* `flatMap_of_linkUnary`, `flatMap_of_linkBinary`, `flatMap_of_linkLogical` — linking changes
  nothing of what is read off in order
-/

namespace MessageExpr

variable {α : Type} {f : Node → List α} {joint? : Node → Option Joint}
variable {done rest nodes linked : List Node} {groups : List OperatorGroup}

namespace Node

/-- What is read off an operator is in the order in which it was written. -/
structure ReadsInOrder (f : Node → List α) : Prop where
  unary : ∀ operator token left, f (.unary operator token (some left)) =
    f left ++ f (.unary operator token none)
  binary : ∀ operator token left right, f (.binary operator token (some left) (some right)) =
    f left ++ f (.binary operator token none none) ++ f right
  logical : ∀ operator token left right, f (.logical operator token (some left) (some right)) =
    f left ++ f (.logical operator token none none) ++ f right

/-- Operators of a group keep the order when they take their operands. -/
def KeepsOrder (f : Node → List α) (joint? : Node → Option Joint) (n : Node) : Prop :=
  ∀ joint, joint? n = some joint → ∀ left right,
    f (joint.join left right) = f left ++ f n ++ f right

theorem IsReady.keepsOrder_binary {n : Node} (h : n.IsReady groups) (inOrder : ReadsInOrder f) :
    n.KeepsOrder f binaryJoint? := by
  intro joint found left right
  rcases h with formed | bare
  · cases formed <;> cases found
  · cases bare <;> cases found
    exact inOrder.binary ..

theorem IsReady.keepsOrder_logical {n : Node} (h : n.IsReady groups) (inOrder : ReadsInOrder f) :
    n.KeepsOrder f logicalJoint? := by
  intro joint found left right
  rcases h with formed | bare
  · cases formed <;> cases found
  · cases bare <;> cases found
    exact inOrder.logical ..

end Node

open Node

/-- It does not matter whether a node counts as finished or is still ahead. -/
theorem flatMap_reverse_cons (f : Node → List α) (n : Node) (done rest : List Node) :
    (n :: done).reverse.flatMap f ++ rest.flatMap f =
      done.reverse.flatMap f ++ (n :: rest).flatMap f := by
  rw [List.reverse_cons, List.flatMap_append, List.flatMap_singleton, List.flatMap_cons,
    List.append_assoc]

private theorem flatMap_of_linkUnaryAfter (inOrder : ReadsInOrder f)
    (linked : linkUnaryAfter done rest = .ok nodes) :
    nodes.flatMap f = done.reverse.flatMap f ++ rest.flatMap f := by
  fun_induction linkUnaryAfter done rest with
  | case1 done =>
    cases linked
    rw [List.flatMap_nil, List.append_nil]
  | case2 => cases linked
  | case3 operator token rest left done isFunction ih =>
    rw [ih linked, flatMap_reverse_cons, flatMap_reverse_cons]
    simp only [List.flatMap_cons, inOrder.unary, List.append_assoc]
  | case4 => cases linked
  | case5 done node rest _ ih => rw [ih linked, flatMap_reverse_cons]

/-- Giving unary operators their operands changes nothing of what is read off in order. -/
theorem flatMap_of_linkUnary (inOrder : ReadsInOrder f) (h : linkUnary nodes = .ok linked) :
    linked.flatMap f = nodes.flatMap f :=
  flatMap_of_linkUnaryAfter inOrder h

private theorem flatMap_of_linkInfixAfter (keeps : ∀ n ∈ rest, n.KeepsOrder f joint?)
    (linked : linkInfixAfter joint? done rest = .ok nodes) :
    nodes.flatMap f = done.reverse.flatMap f ++ rest.flatMap f := by
  fun_induction linkInfixAfter joint? done rest with
  | case1 done =>
    cases linked
    rw [List.flatMap_nil, List.append_nil]
  | case2 done node rest _ ih =>
    rw [ih (List.forall_mem_cons.mp keeps).2 linked, flatMap_reverse_cons]
  | case3 => cases linked
  | case4 => cases linked
  | case5 => cases linked
  | case6 => cases linked
  | case7 node joint found left done _ right rest _ ih =>
    obtain ⟨head, keeps⟩ := List.forall_mem_cons.mp keeps
    rw [ih (List.forall_mem_cons.mp keeps).2 linked, flatMap_reverse_cons, flatMap_reverse_cons]
    -- The operator with its operands stands where the three of them stood.
    simp only [List.flatMap_cons, head joint found left right, List.append_assoc]

/-- Giving binary operators their operands changes nothing of what is read off in order. -/
theorem flatMap_of_linkBinary (inOrder : ReadsInOrder f) (ready : ∀ n ∈ nodes, n.IsReady groups)
    (h : linkBinary nodes = .ok linked) : linked.flatMap f = nodes.flatMap f :=
  flatMap_of_linkInfixAfter (fun n mem => (ready n mem).keepsOrder_binary inOrder) h

/-- Giving logical operators their operands changes nothing of what is read off in order. -/
theorem flatMap_of_linkLogical (inOrder : ReadsInOrder f) (ready : ∀ n ∈ nodes, n.IsReady groups)
    (h : linkLogical nodes = .ok linked) : linked.flatMap f = nodes.flatMap f :=
  flatMap_of_linkInfixAfter (fun n mem => (ready n mem).keepsOrder_logical inOrder) h

end MessageExpr
