import MessageExpr.Proofs.Node.Ordered

/-!
# The texts of nodes in order

The text of a node in the order in which it was written: what an operator takes as its left operand
stands before it, and what it takes as its right operand after it. Linking keeps this order, so it
leaves the text of a list of nodes as it is.

## Main definitions

* `Node.inOrder`, `Node.inOrderAll` — the text of a node, and of nodes

## Main results

* `Node.readsInOrder_inOrder` — linking keeps the order of the text
* `inOrderAll_of_linkUnary` — giving unary operators their operands leaves the text as it is
-/

namespace MessageExpr

namespace Node

mutual

/-- The text of a node in the order in which it was written. -/
def inOrder : Node → String
  | literal _ text => text
  | block _ kind token children =>
    token.text ++ inOrderAll children ++ (blockMarks token kind).2
  | closing _ _ token => token.text
  | unary _ token left => inOrderOperand left ++ token.text
  | binary _ token left right => inOrderOperand left ++ token.text ++ inOrderOperand right
  | logical _ token left right => inOrderOperand left ++ token.text ++ inOrderOperand right
  | number token _ negative => (if negative then "-" else "") ++ token.text
  | boolean token => token.text
  | null token => token.text

/-- The texts of nodes in the order in which they were written. -/
def inOrderAll : List Node → String
  | [] => ""
  | node :: rest => node.inOrder ++ inOrderAll rest

/-- The text of an operand, if there is one. -/
def inOrderOperand : Option Node → String
  | none => ""
  | some node => node.inOrder

end

private theorem toList_inOrderAll (nodes : List Node) :
    (inOrderAll nodes).toList = nodes.flatMap fun n => n.inOrder.toList := by
  induction nodes with
  | nil => rfl
  | cons node rest ih => rw [inOrderAll, String.toList_append, ih, List.flatMap_cons]

/-- The text of an operator with its operands is in order. -/
theorem readsInOrder_inOrder : ReadsInOrder fun n => n.inOrder.toList where
  unary _ _ _ := by simp [inOrder, inOrderOperand]
  binary _ _ _ _ := by simp [inOrder, inOrderOperand]
  logical _ _ _ _ := by simp [inOrder, inOrderOperand]

theorem inOrderAll_congr {nodes nodes' : List Node}
    (same : (nodes.flatMap fun n => n.inOrder.toList) = nodes'.flatMap fun n => n.inOrder.toList) :
    inOrderAll nodes = inOrderAll nodes' := by
  rw [← String.toList_inj, toList_inOrderAll, toList_inOrderAll, same]

end Node

open Node

/-- Giving unary operators their operands leaves the text as it is. -/
theorem inOrderAll_of_linkUnary {nodes linked : List Node} (h : linkUnary nodes = .ok linked) :
    inOrderAll linked = inOrderAll nodes :=
  inOrderAll_congr (flatMap_of_linkUnary readsInOrder_inOrder h)

end MessageExpr
