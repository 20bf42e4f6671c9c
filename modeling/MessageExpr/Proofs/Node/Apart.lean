import MessageExpr.Node.Link
import MessageExpr.Proofs.Except
import Mathlib.Data.List.Chain

/-!
# Logical operators apart

In the nodes of a condition no two logical operators stand side by side, and linking the other
operators does not change that: what it puts in is never a logical operator.

## Main definitions

* `Apart` — nodes with no two logical operators side by side

## Main results

* `Apart.replace` — putting in another node for some nodes keeps logical operators apart
* `apart_of_linkUnary`, `apart_of_linkBinary` — so does linking
-/

namespace MessageExpr

/-- Whether a node is a logical operator. -/
def Node.isLogical : Node → Bool
  | logical _ _ _ _ => true
  | _ => false

/-- No two logical operators stand side by side. -/
def Apart (nodes : List Node) : Prop :=
  nodes.IsChain fun node after => node.isLogical = true → after.isLogical = false

variable {nodes nodes' : List Node}

section

variable {p : Node → Bool}

/-- Putting in a node of another kind for some nodes keeps the nodes of a kind apart. -/
theorem isChain_replace {front middle back : List Node}
    (h : (front ++ middle ++ back).IsChain fun node after => p node = true → p after = false)
    {n : Node} (plain : p n = false) :
    (front ++ n :: back).IsChain fun node after => p node = true → p after = false := by
  obtain ⟨both, back', -⟩ := List.isChain_append.mp h
  have front' := (List.isChain_append.mp both).1
  refine List.isChain_append.mpr ⟨front', back'.cons ?_, ?_⟩
  · intro after _ isKind
    rw [plain] at isKind
    cases isKind
  · intro before _ after mem _
    cases mem
    exact plain

/-- Linking the unary operators keeps the nodes of another kind apart. -/
theorem isChain_of_linkUnaryAfter
    (plain : ∀ operator token left, p (.unary operator token left) = false) {done rest : List Node}
    (h : (done.reverse ++ rest).IsChain fun node after => p node = true → p after = false)
    (linked : linkUnaryAfter done rest = .ok nodes) :
    nodes.IsChain fun node after => p node = true → p after = false := by
  fun_induction linkUnaryAfter done rest with
  | case1 done =>
    cases linked
    simpa using h
  | case2 => cases linked
  | case3 operator token rest left before _ ih =>
    -- An operator and its operand become one node, which is of another kind.
    refine ih ?_ linked
    have here : (before.reverse ++ [left, .unary operator token none] ++ rest).IsChain
        fun node after => p node = true → p after = false := by simpa using h
    simpa using isChain_replace here (plain operator token (some left))
  | case4 => cases linked
  | case5 done node rest _ ih => exact ih (by simpa using h) linked

theorem isChain_of_linkUnary
    (plain : ∀ operator token left, p (.unary operator token left) = false)
    (h : nodes.IsChain fun node after => p node = true → p after = false)
    (linked : linkUnary nodes = .ok nodes') :
    nodes'.IsChain fun node after => p node = true → p after = false :=
  isChain_of_linkUnaryAfter plain (by simpa using h) linked

end

/-- Putting in another node for some nodes keeps logical operators apart. -/
theorem Apart.replace {front middle back : List Node} (h : Apart (front ++ middle ++ back))
    {n : Node} (plain : n.isLogical = false) : Apart (front ++ n :: back) :=
  isChain_replace h plain

/-! ## Linking -/

theorem apart_of_linkUnary (h : Apart nodes) (linked : linkUnary nodes = .ok nodes') :
    Apart nodes' :=
  isChain_of_linkUnary (p := Node.isLogical) (fun _ _ _ => rfl) h linked

private theorem apart_of_linkInfixAfter {joint? : Node → Option Joint}
    (plain : ∀ {n joint}, joint? n = some joint → ∀ left right,
      (joint.join left right).isLogical = false) {done rest : List Node}
    (h : Apart (done.reverse ++ rest)) (linked : linkInfixAfter joint? done rest = .ok nodes) :
    Apart nodes := by
  fun_induction linkInfixAfter joint? done rest with
  | case1 done =>
    cases linked
    simpa using h
  | case2 done node rest found ih => exact ih (by simpa using h) linked
  | case3 => cases linked
  | case4 => cases linked
  | case5 => cases linked
  | case6 => cases linked
  | case7 node joint found left before _ right rest _ ih =>
    have here : Apart (before.reverse ++ [left, node, right] ++ rest) := by simpa using h
    exact ih (by simpa using here.replace (plain found left right)) linked

theorem apart_of_linkBinary (h : Apart nodes) (linked : linkBinary nodes = .ok nodes') :
    Apart nodes' := by
  refine apart_of_linkInfixAfter ?_ (by simpa using h) linked
  intro n joint found left right
  unfold Node.binaryJoint? at found
  split at found <;> cases found
  rfl

end MessageExpr
