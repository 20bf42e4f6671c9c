import MessageExpr.Proofs.Node.Beside
import MessageExpr.Proofs.Node.Nested

/-!
# Literals taken apart

Texts next to each other make one literal, so that a text can be in the literals of a list of nodes
in more than one way. With every literal taken apart into its characters only one way is left. This
commutes with linking unary operators, which never have to do with a literal.

## Main definitions

* `Node.spread` — a node without its place, taken apart into characters if it is a literal

## Main results

* `spread_joinText` — putting a text in front
* `linkUnary_spread` — unary operators are linked in the same way
-/

namespace MessageExpr

namespace Node

/-- The literals of the characters of a text. -/
def letters (text : String) : List Node :=
  text.toList.map fun c => plainLiteral (String.singleton c)

/-- The characters of a literal, and any other node without its place. -/
def spread : Node → List Node
  | literal _ text => letters text
  | node => [node.unplaced]

theorem letters_append (s t : String) : letters (s ++ t) = letters s ++ letters t := by
  simp [letters]

private theorem spread_of_isFunction {n : Node} (h : n.isFunction = true) :
    n.spread = [n.unplaced] := by
  unfold isFunction at h
  split at h
  · rfl
  · cases h

private theorem spread_relocated (place : Nat → Nat) (n : Node) :
    (n.relocated place).spread = n.spread := by
  cases n with
  | literal => rfl
  | _ => exact congrArg (fun n => [n]) (unplaced_relocated place _)

theorem flatMap_spread_relocated (place : Nat → Nat) (nodes : List Node) :
    (nodes.map (relocated place)).flatMap spread = nodes.flatMap spread := by
  simp [List.flatMap_map, spread_relocated]

/-- A text in front adds its characters. -/
theorem spread_joinText (token : Token) (nodes : List Node) :
    (joinText token nodes).flatMap spread = letters token.text ++ nodes.flatMap spread := by
  unfold joinText
  split
  · simp [spread, letters_append]
  · simp [spread]

end Node

open Node

/-- Whether a node is a unary operator without its operand. -/
def Node.isBareUnary : Node → Bool
  | unary _ _ none => true
  | _ => false

private theorem isBareUnary_of_mem_spread {n : Node} (notBare : n.isBareUnary = false) :
    ∀ m ∈ n.spread, m.isBareUnary = false := by
  cases n with
  | literal _ text =>
    intro m mem
    obtain ⟨c, -, rfl⟩ := List.mem_map.mp mem
    rfl
  | unary _ _ left =>
    cases left with
    | none => cases notBare
    | some left => simp [spread, unplaced, unplacedOperand, isBareUnary]
  | _ => simp [spread, unplaced, isBareUnary]

/-- Nodes that are no operators are left alone. -/
theorem linkUnaryAfter_of_not_bare {l : List Node} (notBare : ∀ n ∈ l, n.isBareUnary = false)
    (done rest : List Node) :
    linkUnaryAfter done (l ++ rest) = linkUnaryAfter (l.reverse ++ done) rest := by
  induction l generalizing done with
  | nil => rfl
  | cons n l ih =>
    obtain ⟨head, notBare⟩ := List.forall_mem_cons.mp notBare
    rw [List.cons_append, linkUnaryAfter]
    · rw [ih notBare]
      simp
    · rintro operator token rfl
      cases head

private theorem linkUnaryAfter_spread {done rest nodes : List Node}
    (linked : linkUnaryAfter done rest = .ok nodes) :
    linkUnaryAfter (done.reverse.flatMap spread).reverse (rest.flatMap spread) =
      .ok (nodes.flatMap spread) := by
  fun_induction linkUnaryAfter done rest with
  | case1 done =>
    cases linked
    rw [List.flatMap_nil, linkUnaryAfter, List.reverse_reverse]
  | case2 => cases linked
  | case3 operator token rest left before isFunction ih =>
    have same := ih linked
    simp only [List.reverse_cons, List.flatMap_append, List.flatMap_cons, List.flatMap_nil,
      List.append_nil, spread_of_isFunction isFunction, List.reverse_append] at same ⊢
    simpa [spread, unplaced, unplacedOperand, linkUnaryAfter, isFunction_unplaced, isFunction]
      using same
  | case4 => cases linked
  | case5 done n rest notBare ih =>
    have plain : n.isBareUnary = false := by
      unfold isBareUnary
      split
      · exact (notBare _ _ rfl).elim
      · rfl
    have same := ih linked
    rw [List.reverse_cons, List.flatMap_append, List.reverse_append, List.flatMap_singleton] at same
    rwa [List.flatMap_cons, linkUnaryAfter_of_not_bare (isBareUnary_of_mem_spread plain)]

/-- Unary operators are linked in the same way when literals are taken apart. -/
theorem linkUnary_spread {flat nodes : List Node} (linked : linkUnary flat = .ok nodes) :
    linkUnary (flat.flatMap spread) = .ok (nodes.flatMap spread) :=
  linkUnaryAfter_spread linked

end MessageExpr
