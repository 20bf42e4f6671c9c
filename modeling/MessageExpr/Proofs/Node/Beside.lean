import MessageExpr.Proofs.Node.Unplaced
import MessageExpr.Proofs.Node.WellFormed
import MessageExpr.Proofs.Token.Beside

/-!
# Linking nodes side by side

When two lists of nodes can be linked each for itself, they can be linked side by side: no operator
of the first list is left without its right operand, so none takes a node of the second list, and
an operator of the second list finds its left operand there. Places do not matter for this.

## Main definitions

* `Node.shifted`, `Node.relocated` — a node at a later place, and at any other one

## Main results

* `linkUnary_append`, `linkInfix_append` — lists side by side are linked each for itself
* `linkUnary_relocated`, `linkBinary_relocated`, `linkLogical_relocated` — nodes at other places are
  linked in the same way
* `not_isBare_getLast?` — what can be linked does not end with an operator without operands
-/

namespace MessageExpr

/-! ## Nodes at other places -/

namespace Node

mutual

/-- The node at a later place. -/
def shifted (offset : Nat) : Node → Node
  | literal token text => literal (token.shifted offset) text
  | block form kind token children =>
    block form kind (token.shifted offset) (shiftedAll offset children)
  | closing form kind token => closing form kind (token.shifted offset)
  | unary operator token left =>
    unary operator (token.shifted offset) (shiftedOperand offset left)
  | binary operator token left right =>
    binary operator (token.shifted offset) (shiftedOperand offset left)
      (shiftedOperand offset right)
  | logical operator token left right =>
    logical operator (token.shifted offset) (shiftedOperand offset left)
      (shiftedOperand offset right)
  | number token value negative => number (token.shifted offset) value negative
  | boolean token => boolean (token.shifted offset)
  | null token => null (token.shifted offset)

/-- Nodes at later places. -/
def shiftedAll (offset : Nat) : List Node → List Node
  | [] => []
  | node :: rest => node.shifted offset :: shiftedAll offset rest

/-- An operand at a later place. -/
def shiftedOperand (offset : Nat) : Option Node → Option Node
  | none => none
  | some node => some (node.shifted offset)

end

mutual

/-- The node with every place mapped to another one. -/
def relocated (place : Nat → Nat) : Node → Node
  | literal token text => literal (token.relocated place) text
  | block form kind token children =>
    block form kind (token.relocated place) (relocatedAll place children)
  | closing form kind token => closing form kind (token.relocated place)
  | unary operator token left =>
    unary operator (token.relocated place) (relocatedOperand place left)
  | binary operator token left right =>
    binary operator (token.relocated place) (relocatedOperand place left)
      (relocatedOperand place right)
  | logical operator token left right =>
    logical operator (token.relocated place) (relocatedOperand place left)
      (relocatedOperand place right)
  | number token value negative => number (token.relocated place) value negative
  | boolean token => boolean (token.relocated place)
  | null token => null (token.relocated place)

/-- Nodes with every place mapped to another one. -/
def relocatedAll (place : Nat → Nat) : List Node → List Node
  | [] => []
  | node :: rest => node.relocated place :: relocatedAll place rest

/-- An operand with every place mapped to another one. -/
def relocatedOperand (place : Nat → Nat) : Option Node → Option Node
  | none => none
  | some node => some (node.relocated place)

end

theorem relocatedAll_eq (place : Nat → Nat) (nodes : List Node) :
    relocatedAll place nodes = nodes.map (relocated place) := by
  induction nodes with
  | nil => rw [relocatedAll, List.map_nil]
  | cons node rest ih => rw [relocatedAll, ih, List.map_cons]

mutual

private theorem shifted_eq (offset : Nat) (n : Node) :
    n.shifted offset = n.relocated (· + offset) := by
  match n with
  | literal _ _ | closing _ _ _ | number _ _ _ | boolean _ | null _ => rfl
  | block _ _ _ children =>
    rw [shifted, relocated, shiftedAll_eq offset children]
    rfl
  | unary _ _ left =>
    rw [shifted, relocated, shiftedOperand_eq offset left]
    rfl
  | binary _ _ left right =>
    rw [shifted, relocated, shiftedOperand_eq offset left, shiftedOperand_eq offset right]
    rfl
  | logical _ _ left right =>
    rw [shifted, relocated, shiftedOperand_eq offset left, shiftedOperand_eq offset right]
    rfl

theorem shiftedAll_eq (offset : Nat) (nodes : List Node) :
    shiftedAll offset nodes = relocatedAll (· + offset) nodes := by
  match nodes with
  | [] => rfl
  | node :: rest => rw [shiftedAll, relocatedAll, shifted_eq offset node, shiftedAll_eq offset rest]

theorem shiftedOperand_eq (offset : Nat) (operand : Option Node) :
    shiftedOperand offset operand = relocatedOperand (· + offset) operand := by
  match operand with
  | none => rfl
  | some node => rw [shiftedOperand, relocatedOperand, shifted_eq offset node]

end

/-- To be at a later place is one way of being at another place. -/
theorem shifted_eq_relocated (offset : Nat) : shifted offset = relocated (· + offset) :=
  funext (shifted_eq offset)

variable {place : Nat → Nat}

mutual

/-- Nodes at different places are the same but for their places. -/
theorem unplaced_relocated (place : Nat → Nat) (n : Node) :
    (n.relocated place).unplaced = n.unplaced := by
  match n with
  | literal _ _ | closing _ _ _ | number _ _ _ | boolean _ | null _ => rfl
  | block _ _ _ children =>
    rw [relocated, unplaced, unplaced, unplacedAll_relocatedAll place children]
    rfl
  | unary _ _ left =>
    rw [relocated, unplaced, unplaced, unplacedOperand_relocatedOperand place left]
    rfl
  | binary _ _ left right =>
    rw [relocated, unplaced, unplaced, unplacedOperand_relocatedOperand place left,
      unplacedOperand_relocatedOperand place right]
    rfl
  | logical _ _ left right =>
    rw [relocated, unplaced, unplaced, unplacedOperand_relocatedOperand place left,
      unplacedOperand_relocatedOperand place right]
    rfl

theorem unplacedAll_relocatedAll (place : Nat → Nat) (nodes : List Node) :
    unplacedAll (relocatedAll place nodes) = unplacedAll nodes := by
  match nodes with
  | [] => rfl
  | node :: rest =>
    rw [relocatedAll, unplacedAll, unplacedAll, unplaced_relocated place node,
      unplacedAll_relocatedAll place rest]

theorem unplacedOperand_relocatedOperand (place : Nat → Nat) (operand : Option Node) :
    unplacedOperand (relocatedOperand place operand) = unplacedOperand operand := by
  match operand with
  | none => rfl
  | some node =>
    rw [relocatedOperand, unplacedOperand, unplacedOperand, unplaced_relocated place node]

end

theorem unplaced_shifted (offset : Nat) (n : Node) : (n.shifted offset).unplaced = n.unplaced := by
  rw [shifted_eq, unplaced_relocated]

private theorem isFunction_relocated (n : Node) :
    (n.relocated place).isFunction = n.isFunction := by
  rw [← isFunction_unplaced, unplaced_relocated, isFunction_unplaced]

private theorem parameter?_relocated (n : Node) :
    (n.relocated place).parameter? = n.parameter? := by
  rw [← parameter?_unplaced, unplaced_relocated, parameter?_unplaced]

private theorem isComparison_relocated (n : Node) :
    (n.relocated place).isComparison = n.isComparison := by
  rw [← isComparison_unplaced, unplaced_relocated, isComparison_unplaced]

private theorem isClosing_relocated (n : Node) : (n.relocated place).isClosing = n.isClosing := by
  rw [← isClosing_unplaced, unplaced_relocated, isClosing_unplaced]

end Node

open Node

private theorem linkUnaryAfter_relocated (place : Nat → Nat) {done rest nodes : List Node}
    (linked : linkUnaryAfter done rest = .ok nodes) :
    linkUnaryAfter (done.map (relocated place)) (rest.map (relocated place)) =
      .ok (nodes.map (relocated place)) := by
  fun_induction linkUnaryAfter done rest with
  | case1 done =>
    cases linked
    rw [List.map_nil, linkUnaryAfter, List.map_reverse]
  | case2 => cases linked
  | case3 operator token rest left before isFunction ih =>
    simp only [List.map_cons, relocated, relocatedOperand, linkUnaryAfter, isFunction_relocated,
      isFunction, if_true]
    simpa only [List.map_cons, relocated, relocatedOperand] using ih linked
  | case4 => cases linked
  | case5 done node rest notBare ih =>
    rw [List.map_cons, linkUnaryAfter]
    · exact ih linked
    · intro operator token same
      cases node with
      | unary operator' token' left =>
        cases left with
        | none => exact notBare operator' token' rfl
        | some left => cases same
      | _ => cases same

theorem linkUnary_relocated (place : Nat → Nat) {flat nodes : List Node}
    (h : linkUnary flat = .ok nodes) :
    linkUnary (flat.map (relocated place)) = .ok (nodes.map (relocated place)) :=
  linkUnaryAfter_relocated place h

private theorem linkInfixAfter_changed {change : Node → Node} {joint? : Node → Option Joint}
    (ignores : IgnoresPlaces change joint?) {done rest nodes : List Node}
    (linked : linkInfixAfter joint? done rest = .ok nodes) :
    linkInfixAfter joint? (done.map change) (rest.map change) = .ok (nodes.map change) := by
  fun_induction linkInfixAfter joint? done rest with
  | case1 done =>
    cases linked
    rw [List.map_nil, linkInfixAfter, List.map_reverse]
  | case2 done node rest found ih =>
    rw [List.map_cons, linkInfixAfter, ignores.none found]
    exact ih linked
  | case3 => cases linked
  | case4 => cases linked
  | case5 => cases linked
  | case6 => cases linked
  | case7 node joint found left before allowed right rest allowed' ih =>
    obtain ⟨joint', found', sameLeft, sameRight, joins⟩ := ignores.some found
    simp only [List.map_cons, linkInfixAfter, found', sameLeft, sameRight, allowed, allowed', joins]
    exact ih linked

private theorem ignoresPlaces_relocated_binaryJoint? (place : Nat → Nat) :
    IgnoresPlaces (relocated place) Node.binaryJoint? where
  none := by
    intro n found
    unfold relocated
    split <;> try rfl
    rename_i left _
    cases left with
    | none => cases found
    | some left => rfl
  some := by
    intro n joint found
    unfold Node.binaryJoint? at found
    split at found <;> cases found
    refine ⟨_, rfl, ?_, ?_, fun _ _ => rfl⟩
    · intro left
      simp only [parameter?_relocated, isComparison_relocated]
    · intro right
      simp only [parameter?_relocated]

theorem linkBinary_relocated (place : Nat → Nat) {flat nodes : List Node}
    (h : linkBinary flat = .ok nodes) :
    linkBinary (flat.map (relocated place)) = .ok (nodes.map (relocated place)) :=
  linkInfixAfter_changed (ignoresPlaces_relocated_binaryJoint? place) h

private theorem ignoresPlaces_relocated_logicalJoint? (place : Nat → Nat) :
    IgnoresPlaces (relocated place) Node.logicalJoint? where
  none := by
    intro n found
    unfold relocated
    split <;> try rfl
    rename_i left _
    cases left with
    | none => cases found
    | some left => rfl
  some := by
    intro n joint found
    unfold Node.logicalJoint? at found
    split at found <;> cases found
    refine ⟨_, rfl, ?_, ?_, fun _ _ => rfl⟩ <;>
      (intro operand; simp only [isClosing_relocated])

theorem linkLogical_relocated (place : Nat → Nat) {flat nodes : List Node}
    (h : linkLogical flat = .ok nodes) :
    linkLogical (flat.map (relocated place)) = .ok (nodes.map (relocated place)) :=
  linkInfixAfter_changed (ignoresPlaces_relocated_logicalJoint? place) h

/-! ## Nodes side by side -/

/-- Linking goes on where it has come to with the first nodes. -/
theorem linkUnaryAfter_append {done rest nodes : List Node}
    (linked : linkUnaryAfter done rest = .ok nodes) (more : List Node) :
    linkUnaryAfter done (rest ++ more) = linkUnaryAfter nodes.reverse more := by
  fun_induction linkUnaryAfter done rest with
  | case1 done =>
    cases linked
    rw [List.nil_append, List.reverse_reverse]
  | case2 => cases linked
  | case3 operator token rest left before isFunction ih =>
    rw [List.cons_append, linkUnaryAfter]
    simp only [isFunction, if_true]
    exact ih linked
  | case4 => cases linked
  | case5 done node rest notBare ih =>
    rw [List.cons_append, linkUnaryAfter]
    · exact ih linked
    · exact notBare

/-- What is finished before does not matter where linking succeeds without it. -/
theorem linkUnaryAfter_append_done {done rest nodes : List Node}
    (linked : linkUnaryAfter done rest = .ok nodes) (earlier : List Node) :
    linkUnaryAfter (done ++ earlier) rest = .ok (earlier.reverse ++ nodes) := by
  fun_induction linkUnaryAfter done rest with
  | case1 done =>
    cases linked
    rw [linkUnaryAfter, List.reverse_append]
  | case2 => cases linked
  | case3 operator token rest left before isFunction ih =>
    rw [List.cons_append, linkUnaryAfter]
    simp only [isFunction, if_true]
    exact ih linked
  | case4 => cases linked
  | case5 done node rest notBare ih =>
    rw [linkUnaryAfter]
    · exact ih linked
    · exact notBare

/-- Unary operators of lists side by side are linked in each list for itself. -/
theorem linkUnary_append {front back nodes nodes' : List Node} (h : linkUnary front = .ok nodes)
    (h' : linkUnary back = .ok nodes') : linkUnary (front ++ back) = .ok (nodes ++ nodes') := by
  have rest := linkUnaryAfter_append_done h' nodes.reverse
  rw [List.nil_append, List.reverse_reverse] at rest
  exact (linkUnaryAfter_append h back).trans rest

section Infix

variable {joint? : Node → Option Joint} {done rest nodes : List Node}

/-- Linking goes on where it has come to with the first nodes. -/
theorem linkInfixAfter_append (linked : linkInfixAfter joint? done rest = .ok nodes)
    (more : List Node) :
    linkInfixAfter joint? done (rest ++ more) = linkInfixAfter joint? nodes.reverse more := by
  fun_induction linkInfixAfter joint? done rest with
  | case1 done =>
    cases linked
    rw [List.nil_append, List.reverse_reverse]
  | case2 done node rest found ih =>
    rw [List.cons_append, linkInfixAfter, found]
    exact ih linked
  | case3 => cases linked
  | case4 => cases linked
  | case5 => cases linked
  | case6 => cases linked
  | case7 node joint found left before allowed right rest allowed' ih =>
    rw [List.cons_append, List.cons_append, linkInfixAfter, found]
    simp only [allowed, allowed']
    exact ih linked

/-- What is finished before does not matter where linking succeeds without it. -/
theorem linkInfixAfter_append_done (linked : linkInfixAfter joint? done rest = .ok nodes)
    (earlier : List Node) :
    linkInfixAfter joint? (done ++ earlier) rest = .ok (earlier.reverse ++ nodes) := by
  fun_induction linkInfixAfter joint? done rest with
  | case1 done =>
    cases linked
    rw [linkInfixAfter, List.reverse_append]
  | case2 done node rest found ih =>
    rw [linkInfixAfter, found]
    exact ih linked
  | case3 => cases linked
  | case4 => cases linked
  | case5 => cases linked
  | case6 => cases linked
  | case7 node joint found left before allowed right rest allowed' ih =>
    rw [List.cons_append, linkInfixAfter, found]
    simp only [allowed, allowed']
    exact ih linked

/-- Operators of a group in lists side by side are linked in each list for itself. -/
theorem linkInfix_append {front back nodes nodes' : List Node}
    (h : linkInfix joint? front = .ok nodes) (h' : linkInfix joint? back = .ok nodes') :
    linkInfix joint? (front ++ back) = .ok (nodes ++ nodes') := by
  have rest := linkInfixAfter_append_done h' nodes.reverse
  rw [List.nil_append, List.reverse_reverse] at rest
  exact (linkInfixAfter_append h back).trans rest

/-! ## The last node -/

/-- The last node is left where it is, unless an operator takes it. -/
theorem getLast?_of_linkInfixAfter (linked : linkInfixAfter joint? done rest = .ok nodes) {n : Node}
    (last : rest.getLast? = some n)
    (refuses : ∀ m joint, [m, n] <:+ rest → joint? m = some joint → joint.allowsRight n = false) :
    joint? n = none ∧ nodes.getLast? = some n := by
  fun_induction linkInfixAfter joint? done rest with
  | case1 => cases last
  | case2 done node rest found ih =>
    cases rest with
    | nil =>
      obtain rfl : node = n := by simpa using last
      rw [linkInfixAfter] at linked
      cases linked
      exact ⟨found, by simp⟩
    | cons after rest =>
      refine ih linked (by simpa using last) fun m joint suffix => ?_
      exact refuses m joint (suffix.trans (List.suffix_cons _ _))
  | case3 => cases linked
  | case4 => cases linked
  | case5 => cases linked
  | case6 => cases linked
  | case7 node joint found left before _ right rest allowed' ih =>
    cases rest with
    | nil =>
      obtain rfl : right = n := by simpa using last
      have refused := refuses node joint List.suffix_rfl found
      exact absurd refused (by simpa using allowed')
    | cons after rest =>
      refine ih linked (by simpa using last) fun m joint suffix => ?_
      exact refuses m joint (suffix.trans
        ((List.suffix_cons _ _).trans (List.suffix_cons _ _)))

end Infix

/-- Linking unary operators leaves the last node where it is, unless it is one of them. -/
theorem getLast?_of_linkUnaryAfter {done rest nodes : List Node}
    (linked : linkUnaryAfter done rest = .ok nodes) {n : Node} (last : rest.getLast? = some n)
    (other : ∀ operator token, n ≠ .unary operator token none) : nodes.getLast? = some n := by
  fun_induction linkUnaryAfter done rest with
  | case1 => cases last
  | case2 => cases linked
  | case3 operator token rest left before _ ih =>
    cases rest with
    | nil => exact absurd (by simpa using last.symm) (other operator token)
    | cons after rest => exact ih linked (by simpa using last)
  | case4 => cases linked
  | case5 done node rest _ ih =>
    cases rest with
    | nil =>
      obtain rfl : node = n := by simpa using last
      rw [linkUnaryAfter] at linked
      cases linked
      simp
    | cons after rest => exact ih linked (by simpa using last)

/-- A comparison or a logical operator without operands is no right operand of a comparison. -/
theorem allowsRight_binaryJoint? {m n : Node} {joint : Joint} (bare : n.IsBare [.binary, .logical])
    (found : binaryJoint? m = some joint) : joint.allowsRight n = false := by
  unfold binaryJoint? at found
  split at found <;> cases found
  cases bare with
  | unary mem => exact absurd mem (by decide)
  | binary | logical => rfl

/-- What can be linked does not end with an operator that lacks its right operand. -/
theorem not_isBare_getLast? {flat unary binary nodes : List Node} (apart : Apart flat)
    (linkedUnary : linkUnary flat = .ok unary) (linkedBinary : linkBinary unary = .ok binary)
    (linkedLogical : linkLogical binary = .ok nodes) :
    ∀ n ∈ flat.getLast?, ¬n.IsBare [.binary, .logical] := by
  intro n last bare
  have other : ∀ operator token, n ≠ .unary operator token none := by
    rintro operator token rfl
    cases bare with
    | unary mem => exact absurd mem (by decide)
  have lastUnary := getLast?_of_linkUnaryAfter linkedUnary last other
  obtain ⟨notBinary, lastBinary⟩ := getLast?_of_linkInfixAfter linkedBinary lastUnary
    fun m joint _ found => allowsRight_binaryJoint? bare found
  have apartBinary := apart_of_linkBinary (apart_of_linkUnary apart linkedUnary) linkedBinary
  cases bare with
  | unary mem => exact absurd mem (by decide)
  | binary => cases notBinary
  | logical =>
    obtain ⟨notLogical, -⟩ := getLast?_of_linkInfixAfter linkedLogical lastBinary
      fun m joint suffix found => by
        -- No two logical operators stand side by side, so that none takes another one.
        have gap := (List.isChain_cons_cons.mp (List.IsChain.suffix apartBinary suffix)).1
        have isLogical : m.isLogical = true := by
          unfold logicalJoint? at found
          split at found <;> cases found
          rfl
        cases gap isLogical
    cases notLogical

end MessageExpr
