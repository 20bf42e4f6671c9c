import MessageExpr.Proofs.Node.Apart

/-!
# Nodes without their places

Two texts can stand for the same nodes at different places. Leaving out the places of tokens
commutes with linking operators: no step of it looks at them, except to report a problem.

## Main definitions

* `Node.unplaced` — a node with all its tokens at the start of the text. A literal is known by its
  text, so its token, which is only the first of those that it was made from, is left out.

## Main results

* `linkUnary_of_unplaced`, `linkBinary_of_unplaced`, `linkLogical_of_unplaced` — nodes are linked
  in the same way as without their places
-/

namespace MessageExpr

/-- A token moved to the start of the text. -/
def Token.unplaced (token : Token) : Token := ⟨token.kind, token.text, 0, 0⟩

namespace Node

/-- The literal of a text, without a place. -/
def plainLiteral (text : String) : Node := .literal ⟨.character, text, 0, 0⟩ text

mutual

/-- The node without the places of its tokens. -/
def unplaced : Node → Node
  | literal _ text => plainLiteral text
  | block form kind token children => block form kind token.unplaced (unplacedAll children)
  | closing form kind token => closing form kind token.unplaced
  | unary operator token left => unary operator token.unplaced (unplacedOperand left)
  | binary operator token left right =>
    binary operator token.unplaced (unplacedOperand left) (unplacedOperand right)
  | logical operator token left right =>
    logical operator token.unplaced (unplacedOperand left) (unplacedOperand right)
  | number token value negative => number token.unplaced value negative
  | boolean token => boolean token.unplaced
  | null token => null token.unplaced

/-- Nodes without the places of their tokens. -/
def unplacedAll : List Node → List Node
  | [] => []
  | node :: rest => node.unplaced :: unplacedAll rest

/-- An operand without the places of its tokens. -/
def unplacedOperand : Option Node → Option Node
  | none => none
  | some node => some node.unplaced

end

theorem unplacedAll_eq (nodes : List Node) : unplacedAll nodes = nodes.map unplaced := by
  induction nodes with
  | nil => rw [unplacedAll, List.map_nil]
  | cons node rest ih => rw [unplacedAll, ih, List.map_cons]

theorem isFunction_unplaced (n : Node) : n.unplaced.isFunction = n.isFunction := by
  unfold unplaced
  split <;> first | rfl | (rename_i form _ _ _; cases form <;> rfl)

theorem hasFunctions_unplaced (nodes : List Node) :
    hasFunctions (nodes.map unplaced) = hasFunctions nodes := by
  simp [hasFunctions, List.any_map, Function.comp_def, isFunction_unplaced]

theorem parameter?_unplaced (n : Node) : n.unplaced.parameter? = n.parameter? := by
  unfold unplaced
  split
  case h_2 form kind token children =>
    cases form with
    | function => rfl
    | quote => simp only [parameter?, unplacedAll_eq, hasFunctions_unplaced]
  all_goals rfl

theorem isComparison_unplaced (n : Node) : n.unplaced.isComparison = n.isComparison := by
  unfold unplaced
  split <;> rfl

theorem isClosing_unplaced (n : Node) : n.unplaced.isClosing = n.isClosing := by
  unfold unplaced
  split <;> rfl

end Node

open Node

/-! ## Linking -/

private theorem linkUnaryAfter_of_unplaced {done rest nodes : List Node}
    (h : linkUnaryAfter (done.map unplaced) (rest.map unplaced) = .ok nodes) :
    ∃ nodes', linkUnaryAfter done rest = .ok nodes' ∧ nodes'.map unplaced = nodes := by
  fun_induction linkUnaryAfter done rest with
  | case1 done =>
    cases h
    exact ⟨_, rfl, List.map_reverse⟩
  | case2 operator token rest => cases h
  | case3 operator token rest left before isFunction ih =>
    simp only [List.map_cons, unplaced, unplacedOperand, linkUnaryAfter, isFunction_unplaced,
      isFunction, if_true] at h
    exact ih (by simpa only [List.map_cons, unplaced, unplacedOperand] using h)
  | case4 operator token rest left before notFunction =>
    simp only [List.map_cons, unplaced, unplacedOperand, linkUnaryAfter, isFunction_unplaced,
      notFunction] at h
    cases h
  | case5 done node rest notBare ih =>
    rw [List.map_cons, linkUnaryAfter] at h
    · exact ih h
    · intro operator token same
      cases node with
      | unary operator' token' left =>
        cases left with
        | none => exact notBare operator' token' rfl
        | some left => cases same
      | _ => cases same

theorem linkUnary_of_unplaced {flat nodes : List Node}
    (h : linkUnary (flat.map unplaced) = .ok nodes) :
    ∃ nodes', linkUnary flat = .ok nodes' ∧ nodes'.map unplaced = nodes :=
  linkUnaryAfter_of_unplaced h

/-- A way of joining nodes that does not look at their places, when these are changed. -/
structure IgnoresPlaces (change : Node → Node) (joint? : Node → Option Joint) : Prop where
  none : ∀ {n}, joint? n = none → joint? (change n) = none
  some : ∀ {n joint}, joint? n = some joint → ∃ joint', joint? (change n) = some joint' ∧
    (∀ left, joint'.allowsLeft (change left) = joint.allowsLeft left) ∧
    (∀ right, joint'.allowsRight (change right) = joint.allowsRight right) ∧
    ∀ left right, joint'.join (change left) (change right) = change (joint.join left right)

private theorem linkInfixAfter_of_unplaced {joint? : Node → Option Joint}
    (ignores : IgnoresPlaces unplaced joint?)
    {done rest nodes : List Node}
    (h : linkInfixAfter joint? (done.map unplaced) (rest.map unplaced) = .ok nodes) :
    ∃ nodes', linkInfixAfter joint? done rest = .ok nodes' ∧ nodes'.map unplaced = nodes := by
  fun_induction linkInfixAfter joint? done rest with
  | case1 done =>
    cases h
    exact ⟨_, rfl, List.map_reverse⟩
  | case2 done node rest found ih =>
    rw [List.map_cons, linkInfixAfter, ignores.none found] at h
    exact ih h
  | case3 node rest joint found =>
    obtain ⟨joint', found', -⟩ := ignores.some found
    rw [List.map_cons, linkInfixAfter, found'] at h
    cases h
  | case4 node rest joint found left before refused =>
    obtain ⟨joint', found', sameLeft, -⟩ := ignores.some found
    simp only [List.map_cons, linkInfixAfter, found', sameLeft, refused, if_true] at h
    cases h
  | case5 node joint found left before allowed =>
    obtain ⟨joint', found', sameLeft, -⟩ := ignores.some found
    simp only [List.map_cons, List.map_nil, linkInfixAfter, found', sameLeft, allowed] at h
    cases h
  | case6 node joint found left before allowed right rest refused =>
    obtain ⟨joint', found', sameLeft, sameRight, -⟩ := ignores.some found
    simp only [List.map_cons, linkInfixAfter, found', sameLeft, sameRight, allowed, refused,
      if_true] at h
    cases h
  | case7 node joint found left before allowed right rest allowed' ih =>
    -- What the operands become has lost its places, too, so the induction goes on with it.
    obtain ⟨joint', found', sameLeft, sameRight, joins⟩ := ignores.some found
    rw [List.map_cons, List.map_cons, List.map_cons, linkInfixAfter, found'] at h
    simp only [sameLeft, sameRight, allowed, allowed', joins] at h
    exact ih h

private theorem ignoresPlaces_binaryJoint? : IgnoresPlaces unplaced Node.binaryJoint? where
  none := by
    intro n found
    unfold unplaced
    split <;> try rfl
    rename_i left _
    cases left with
    | none => cases found
    | some left => rfl
  some := by
    intro n joint found
    unfold Node.binaryJoint? at found
    split at found <;> cases found
    refine ⟨_, rfl, ?_, ?_, fun _ _ => rfl⟩
    · intro left
      simp only [parameter?_unplaced, isComparison_unplaced]
    · intro right
      simp only [parameter?_unplaced]

theorem linkBinary_of_unplaced {flat nodes : List Node}
    (h : linkBinary (flat.map unplaced) = .ok nodes) :
    ∃ nodes', linkBinary flat = .ok nodes' ∧ nodes'.map unplaced = nodes :=
  linkInfixAfter_of_unplaced ignoresPlaces_binaryJoint? h

private theorem ignoresPlaces_logicalJoint? : IgnoresPlaces unplaced Node.logicalJoint? where
  none := by
    intro n found
    unfold unplaced
    split <;> try rfl
    rename_i left _
    cases left with
    | none => cases found
    | some left => rfl
  some := by
    intro n joint found
    unfold Node.logicalJoint? at found
    split at found <;> cases found
    refine ⟨_, rfl, ?_, ?_, fun _ _ => rfl⟩ <;>
      (intro operand; simp only [isClosing_unplaced])

theorem linkLogical_of_unplaced {flat nodes : List Node}
    (h : linkLogical (flat.map unplaced) = .ok nodes) :
    ∃ nodes', linkLogical flat = .ok nodes' ∧ nodes'.map unplaced = nodes :=
  linkInfixAfter_of_unplaced ignoresPlaces_logicalJoint? h

end MessageExpr
