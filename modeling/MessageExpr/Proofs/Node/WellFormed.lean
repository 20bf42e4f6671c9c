import MessageExpr.Proofs.Node.Apart

/-!
# Well-formed nodes

What linking aims at: every operator has operands that it allows, blocks hold only literals and
functions, and nothing but blocks holds literals. Before linking an operator is bare; each step
of linking leaves bare operators of fewer groups.

## Main definitions

* `Node.Held` — what a block may hold
* `Node.WellFormed` — nodes whose operators have their operands
* `Node.IsBare` — an operator of some groups that has no operands yet

## Main results

* `wellFormed_of_linkUnaryAfter`, `wellFormed_of_linkBinary`, `wellFormed_of_linkLogical` — what is
  left to link after each step
-/

namespace MessageExpr

namespace Node

/-- What a block may hold: literals, and functions that hold such nodes themselves. -/
inductive Held : Node → Prop where
  | literal {token text} : Held (.literal token text)
  | function {token children} : (∀ c ∈ children, Held c) →
      Held (.block .function .function token children)

/-- A node in which blocks hold what they may hold and every operator has the operands that it
allows. A logical operator never stands on the right of another one. -/
inductive WellFormed : Node → Prop where
  | block {kind token children} : (∀ c ∈ children, Held c) →
      WellFormed (.block kind.form kind token children)
  | unary {operator token left} : WellFormed left → left.isFunction = true →
      WellFormed (.unary operator token (some left))
  | binary {operator token left right} : WellFormed left →
      (left.isComparison = true ∨ left.parameter?.isSome = true) → WellFormed right →
      right.parameter?.any operator.accepts = true →
      WellFormed (.binary operator token (some left) (some right))
  | logical {operator token left right} : WellFormed left → WellFormed right →
      right.isLogical = false → WellFormed (.logical operator token (some left) (some right))
  | number {token value negative} : WellFormed (.number token value negative)
  | boolean {token} : WellFormed (.boolean token)
  | null {token} : WellFormed (.null token)

/-- An operator of one of some groups, without operands. -/
inductive IsBare (groups : List OperatorGroup) : Node → Prop where
  | unary {operator token} : .unary ∈ groups → IsBare groups (.unary operator token none)
  | binary {operator token} : .binary ∈ groups →
      IsBare groups (.binary operator token none none)
  | logical {operator token} : .logical ∈ groups →
      IsBare groups (.logical operator token none none)

/-- A node that is well-formed, or an operator of one of some groups that is not linked yet. -/
def IsReady (groups : List OperatorGroup) (n : Node) : Prop := n.WellFormed ∨ n.IsBare groups

/-- A function is no operator. -/
theorem IsReady.of_isFunction {groups : List OperatorGroup} {n : Node} (h : n.IsReady groups)
    (isFunction : n.isFunction = true) : n.WellFormed := by
  rcases h with formed | bare
  · exact formed
  · cases bare <;> cases isFunction

/-- What can be an operand is no operator without operands. -/
theorem IsReady.of_isSome {groups : List OperatorGroup} (notUnary : .unary ∉ groups) {n : Node}
    (h : n.IsReady groups) (isOperand : n.parameter?.isSome = true) : n.WellFormed := by
  rcases h with formed | bare
  · exact formed
  · cases bare with
    | unary mem => exact absurd mem notUnary
    | binary => cases isOperand
    | logical => cases isOperand

end Node

open Node

/-! ## Steps of linking -/

/-- Linking the unary operators leaves the binary and the logical ones. -/
theorem wellFormed_of_linkUnaryAfter {done rest nodes : List Node}
    (before : ∀ n ∈ done, n.IsReady [.binary, .logical])
    (after : ∀ n ∈ rest, n.IsReady [.unary, .binary, .logical])
    (linked : linkUnaryAfter done rest = .ok nodes) :
    ∀ n ∈ nodes, n.IsReady [.binary, .logical] := by
  fun_induction linkUnaryAfter done rest with
  | case1 done =>
    cases linked
    simpa using before
  | case2 => cases linked
  | case3 operator token rest left done isFunction ih =>
    obtain ⟨head, before⟩ := List.forall_mem_cons.mp before
    refine ih (List.forall_mem_cons.mpr ⟨.inl ?_, before⟩)
      (fun n mem => after n (List.mem_cons_of_mem _ mem)) linked
    exact .unary (head.of_isFunction isFunction) isFunction
  | case4 => cases linked
  | case5 done node rest notBare ih =>
    obtain ⟨head, after⟩ := List.forall_mem_cons.mp after
    refine ih (List.forall_mem_cons.mpr ⟨?_, before⟩) after linked
    rcases head with formed | bare
    · exact .inl formed
    · cases bare with
      | unary => exact absurd rfl (notBare _ _)
      | binary => exact .inr (.binary (by simp))
      | logical => exact .inr (.logical (by simp))

/-- What the operators between operands make of nodes, when logical operators are apart. -/
theorem forall_of_linkInfixAfter {joint? : Node → Option Joint} {P Q : Node → Prop}
    (pass : ∀ {n}, P n → joint? n = none → Q n)
    (join : ∀ {n joint left right}, P n → joint? n = some joint → Q left → P right →
      (n.isLogical = true → right.isLogical = false) → joint.allowsLeft left = true →
      joint.allowsRight right = true → Q (joint.join left right))
    {done rest nodes : List Node} (before : ∀ n ∈ done, Q n) (after : ∀ n ∈ rest, P n)
    (apart : Apart rest) (linked : linkInfixAfter joint? done rest = .ok nodes) :
    ∀ n ∈ nodes, Q n := by
  fun_induction linkInfixAfter joint? done rest with
  | case1 done =>
    cases linked
    simpa using before
  | case2 done node rest found ih =>
    obtain ⟨head, after⟩ := List.forall_mem_cons.mp after
    exact ih (List.forall_mem_cons.mpr ⟨pass head found, before⟩) after
      (List.IsChain.tail apart) linked
  | case3 => cases linked
  | case4 => cases linked
  | case5 => cases linked
  | case6 => cases linked
  | case7 node joint found left done allowedLeft right rest allowedRight ih =>
    obtain ⟨head, before⟩ := List.forall_mem_cons.mp before
    obtain ⟨middle, after⟩ := List.forall_mem_cons.mp after
    obtain ⟨next, after⟩ := List.forall_mem_cons.mp after
    -- The gap between an operator and what follows it is all that is needed of the row.
    obtain ⟨gap, apart⟩ := List.isChain_cons_cons.mp apart
    refine ih (List.forall_mem_cons.mpr ⟨?_, before⟩) after apart.tail linked
    exact join middle found head next gap (by simpa using allowedLeft) (by simpa using allowedRight)

/-- Linking the binary operators leaves the logical ones. -/
theorem wellFormed_of_linkBinary {nodes linked : List Node}
    (h : ∀ n ∈ nodes, n.IsReady [.binary, .logical]) (apart : Apart nodes)
    (done : linkBinary nodes = .ok linked) : ∀ n ∈ linked, n.IsReady [.logical] := by
  refine forall_of_linkInfixAfter ?_ ?_ (by simp) h apart done
  · intro n ready found
    rcases ready with formed | bare
    · exact .inl formed
    · cases bare with
      | unary mem => exact absurd mem (by decide)
      | binary => cases found
      | logical => exact .inr (.logical (by simp))
  · intro n joint left right _ found readyLeft readyRight _ allowsLeft allowsRight
    unfold Node.binaryJoint? at found
    split at found <;> cases found
    have allowsLeft : left.parameter?.isSome = true ∨ left.isComparison = true := by
      simpa using allowsLeft
    have isSome : right.parameter?.isSome = true := Option.isSome_of_any allowsRight
    refine .inl (.binary ?_ allowsLeft.symm (readyRight.of_isSome (by decide) isSome) allowsRight)
    rcases allowsLeft with isSome | isComparison
    · exact readyLeft.of_isSome (by decide) isSome
    · -- No comparison without operands is left behind.
      rcases readyLeft with formed | bare
      · exact formed
      · cases bare with
        | unary => cases isComparison
        | binary mem => exact absurd mem (by decide)
        | logical => cases isComparison

/-- Linking the logical operators leaves nothing to link. -/
theorem wellFormed_of_linkLogical {nodes linked : List Node}
    (h : ∀ n ∈ nodes, n.IsReady [.logical]) (apart : Apart nodes)
    (done : linkLogical nodes = .ok linked) : ∀ n ∈ linked, n.WellFormed := by
  refine forall_of_linkInfixAfter ?_ ?_ (by simp) h apart done
  · intro n ready found
    rcases ready with formed | bare
    · exact formed
    · cases bare with
      | unary mem => exact absurd mem (by decide)
      | binary mem => exact absurd mem (by decide)
      | logical => cases found
  · intro n joint left right _ found formedLeft readyRight gap _ _
    unfold Node.logicalJoint? at found
    split at found <;> cases found
    have plain : right.isLogical = false := gap rfl
    refine .logical formedLeft ?_ plain
    rcases readyRight with formed | bare
    · exact formed
    · cases bare with
      | unary mem => exact absurd mem (by decide)
      | binary mem => exact absurd mem (by decide)
      | logical => cases plain

end MessageExpr
