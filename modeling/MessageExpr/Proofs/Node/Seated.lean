import MessageExpr.Proofs.Node.WellFormed

/-!
# Operands beside their operators

The grammar of conditions lets an operator between operands stand only before an operand that it
accepts, or at the end. This is kept when unary operators take their operands, so that linking the
other operators finds every operand that is there to its liking: it can only miss one.

## Main definitions

* `Node.Seats`, `Seated` — what comes after an operator is an operand that it accepts

## Main results

* `fault_of_linkUnary` — why unary operators cannot be linked
* `fault_of_linkBinary`, `fault_of_linkLogical` — operators between operands cannot be linked only
  where an operand is missing
-/

namespace MessageExpr

namespace Node

/-- Whether a node may come right after another one: what comes after an operator between operands
is an operand that the operator accepts. -/
def Seats : Node → Node → Prop
  | binary operator _ _ _, after => after.parameter?.any operator.accepts = true
  | logical _ _ _ _, after => after.parameter?.isSome = true
  | _, _ => True

variable {n after after' : Node}

private theorem parameter?_of_isFunction (h : n.isFunction = true) :
    n.parameter? = some .function := by
  unfold isFunction at h
  split at h
  · rfl
  · cases h

/-- What is an operand itself lets anything come after it. -/
theorem seats_of_isSome (isOperand : n.parameter?.isSome = true) (after : Node) :
    n.Seats after := by
  cases n with
  | binary | logical => cases isOperand
  | _ => trivial

/-- What may come after a node depends on the kind of operand only. -/
theorem Seats.congr (h : n.Seats after) (same : after'.parameter? = after.parameter?) :
    n.Seats after' := by
  cases n with
  | binary | logical =>
    rw [Seats] at h ⊢
    rwa [same]
  | _ => trivial

end Node

open Node

/-- What comes after each operator between operands is an operand that the operator accepts. -/
def Seated (nodes : List Node) : Prop := nodes.IsChain Seats

variable {nodes nodes' : List Node}

theorem seated_append (h : Seated nodes) (h' : Seated nodes')
    (last : ∀ n ∈ nodes.getLast?, n.parameter?.isSome = true) : Seated (nodes ++ nodes') :=
  List.isChain_append.mpr ⟨h, h', fun n mem after _ => seats_of_isSome (last n mem) after⟩

/-- No operand is a logical operator. -/
theorem Seated.apart (h : Seated nodes) : Apart nodes := by
  refine List.IsChain.imp (fun n after seats isLogical => ?_) h
  cases n with
  | logical =>
    rw [Seats] at seats
    cases after with
    | logical => cases seats
    | _ => rfl
  | _ => cases isLogical

/-! ## Unary operators -/

/-- A unary operator with its operand takes the place of the operand. -/
theorem seated_of_linkUnaryAfter {done rest : List Node} (h : Seated (done.reverse ++ rest))
    (linked : linkUnaryAfter done rest = .ok nodes) : Seated nodes := by
  fun_induction linkUnaryAfter done rest with
  | case1 done =>
    cases linked
    simpa using h
  | case2 => cases linked
  | case3 operator token rest left before isFunction ih =>
    refine ih ?_ linked
    have here : Seated (before.reverse ++ left :: .unary operator token none :: rest) := by
      simpa using h
    have same : (unary operator token (some left)).parameter? = left.parameter? :=
      (parameter?_of_isFunction isFunction).symm
    obtain ⟨front, back, gap⟩ := List.isChain_append.mp here
    -- For what stands before it the operator is an operand like the function that it has taken.
    have placed : Seated (before.reverse ++ .unary operator token (some left) :: rest) := by
      refine List.isChain_append.mpr ⟨front, back.tail.tail.cons fun _ _ => trivial, ?_⟩
      intro n last after mem
      cases mem
      exact (gap n last left rfl).congr same
    simpa using placed
  | case4 => cases linked
  | case5 done node rest _ ih => exact ih (by simpa using h) linked

theorem seated_of_linkUnary (h : Seated nodes) (linked : linkUnary nodes = .ok nodes') :
    Seated nodes' :=
  seated_of_linkUnaryAfter (by simpa using h) linked

/-- A unary operator is refused without a node before it, or after a node that is no function. -/
theorem fault_of_linkUnaryAfter {done rest : List Node} {p : Problem}
    (failed : linkUnaryAfter done rest = .error p) :
    ∃ symbol, p.fault = .noOperand .unary symbol .left ∨
      ∃ operand, p.fault = .badOperand .unary symbol .left operand := by
  fun_induction linkUnaryAfter done rest with
  | case1 => cases failed
  | case2 =>
    cases failed
    exact ⟨_, .inl rfl⟩
  | case3 _ _ _ _ _ _ ih => exact ih failed
  | case4 =>
    cases failed
    exact ⟨_, .inr ⟨_, rfl⟩⟩
  | case5 _ _ _ _ ih => exact ih failed

theorem fault_of_linkUnary {p : Problem} (failed : linkUnary nodes = .error p) :
    ∃ symbol, p.fault = .noOperand .unary symbol .left ∨
      ∃ operand, p.fault = .badOperand .unary symbol .left operand :=
  fault_of_linkUnaryAfter failed

/-! ## Operators between operands -/

/-- Only comparisons that have no left operand yet are joints of their group. -/
theorem exists_eq_binary {n : Node} {joint : Joint} (found : n.binaryJoint? = some joint) :
    ∃ operator token right, n = .binary operator token none right := by
  unfold binaryJoint? at found
  split at found
  · exact ⟨_, _, _, rfl⟩
  · cases found

/-- Only logical operators that have no left operand yet are joints of their group. -/
theorem exists_eq_logical {n : Node} {joint : Joint} (found : n.logicalJoint? = some joint) :
    ∃ operator token right, n = .logical operator token none right := by
  unfold logicalJoint? at found
  split at found
  · exact ⟨_, _, _, rfl⟩
  · cases found

/-- Whether a comparison may come after a node and take it as its left operand. Where no comparison
comes after the node, nothing is asked of it. -/
def Node.Leads (left : Node) (rest : List Node) : Prop :=
  left.parameter?.isSome = true ∨ left.isComparison = true ∨
    ∀ n ∈ rest.head?, n.parameter?.isSome = true

/-- What is left alone by the linking of comparisons may lead. -/
theorem leads_of_isReady {n : Node} {rest : List Node} (ready : n.IsReady [.binary, .logical])
    (seated : Seated (n :: rest)) (found : n.binaryJoint? = none) : n.Leads rest := by
  have after (next : Node) (mem : next ∈ rest.head?) : n.Seats next := by
    obtain ⟨more, rfl⟩ := List.head?_eq_some_iff.mp mem
    exact (List.isChain_cons_cons.mp seated).1
  rcases ready with formed | bare
  · cases formed with
    | @block kind =>
      cases kind <;> exact .inl rfl
    | binary => exact .inr (.inl rfl)
    | logical => exact .inr (.inr after)
    | unary | number | boolean | null => exact .inl rfl
  · cases bare with
    | unary mem => exact absurd mem (by decide)
    | binary => cases found
    | logical => exact .inr (.inr after)

/-- The operands that comparisons find are those that they allow. -/
theorem fault_of_linkBinaryAfter {done rest : List Node} {p : Problem}
    (ready : ∀ n ∈ rest, n.IsReady [.binary, .logical]) (seated : Seated rest)
    (leads : ∀ left ∈ done.head?, left.Leads rest)
    (failed : linkInfixAfter binaryJoint? done rest = .error p) :
    ∃ symbol side, p.fault = .noOperand .binary symbol side := by
  fun_induction linkInfixAfter binaryJoint? done rest with
  | case1 => cases failed
  | case2 done node rest found ih =>
    obtain ⟨head, ready⟩ := List.forall_mem_cons.mp ready
    refine ih ready seated.tail (fun left mem => ?_) failed
    cases mem
    exact leads_of_isReady head seated found
  | case3 node rest joint found =>
    cases failed
    obtain ⟨operator, token, _, rfl⟩ := exists_eq_binary found
    cases found
    exact ⟨_, _, rfl⟩
  | case4 node rest joint found left before refused =>
    -- A comparison is no operand, so that what is before it does not wait for one.
    obtain ⟨operator, token, _, rfl⟩ := exists_eq_binary found
    cases found
    rcases leads left rfl with isOperand | isComparison | waits
    · simp [isOperand] at refused
    · simp [isComparison] at refused
    · cases waits _ rfl
  | case5 node joint found =>
    cases failed
    obtain ⟨operator, token, _, rfl⟩ := exists_eq_binary found
    cases found
    exact ⟨_, _, rfl⟩
  | case6 node joint found left before _ right rest refused =>
    have seats : node.Seats right := (List.isChain_cons_cons.mp seated).1
    obtain ⟨operator, token, _, rfl⟩ := exists_eq_binary found
    cases found
    rw [Seats] at seats
    simp [seats] at refused
  | case7 node joint found left before _ right rest _ ih =>
    obtain ⟨_, ready⟩ := List.forall_mem_cons.mp ready
    refine ih (List.forall_mem_cons.mp ready).2 seated.tail.tail (fun left mem => ?_) failed
    cases mem
    obtain ⟨operator, token, _, rfl⟩ := exists_eq_binary found
    cases found
    exact .inr (.inl rfl)

/-- Comparisons cannot be linked only where an operand is missing. -/
theorem fault_of_linkBinary {p : Problem} (ready : ∀ n ∈ nodes, n.IsReady [.binary, .logical])
    (seated : Seated nodes) (failed : linkBinary nodes = .error p) :
    ∃ symbol side, p.fault = .noOperand .binary symbol side :=
  fault_of_linkBinaryAfter ready seated (by simp) failed

/-- Logical operators take anything but what closes a block. -/
theorem fault_of_linkLogicalAfter {done rest : List Node} {p : Problem}
    (before : ∀ n ∈ done, n.isClosing = false) (after : ∀ n ∈ rest, n.isClosing = false)
    (failed : linkInfixAfter logicalJoint? done rest = .error p) :
    ∃ symbol side, p.fault = .noOperand .logical symbol side := by
  fun_induction linkInfixAfter logicalJoint? done rest with
  | case1 => cases failed
  | case2 done node rest found ih =>
    obtain ⟨head, after⟩ := List.forall_mem_cons.mp after
    exact ih (List.forall_mem_cons.mpr ⟨head, before⟩) after failed
  | case3 node rest joint found =>
    cases failed
    obtain ⟨operator, token, _, rfl⟩ := exists_eq_logical found
    cases found
    exact ⟨_, _, rfl⟩
  | case4 node rest joint found left done refused =>
    obtain ⟨operator, token, _, rfl⟩ := exists_eq_logical found
    cases found
    simp [before left (by simp)] at refused
  | case5 node joint found =>
    cases failed
    obtain ⟨operator, token, _, rfl⟩ := exists_eq_logical found
    cases found
    exact ⟨_, _, rfl⟩
  | case6 node joint found left done _ right rest refused =>
    obtain ⟨operator, token, _, rfl⟩ := exists_eq_logical found
    cases found
    simp [after right (by simp)] at refused
  | case7 node joint found left done _ right rest _ ih =>
    obtain ⟨_, before⟩ := List.forall_mem_cons.mp before
    obtain ⟨_, after⟩ := List.forall_mem_cons.mp after
    refine ih (List.forall_mem_cons.mpr ⟨?_, before⟩) (List.forall_mem_cons.mp after).2 failed
    obtain ⟨operator, token, _, rfl⟩ := exists_eq_logical found
    cases found
    rfl

/-- Logical operators cannot be linked only where an operand is missing. -/
theorem fault_of_linkLogical {p : Problem} (open_ : ∀ n ∈ nodes, n.isClosing = false)
    (failed : linkLogical nodes = .error p) :
    ∃ symbol side, p.fault = .noOperand .logical symbol side :=
  fault_of_linkLogicalAfter (by simp) open_ failed

end MessageExpr
