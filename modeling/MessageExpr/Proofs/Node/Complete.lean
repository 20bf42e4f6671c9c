import MessageExpr.Proofs.Node.Seated

/-!
# Operators without operands

Linking takes any list of flat nodes. Each step either refuses an operator whose operand is missing
or not allowed, or gives it its operands, with one exception: a logical operator takes any node as
its operands, also a logical operator that has no operands yet. That operator is not looked at
again, so that it stays in the trees without operands. This happens exactly where two logical
operators stand side by side.

## Main definitions

* `Node.Complete` — nodes in which every operator has all its operands
* `Node.IsItem` — the nodes that linking starts from
* `Joint.Lacks`, `UnaryLacks` — the operand that is missing or not allowed, and the problem of that
* `Refused`, `UnaryRefused` — the operator of a list that linking refuses

## Main results

* `apart_iff_of_linkUnary`, `apart_iff_of_linkBinary` — linking the other operators brings no
  logical operators together, and keeps none apart
* `complete_iff_apart` — what is linked is complete exactly when the logical operators stand apart,
  and what cannot be linked has an operator without an operand that it allows
-/

namespace MessageExpr

namespace Node

/-- A node in which every operator, however deep, has all its operands. -/
inductive Complete : Node → Prop where
  | literal {token text} : Complete (.literal token text)
  | block {form kind token children} : (∀ c ∈ children, Complete c) →
      Complete (.block form kind token children)
  | closing {form kind token} : Complete (.closing form kind token)
  | unary {operator token left} : Complete left → Complete (.unary operator token (some left))
  | binary {operator token left right} : Complete left → Complete right →
      Complete (.binary operator token (some left) (some right))
  | logical {operator token left right} : Complete left → Complete right →
      Complete (.logical operator token (some left) (some right))
  | number {token value negative} : Complete (.number token value negative)
  | boolean {token} : Complete (.boolean token)
  | null {token} : Complete (.null token)

/-- A node that linking of operators starts from: a value, a block that is linked already, or an
operator without operands. -/
inductive IsItem : Node → Prop where
  | literal {token text} : IsItem (.literal token text)
  | block {form kind token children} : (∀ c ∈ children, Held c) →
      IsItem (.block form kind token children)
  | number {token value negative} : IsItem (.number token value negative)
  | boolean {token} : IsItem (.boolean token)
  | null {token} : IsItem (.null token)
  | unary {operator token} : IsItem (.unary operator token none)
  | binary {operator token} : IsItem (.binary operator token none none)
  | logical {operator token} : IsItem (.logical operator token none none)

theorem Held.complete {n : Node} (h : n.Held) : n.Complete := by
  induction h with
  | literal => exact .literal
  | function _ ih => exact .block ih

/-- A complete node that is no logical operator, or an operator of one of some groups that is not
linked yet. -/
def IsPart (groups : List OperatorGroup) (n : Node) : Prop :=
  (n.Complete ∧ n.isLogical = false) ∨ n.IsBare groups

theorem IsItem.isPart {n : Node} (h : n.IsItem) : n.IsPart [.unary, .binary, .logical] := by
  cases h with
  | block held => exact .inl ⟨.block fun c mem => (held c mem).complete, rfl⟩
  | literal => exact .inl ⟨.literal, rfl⟩
  | number => exact .inl ⟨.number, rfl⟩
  | boolean => exact .inl ⟨.boolean, rfl⟩
  | null => exact .inl ⟨.null, rfl⟩
  | unary => exact .inr (.unary (by simp))
  | binary => exact .inr (.binary (by simp))
  | logical => exact .inr (.logical (by simp))

/-- A part without operands to come is complete, and complete parts are no logical operators. -/
theorem IsPart.complete_iff {n : Node} (h : n.IsPart [.logical]) :
    n.Complete ↔ n.isLogical = false := by
  rcases h with ⟨complete, plain⟩ | bare
  · exact ⟨fun _ => plain, fun _ => complete⟩
  · cases bare with
    | unary mem => exact absurd mem (by decide)
    | binary mem => exact absurd mem (by decide)
    | logical => exact ⟨nofun, nofun⟩

end Node

open Node

/-! ## Logical operators side by side -/

section

variable {nodes nodes' front back : List Node} {n left right : Node}

theorem apart_cons_iff (plain : n.isLogical = false) : Apart (n :: back) ↔ Apart back := by
  refine ⟨List.IsChain.tail, fun h => h.cons fun after _ isLogical => ?_⟩
  rw [plain] at isLogical
  cases isLogical

/-- What is no logical operator keeps what stands on its two sides apart. -/
theorem apart_append_cons_iff (plain : n.isLogical = false) :
    Apart (front ++ n :: back) ↔ Apart front ∧ Apart back := by
  constructor
  · intro h
    obtain ⟨before, after, -⟩ := List.isChain_append.mp h
    exact ⟨before, after.tail⟩
  · rintro ⟨before, after⟩
    refine List.isChain_append.mpr ⟨before, (apart_cons_iff plain).mpr after, ?_⟩
    rintro _ _ _ ⟨⟩ _
    exact plain

private theorem isLogical_of_isFunction (h : n.isFunction = true) : n.isLogical = false := by
  cases n with
  | logical => cases h
  | _ => rfl

private theorem isLogical_of_isSome (h : n.parameter?.isSome = true) : n.isLogical = false := by
  cases n with
  | logical => cases h
  | _ => rfl

private theorem isLogical_of_isComparison (h : n.isComparison = true) : n.isLogical = false := by
  cases n with
  | logical => cases h
  | _ => rfl

/-- A unary operator and the function before it become one node, which is no logical operator
either. -/
theorem apart_iff_of_linkUnaryAfter {done rest : List Node}
    (linked : linkUnaryAfter done rest = .ok nodes) :
    Apart nodes ↔ Apart (done.reverse ++ rest) := by
  fun_induction linkUnaryAfter done rest with
  | case1 done =>
    cases linked
    rw [List.append_nil]
  | case2 => cases linked
  | case3 operator token rest left before isFunction ih =>
    rw [ih linked, List.reverse_cons, List.append_assoc, List.singleton_append,
      apart_append_cons_iff rfl, List.reverse_cons, List.append_assoc, List.singleton_append,
      apart_append_cons_iff (isLogical_of_isFunction isFunction), apart_cons_iff rfl]
  | case4 => cases linked
  | case5 done node rest _ ih =>
    rw [ih linked, List.reverse_cons, List.append_assoc, List.singleton_append]

/-- Linking the unary operators leaves logical operators side by side where they were. -/
theorem apart_iff_of_linkUnary (linked : linkUnary nodes = .ok nodes') :
    Apart nodes' ↔ Apart nodes :=
  apart_iff_of_linkUnaryAfter linked

/-- What a comparison joins is no logical operator. -/
theorem isLogical_of_binaryJoint? {joint : Joint} (found : n.binaryJoint? = some joint) :
    n.isLogical = false ∧ (∀ left right, (joint.join left right).isLogical = false) ∧
      (∀ left, joint.allowsLeft left = true → left.isLogical = false) ∧
      ∀ right, joint.allowsRight right = true → right.isLogical = false := by
  obtain ⟨operator, token, _, rfl⟩ := exists_eq_binary found
  cases found
  refine ⟨rfl, fun _ _ => rfl, fun left allowed => ?_, fun right allowed => ?_⟩
  · rcases Bool.or_eq_true _ _ ▸ allowed with isOperand | isComparison
    · exact isLogical_of_isSome isOperand
    · exact isLogical_of_isComparison isComparison
  · exact isLogical_of_isSome (Option.isSome_of_any allowed)

private theorem apart_iff_of_linkBinaryAfter {done rest : List Node}
    (linked : linkInfixAfter binaryJoint? done rest = .ok nodes) :
    Apart nodes ↔ Apart (done.reverse ++ rest) := by
  fun_induction linkInfixAfter binaryJoint? done rest with
  | case1 done =>
    cases linked
    rw [List.append_nil]
  | case2 done node rest found ih =>
    rw [ih linked, List.reverse_cons, List.append_assoc, List.singleton_append]
  | case3 => cases linked
  | case4 => cases linked
  | case5 => cases linked
  | case6 => cases linked
  | case7 node joint found left before allowedLeft right rest allowedRight ih =>
    obtain ⟨plain, joined, plainLeft, plainRight⟩ := isLogical_of_binaryJoint? found
    have left' := plainLeft left (by simpa using allowedLeft)
    have right' := plainRight right (by simpa using allowedRight)
    -- Neither the three nodes nor the one that they become is a logical operator.
    rw [ih linked, List.reverse_cons, List.append_assoc, List.singleton_append,
      apart_append_cons_iff (joined left right), List.reverse_cons, List.append_assoc,
      List.singleton_append, apart_append_cons_iff left', apart_cons_iff plain,
      apart_cons_iff right']

/-- Linking the comparisons leaves logical operators side by side where they were. -/
theorem apart_iff_of_linkBinary (linked : linkBinary nodes = .ok nodes') :
    Apart nodes' ↔ Apart nodes :=
  apart_iff_of_linkBinaryAfter linked

end

/-! ## What the steps leave to link -/

section

variable {nodes linked : List Node}

private theorem isPart_of_linkUnaryAfter {done rest : List Node}
    (before : ∀ n ∈ done, n.IsPart [.binary, .logical])
    (after : ∀ n ∈ rest, n.IsPart [.unary, .binary, .logical])
    (h : linkUnaryAfter done rest = .ok linked) : ∀ n ∈ linked, n.IsPart [.binary, .logical] := by
  fun_induction linkUnaryAfter done rest with
  | case1 done =>
    cases h
    simpa using before
  | case2 => cases h
  | case3 operator token rest left done isFunction ih =>
    obtain ⟨head, before⟩ := List.forall_mem_cons.mp before
    refine ih (List.forall_mem_cons.mpr ⟨?_, before⟩)
      (fun n mem => after n (List.mem_cons_of_mem _ mem)) h
    rcases head with ⟨complete, -⟩ | bare
    · exact .inl ⟨.unary complete, rfl⟩
    · cases bare <;> cases isFunction
  | case4 => cases h
  | case5 done node rest notBare ih =>
    obtain ⟨head, after⟩ := List.forall_mem_cons.mp after
    refine ih (List.forall_mem_cons.mpr ⟨?_, before⟩) after h
    rcases head with complete | bare
    · exact .inl complete
    · cases bare with
      | unary => exact absurd rfl (notBare _ _)
      | binary => exact .inr (.binary (by simp))
      | logical => exact .inr (.logical (by simp))

/-- What can be an operand is complete once the unary operators are linked. -/
theorem Node.IsPart.complete_of_isSome {n : Node} (h : n.IsPart [.binary, .logical])
    (isOperand : n.parameter?.isSome = true) : n.Complete := by
  rcases h with ⟨complete, -⟩ | bare
  · exact complete
  · cases bare with
    | unary mem => exact absurd mem (by decide)
    | binary => cases isOperand
    | logical => cases isOperand

private theorem isPart_of_linkBinaryAfter {done rest : List Node}
    (before : ∀ n ∈ done, n.IsPart [.logical])
    (after : ∀ n ∈ rest, n.IsPart [.binary, .logical])
    (h : linkInfixAfter binaryJoint? done rest = .ok linked) :
    ∀ n ∈ linked, n.IsPart [.logical] := by
  fun_induction linkInfixAfter binaryJoint? done rest with
  | case1 done =>
    cases h
    simpa using before
  | case2 done node rest found ih =>
    obtain ⟨head, after⟩ := List.forall_mem_cons.mp after
    refine ih (List.forall_mem_cons.mpr ⟨?_, before⟩) after h
    rcases head with complete | bare
    · exact .inl complete
    · cases bare with
      | unary mem => exact absurd mem (by decide)
      | binary => cases found
      | logical => exact .inr (.logical (by simp))
  | case3 => cases h
  | case4 => cases h
  | case5 => cases h
  | case6 => cases h
  | case7 node joint found left done allowedLeft right rest allowedRight ih =>
    obtain ⟨head, before⟩ := List.forall_mem_cons.mp before
    obtain ⟨next, after⟩ := List.forall_mem_cons.mp (List.forall_mem_cons.mp after).2
    obtain ⟨_, joined, plainLeft, _⟩ := isLogical_of_binaryJoint? found
    have complete : left.Complete :=
      head.complete_iff.mpr (plainLeft left (by simpa using allowedLeft))
    refine ih (List.forall_mem_cons.mpr ⟨.inl ⟨?_, joined left right⟩, before⟩) after h
    obtain ⟨operator, token, _, rfl⟩ := exists_eq_binary found
    cases found
    have allowed : right.parameter?.any operator.accepts = true := by simpa using allowedRight
    exact .binary complete (next.complete_of_isSome (Option.isSome_of_any allowed))

/-- What linking the logical operators gives is complete exactly when what was finished before is,
and no logical operator takes another one that has no operands as its right operand. -/
theorem complete_iff_of_linkLogicalAfter {done rest : List Node}
    (after : ∀ n ∈ rest, n.IsPart [.logical])
    (h : linkInfixAfter logicalJoint? done rest = .ok linked) :
    (∀ n ∈ linked, n.Complete) ↔ (∀ n ∈ done, n.Complete) ∧ Apart rest := by
  fun_induction linkInfixAfter logicalJoint? done rest with
  | case1 done =>
    cases h
    simp [Apart]
  | case2 done node rest found ih =>
    obtain ⟨head, after⟩ := List.forall_mem_cons.mp after
    have complete : node.Complete ∧ node.isLogical = false := by
      rcases head with complete | bare
      · exact complete
      · cases bare with
        | unary mem => exact absurd mem (by decide)
        | binary mem => exact absurd mem (by decide)
        | logical => cases found
    rw [ih after h, apart_cons_iff complete.2, List.forall_mem_cons, and_iff_right complete.1]
  | case3 => cases h
  | case4 => cases h
  | case5 => cases h
  | case6 => cases h
  | case7 node joint found left done _ right rest _ ih =>
    obtain ⟨next, others⟩ := List.forall_mem_cons.mp (List.forall_mem_cons.mp after).2
    obtain ⟨operator, token, _, rfl⟩ := exists_eq_logical found
    cases found
    -- The right operand is not looked at again, so that it has to be complete by now.
    have joined : (Node.logical operator token (some left) (some right)).Complete ↔
        left.Complete ∧ right.isLogical = false := by
      rw [← next.complete_iff]
      refine ⟨fun h => ?_, fun h => .logical h.1 h.2⟩
      cases h with
      | logical first second => exact ⟨first, second⟩
    have apart (right' : Option Node) :
        Apart (.logical operator token none right' :: right :: rest) ↔
        right.isLogical = false ∧ Apart rest := by
      rw [Apart, List.isChain_cons_cons]
      constructor
      · rintro ⟨gap, others⟩
        exact ⟨gap rfl, others.tail⟩
      · rintro ⟨plain, others⟩
        exact ⟨fun _ => plain, (apart_cons_iff plain).mpr others⟩
    rw [ih others h, List.forall_mem_cons, List.forall_mem_cons, joined, apart]
    tauto

end

/-! ## What is refused -/

section

variable {joint? : Node → Option Joint} {nodes : List Node} {p : Problem}

/-- An operator between the nodes finished before it and the nodes after it lacks an operand, and
the problem says which one. The left operand is the last of the finished nodes, and it is judged
first. -/
inductive Joint.Lacks (joint : Joint) : List Node → List Node → Problem → Prop where
  | noLeft {back} : Lacks joint [] back (joint.missing .left)
  | badLeft {finished left back} : joint.allowsLeft left = false →
      Lacks joint (finished ++ [left]) back (joint.refused .left left)
  | noRight {finished left} : joint.allowsLeft left = true →
      Lacks joint (finished ++ [left]) [] (joint.missing .right)
  | badRight {finished left right back} : joint.allowsLeft left = true →
      joint.allowsRight right = false →
      Lacks joint (finished ++ [left]) (right :: back) (joint.refused .right right)

/-- A problem is that of an operator of a list that lacks an operand, when what is before it can be
linked. -/
def Refused (joint? : Node → Option Joint) (nodes : List Node) (p : Problem) : Prop :=
  ∃ front n back joint finished, nodes = front ++ n :: back ∧ joint? n = some joint ∧
    linkInfix joint? front = .ok finished ∧ joint.Lacks finished back p

private theorem lacks_of_linkInfixAfter {done rest : List Node}
    (failed : linkInfixAfter joint? done rest = .error p) :
    ∃ front n back joint finished, rest = front ++ n :: back ∧ joint? n = some joint ∧
      linkInfixAfter joint? done front = .ok finished ∧ joint.Lacks finished back p := by
  fun_induction linkInfixAfter joint? done rest with
  | case1 => cases failed
  | case2 done node rest found ih =>
    obtain ⟨front, n, back, joint, finished, rfl, here, linked, lacks⟩ := ih failed
    refine ⟨node :: front, n, back, joint, finished, rfl, here, ?_, lacks⟩
    rw [linkInfixAfter, found]
    exact linked
  | case3 node rest joint found =>
    cases failed
    exact ⟨[], node, rest, joint, [], rfl, found, rfl, .noLeft⟩
  | case4 node rest joint found left before refused =>
    cases failed
    refine ⟨[], node, rest, joint, (left :: before).reverse, rfl, found, rfl, ?_⟩
    rw [List.reverse_cons]
    exact .badLeft (by simpa using refused)
  | case5 node joint found left before allowedLeft =>
    cases failed
    refine ⟨[], node, [], joint, (left :: before).reverse, rfl, found, rfl, ?_⟩
    rw [List.reverse_cons]
    exact .noRight (by simpa using allowedLeft)
  | case6 node joint found left before allowedLeft right rest refused =>
    cases failed
    refine ⟨[], node, right :: rest, joint, (left :: before).reverse, rfl, found, rfl, ?_⟩
    rw [List.reverse_cons]
    exact .badRight (by simpa using allowedLeft) (by simpa using refused)
  | case7 node joint found left before allowedLeft right rest allowedRight ih =>
    obtain ⟨front, n, back, joint', finished, rfl, here, linked, lacks⟩ := ih failed
    refine ⟨node :: right :: front, n, back, joint', finished, rfl, here, ?_, lacks⟩
    rw [linkInfixAfter, found]
    simp only [allowedLeft, allowedRight]
    exact linked

/-- A pass fails at an operator that lacks an operand. -/
theorem refused_of_linkInfix (failed : linkInfix joint? nodes = .error p) :
    Refused joint? nodes p :=
  lacks_of_linkInfixAfter failed

/-- A unary operator comes after nodes of which the last one is no function, or after none. -/
inductive UnaryLacks (operator : UnaryOperator) (token : Token) : List Node → Problem → Prop where
  | noLeft : UnaryLacks operator token []
      ⟨.noOperand .unary operator.symbol .left, token.index⟩
  | badLeft {finished left} : left.isFunction = false →
      UnaryLacks operator token (finished ++ [left])
        ⟨.badOperand .unary operator.symbol .left left.shown, token.index⟩

/-- A problem is that of a unary operator of a list that comes after no function, when what is
before it can be linked. -/
def UnaryRefused (nodes : List Node) (p : Problem) : Prop :=
  ∃ front operator token back finished, nodes = front ++ .unary operator token none :: back ∧
    linkUnary front = .ok finished ∧ UnaryLacks operator token finished p

private theorem lacks_of_linkUnaryAfter {done rest : List Node}
    (failed : linkUnaryAfter done rest = .error p) :
    ∃ front operator token back finished, rest = front ++ .unary operator token none :: back ∧
      linkUnaryAfter done front = .ok finished ∧ UnaryLacks operator token finished p := by
  fun_induction linkUnaryAfter done rest with
  | case1 => cases failed
  | case2 operator token rest =>
    cases failed
    exact ⟨[], operator, token, rest, [], rfl, rfl, .noLeft⟩
  | case3 operator token rest left before isFunction ih =>
    obtain ⟨front, operator', token', back, finished, rfl, linked, lacks⟩ := ih failed
    refine ⟨.unary operator token none :: front, operator', token', back, finished, rfl, ?_, lacks⟩
    rw [linkUnaryAfter, if_pos isFunction]
    exact linked
  | case4 operator token rest left before notFunction =>
    cases failed
    refine ⟨[], operator, token, rest, (left :: before).reverse, rfl, rfl, ?_⟩
    rw [List.reverse_cons]
    exact .badLeft (by simpa using notFunction)
  | case5 done node rest notBare ih =>
    obtain ⟨front, operator, token, back, finished, rfl, linked, lacks⟩ := ih failed
    refine ⟨node :: front, operator, token, back, finished, rfl, ?_, lacks⟩
    rw [linkUnaryAfter]
    · exact linked
    · exact notBare

private theorem refused_of_linkUnary (failed : linkUnary nodes = .error p) : UnaryRefused nodes p :=
  lacks_of_linkUnaryAfter failed

end

/-! ## All steps -/

variable {nodes : List Node}

private theorem complete_iff_of_link {trees : List Node} (flat : ∀ n ∈ nodes, n.IsItem)
    (linked : (linkUnary nodes >>= linkBinary >>= linkLogical) = .ok trees) :
    (∀ n ∈ trees, n.Complete) ↔ Apart nodes := by
  obtain ⟨binary, linked, linkedLogical⟩ := bind_eq_ok.mp linked
  obtain ⟨unary, linkedUnary, linkedBinary⟩ := bind_eq_ok.mp linked
  have partsUnary :=
    isPart_of_linkUnaryAfter (by simp) (fun n mem => (flat n mem).isPart) linkedUnary
  have partsBinary := isPart_of_linkBinaryAfter (by simp) partsUnary linkedBinary
  rw [complete_iff_of_linkLogicalAfter partsBinary linkedLogical,
    ← apart_iff_of_linkUnary linkedUnary,
    ← apart_iff_of_linkBinary linkedBinary]
  simp

/-- When the operators of flat nodes can be linked, every operator at every depth has its operands
exactly if no two logical operators stand side by side. When they cannot, one of the steps refuses
an operator whose operand is missing or not allowed, and the problem names that operator, its side
and its place. -/
theorem complete_iff_apart (flat : ∀ n ∈ nodes, n.IsItem) :
    (∀ trees, (linkUnary nodes >>= linkBinary >>= linkLogical) = .ok trees →
        ((∀ n ∈ trees, n.Complete) ↔ Apart nodes)) ∧
      ∀ p, (linkUnary nodes >>= linkBinary >>= linkLogical) = .error p →
        UnaryRefused nodes p ∨ ∃ unary, linkUnary nodes = .ok unary ∧
          (Refused binaryJoint? unary p ∨ ∃ binary, linkBinary unary = .ok binary ∧
            Refused logicalJoint? binary p) := by
  refine ⟨fun trees linked => complete_iff_of_link flat linked, fun p failed => ?_⟩
  rcases bind_eq_error.mp failed with failed | ⟨binary, linked, failed⟩
  · rcases bind_eq_error.mp failed with failed | ⟨unary, linkedUnary, failed⟩
    · exact .inl (refused_of_linkUnary failed)
    · exact .inr ⟨unary, linkedUnary, .inl (refused_of_linkInfix failed)⟩
  · obtain ⟨unary, linkedUnary, linkedBinary⟩ := bind_eq_ok.mp linked
    exact .inr ⟨unary, linkedUnary, .inr ⟨binary, linkedBinary, refused_of_linkInfix failed⟩⟩

/-- The flat nodes of `$\x7bbody\x7d ++ == 5 && true`, with an operator of each group. -/
def sampleRow : List Node :=
  [.block .function .function ⟨.functionStart, "$\x7b", 0, 2⟩
      [.literal ⟨.character, "b", 2, 1⟩ "body"],
    .unary .increment ⟨.unaryOperator, "++", 8, 2⟩ none,
    .binary .equal ⟨.binaryOperator, "==", 11, 2⟩ none none,
    .number ⟨.numericValue, "5", 14, 1⟩ (.integer 5) false,
    .logical .and ⟨.logicalOperator, "&&", 16, 2⟩ none none,
    .boolean ⟨.booleanValue, "true", 19, 4⟩]

theorem complete_iff_apart_sampleRow :
    (∀ n ∈ sampleRow, n.IsItem) ∧ Apart sampleRow ∧
      ∃ tree, (linkUnary sampleRow >>= linkBinary >>= linkLogical) = .ok [tree] ∧
        tree.Complete := by
  have flat : ∀ n ∈ sampleRow, n.IsItem := by
    simp only [sampleRow, List.forall_mem_cons, List.not_mem_nil, false_imp_iff, implies_true,
      and_true]
    exact ⟨.block (List.forall_mem_singleton.mpr .literal), .unary, .binary, .number, .logical,
      .boolean⟩
  have apart : Apart sampleRow := by simp [sampleRow, Apart, Node.isLogical]
  obtain ⟨tree, linked⟩ :
      ∃ tree, (linkUnary sampleRow >>= linkBinary >>= linkLogical) = .ok [tree] := ⟨_, rfl⟩
  have complete := ((complete_iff_apart flat).1 [tree] linked).mpr apart
  exact ⟨flat, apart, tree, linked, complete tree (List.mem_singleton_self tree)⟩

/-- In `true && &&` the second operator becomes the right operand of the first one. Nothing is
refused, although the second operator has no operands. -/
theorem linked_incomplete :
    ∃ tree, (linkUnary [.boolean ⟨.booleanValue, "true", 0, 4⟩,
          .logical .and ⟨.logicalOperator, "&&", 5, 2⟩ none none,
          .logical .and ⟨.logicalOperator, "&&", 8, 2⟩ none none] >>= linkBinary >>= linkLogical) =
        .ok [tree] ∧ ¬ tree.Complete := by
  refine ⟨_, rfl, fun complete => ?_⟩
  cases complete with
  | logical _ right => cases right

end MessageExpr
