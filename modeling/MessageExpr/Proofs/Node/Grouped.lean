import MessageExpr.Node.Link
import MessageExpr.Proofs.Except
import Mathlib.Data.List.Forall2

/-!
# How operators group

Linking gives an operator the last node that is finished and the next node that is not. When an
operand comes after every operator, the last finished node is all of the operands since the last
operator that was left alone, so that operators group from left to right and nothing is taken from
another sequence of operands. Comparisons are linked before logical operators, whose operands they
become.

## Main definitions

* `Sequence` — operands with operators between them
* `Compares`, `Groups` — the grammar with two levels that says how a sequence is grouped
* `Links` — what linking does with a piece of a list, whatever stands around the piece

## Main results

* `linked_iff_groups` — sequences that stand one after the other are linked to one tree each, the
  one that the grammar gives
-/

namespace MessageExpr

open Node

/-! ## The grammar -/

/-- Operands with an operator between each two of them. An operator that compares accepts the
operand after it, and none of the operators has a left operand yet, which is all that linking looks
at. -/
inductive Sequence : List Node → Prop where
  | operand {x} : x.parameter?.isSome = true → Sequence [x]
  | binary {nodes operator token right x} : Sequence nodes →
      x.parameter?.any operator.accepts = true →
      Sequence (nodes ++ [.binary operator token none right, x])
  | logical {nodes operator token right x} : Sequence nodes → x.parameter?.isSome = true →
      Sequence (nodes ++ [.logical operator token none right, x])

/-- The lower level: a comparison is an operand, or compares a comparison before the operator with
an operand after it. -/
inductive Compares : List Node → Node → Prop where
  | operand {x} : x.parameter?.isSome = true → Compares [x] x
  | binary {nodes left operator token right x} : Compares nodes left →
      x.parameter?.any operator.accepts = true →
      Compares (nodes ++ [.binary operator token none right, x])
        (.binary operator token (some left) (some x))

/-- The upper level: a group is a comparison, or joins a group before the operator with a comparison
after it, whichever of the logical operators it is. -/
inductive Groups : List Node → Node → Prop where
  | comparison {nodes n} : Compares nodes n → Groups nodes n
  | logical {nodes nodes' left operator token right n} : Groups nodes left → Compares nodes' n →
      Groups (nodes ++ .logical operator token none right :: nodes')
        (.logical operator token (some left) (some n))

variable {nodes piece piece' linked linked' : List Node} {n left right x : Node}
  {sequences : List (List Node)} {trees : List Node}

/-- Each sequence is grouped in some way. -/
theorem Sequence.exists_groups (h : Sequence nodes) : ∃ n, Groups nodes n := by
  induction h with
  | operand isOperand => exact ⟨_, .comparison (.operand isOperand)⟩
  | @binary nodes operator token right x _ accepted ih =>
    obtain ⟨n, grouped⟩ := ih
    -- The new comparison takes the last comparison of the group as its left operand.
    cases grouped with
    | comparison compared => exact ⟨_, .comparison (.binary compared accepted)⟩
    | logical before compared =>
      rw [List.append_assoc, List.cons_append]
      exact ⟨_, .logical before (.binary compared accepted)⟩
  | logical _ isOperand ih =>
    obtain ⟨n, grouped⟩ := ih
    exact ⟨_, .logical grouped (.operand isOperand)⟩

/-! ## One pass -/

/-- A pass over a piece of a list leaves other nodes in its place, whatever stands before and after
the piece. -/
def Links (joint? : Node → Option Joint) (piece linked : List Node) : Prop :=
  ∀ done rest, linkInfixAfter joint? done (piece ++ rest) =
    linkInfixAfter joint? (linked.reverse ++ done) rest

namespace Links

variable {joint? : Node → Option Joint} {joint : Joint}

private theorem nil : Links joint? [] [] := fun _ _ => rfl

theorem append (h : Links joint? piece linked) (h' : Links joint? piece' linked') :
    Links joint? (piece ++ piece') (linked ++ linked') := by
  intro done rest
  rw [List.append_assoc, h, h', List.reverse_append, List.append_assoc]

/-- What is no operator of the pass is left alone. -/
theorem single (other : joint? n = none) : Links joint? [n] [n] := by
  intro done rest
  rw [List.singleton_append, linkInfixAfter, other]
  rfl

/-- An operator takes what has become of the piece before it, and the node after it. -/
theorem join (h : Links joint? piece [left]) (found : joint? n = some joint)
    (allowsLeft : joint.allowsLeft left = true) (allowsRight : joint.allowsRight right = true) :
    Links joint? (piece ++ [n, right]) [joint.join left right] := by
  intro done rest
  rw [List.append_assoc, h, List.cons_append, linkInfixAfter, found]
  simp only [List.reverse_singleton, List.singleton_append, allowsLeft, allowsRight, Bool.not_true,
    Bool.false_eq_true, if_false]

private theorem linkInfix_eq (h : Links joint? piece linked) :
    linkInfix joint? piece = .ok linked := by
  have run := h [] []
  rwa [List.append_nil, List.append_nil, linkInfixAfter, List.reverse_reverse] at run

end Links

/-! ## Operands -/

private theorem binaryJoint?_of_isSome (isOperand : x.parameter?.isSome = true) :
    x.binaryJoint? = none := by
  cases x with
  | binary | logical | closing => cases isOperand
  | _ => rfl

private theorem logicalJoint?_of_isSome (isOperand : x.parameter?.isSome = true) :
    x.logicalJoint? = none := by
  cases x with
  | binary | logical | closing => cases isOperand
  | _ => rfl

private theorem isClosing_of_isSome (isOperand : x.parameter?.isSome = true) :
    x.isClosing = false := by
  cases x with
  | binary | logical | closing => cases isOperand
  | _ => rfl

theorem Compares.logicalJoint? (h : Compares nodes n) : n.logicalJoint? = none := by
  cases h with
  | operand isOperand => exact logicalJoint?_of_isSome isOperand
  | binary => rfl

theorem Compares.isClosing (h : Compares nodes n) : n.isClosing = false := by
  cases h with
  | operand isOperand => exact isClosing_of_isSome isOperand
  | binary => rfl

theorem Groups.isClosing (h : Groups nodes n) : n.isClosing = false := by
  cases h with
  | comparison compared => exact compared.isClosing
  | logical => rfl

/-- A comparison may stand on the left of an operator that compares. -/
theorem Compares.allowedLeft (h : Compares nodes n) :
    (n.parameter?.isSome || n.isComparison) = true := by
  cases h with
  | operand isOperand => rw [isOperand, Bool.true_or]
  | binary => rfl

/-! ## Both passes -/

/-- The first pass makes one node of a comparison. -/
theorem Compares.links (h : Compares nodes n) : Links binaryJoint? nodes [n] := by
  induction h with
  | operand isOperand => exact .single (binaryJoint?_of_isSome isOperand)
  | @binary nodes left operator token right x compared accepted ih =>
    exact ih.join (n := .binary operator token none right) rfl compared.allowedLeft accepted

/-- The first pass leaves the logical operators of a group between its comparisons, and the second
pass makes one node of them. -/
theorem Groups.links (h : Groups nodes n) :
    ∃ compared, Links binaryJoint? nodes compared ∧ Links logicalJoint? compared [n] := by
  induction h with
  | comparison compared => exact ⟨_, compared.links, .single compared.logicalJoint?⟩
  | @logical nodes nodes' left operator token right n before after ih =>
    obtain ⟨compared, first, second⟩ := ih
    have operators : Links binaryJoint? [.logical operator token none right]
        [.logical operator token none right] := .single rfl
    -- The operator stays between what the first pass makes of its two sides.
    refine ⟨compared ++ [.logical operator token none right, n], ?_, ?_⟩
    · exact first.append (operators.append after.links)
    · refine second.join (n := .logical operator token none right) rfl ?_ ?_
      · exact congrArg not before.isClosing
      · exact congrArg not after.isClosing

private theorem links_flatten (h : List.Forall₂ Groups sequences trees) :
    ∃ compared, Links binaryJoint? sequences.flatten compared ∧
      Links logicalJoint? compared trees := by
  induction h with
  | nil => exact ⟨[], .nil, .nil⟩
  | cons grouped _ ih =>
    obtain ⟨front, first, second⟩ := grouped.links
    obtain ⟨back, first', second'⟩ := ih
    exact ⟨front ++ back, first.append first', second.append second'⟩

private theorem linked_of_groups (h : List.Forall₂ Groups sequences trees) :
    (linkBinary sequences.flatten >>= linkLogical) = .ok trees := by
  obtain ⟨compared, first, second⟩ := links_flatten h
  exact bind_eq_ok.mpr ⟨compared, first.linkInfix_eq, second.linkInfix_eq⟩

private theorem exists_forall₂_groups (each : ∀ s ∈ sequences, Sequence s) :
    ∃ trees, List.Forall₂ Groups sequences trees := by
  induction sequences with
  | nil => exact ⟨[], .nil⟩
  | cons s sequences ih =>
    obtain ⟨head, each⟩ := List.forall_mem_cons.mp each
    obtain ⟨n, grouped⟩ := head.exists_groups
    obtain ⟨trees, others⟩ := ih each
    exact ⟨n :: trees, .cons grouped others⟩

/-- Linking sequences that stand one after the other succeeds, and gives one tree for each of them,
in their order, as the grammar groups it. There is one way to group a sequence. -/
theorem linked_iff_groups (each : ∀ s ∈ sequences, Sequence s) :
    (∃ trees, (linkBinary sequences.flatten >>= linkLogical) = .ok trees) ∧
      ∀ trees, (linkBinary sequences.flatten >>= linkLogical) = .ok trees ↔
        List.Forall₂ Groups sequences trees := by
  obtain ⟨grouped, h⟩ := exists_forall₂_groups each
  -- Linking has one result, so that this is also the only way to group the sequences.
  have linked := linked_of_groups h
  refine ⟨⟨grouped, linked⟩, fun trees => ⟨fun linked' => ?_, linked_of_groups⟩⟩
  obtain rfl : grouped = trees := Except.ok.inj (linked.symm.trans linked')
  exact h

/-- In `true || null == true && null` the comparison comes first, and what the first logical
operator joins is the left operand of the second one. The `null` after it is left as it is. -/
theorem linked_iff_groups_mixed :
    (linkBinary [.boolean ⟨.booleanValue, "true", 0, 4⟩,
        .logical .or ⟨.logicalOperator, "||", 5, 2⟩ none none,
        .null ⟨.nullValue, "null", 8, 4⟩,
        .binary .equal ⟨.binaryOperator, "==", 13, 2⟩ none none,
        .boolean ⟨.booleanValue, "true", 16, 4⟩,
        .logical .and ⟨.logicalOperator, "&&", 21, 2⟩ none none,
        .null ⟨.nullValue, "null", 24, 4⟩,
        .null ⟨.nullValue, "null", 29, 4⟩] >>= linkLogical) =
      .ok [.logical .and ⟨.logicalOperator, "&&", 21, 2⟩
          (some (.logical .or ⟨.logicalOperator, "||", 5, 2⟩
            (some (.boolean ⟨.booleanValue, "true", 0, 4⟩))
            (some (.binary .equal ⟨.binaryOperator, "==", 13, 2⟩
              (some (.null ⟨.nullValue, "null", 8, 4⟩))
              (some (.boolean ⟨.booleanValue, "true", 16, 4⟩))))))
          (some (.null ⟨.nullValue, "null", 24, 4⟩)),
        .null ⟨.nullValue, "null", 29, 4⟩] := by
  have mixed : Sequence ([.boolean ⟨.booleanValue, "true", 0, 4⟩] ++
      [.logical .or ⟨.logicalOperator, "||", 5, 2⟩ none none,
        .null ⟨.nullValue, "null", 8, 4⟩] ++
      [.binary .equal ⟨.binaryOperator, "==", 13, 2⟩ none none,
        .boolean ⟨.booleanValue, "true", 16, 4⟩] ++
      [.logical .and ⟨.logicalOperator, "&&", 21, 2⟩ none none,
        .null ⟨.nullValue, "null", 24, 4⟩]) :=
    .logical (.binary (.logical (.operand rfl) rfl) rfl) rfl
  have alone : Sequence [.null ⟨.nullValue, "null", 29, 4⟩] := .operand rfl
  have each := List.forall_mem_cons.mpr ⟨mixed, List.forall_mem_singleton.mpr alone⟩
  exact ((linked_iff_groups each).2 _).mpr
    (.cons (.logical (.logical (.comparison (.operand rfl)) (.binary (.operand rfl) rfl))
      (.operand rfl)) (.cons (.comparison (.operand rfl)) .nil))

end MessageExpr
