import MessageExpr.Proofs.Condition.Grammar
import MessageExpr.Proofs.Condition.Row

/-!
# Two tables of operands

Which operands may stand on the right of an operator is decided twice: by the token that the operand
starts with when a condition is walked over, and by the node that it has become when operators are
linked. The second decision never refuses what the first one let through.

## Main definitions

* `operandParameters` — the kinds of operands that start with a kind of token

## Main results

* `accepts_of_mem_rightKinds` — the two tables agree
* `Row.accepts_of_mem_rightKinds` — an operand that the walk lets through is accepted as a node
-/

namespace MessageExpr.Condition

/-- The kinds of operands that start with a kind of token. Whether quoted text has functions in it
does not show at its start. -/
def operandParameters : TokenKind → List Parameter
  | .singleQuote | .doubleQuote => [.literal, .literalWithFunction]
  | .functionStart => [.function]
  | .numericValue => [.numericValue]
  | .booleanValue => [.booleanValue]
  | .nullValue => [.nullValue]
  | .minus => [.minusValue]
  | _ => []

/-- An operator accepts all operands that start with a kind of token that the grammar allows after
it. -/
theorem accepts_of_mem_rightKinds (operator : BinaryOperator) :
    ∀ kind ∈ rightKinds operator, ∀ p ∈ operandParameters kind, operator.accepts p = true := by
  cases operator <;> decide

section Row

variable {token : Token} {rest : List Token} {node : Node}

/-- An operand is of a kind that its first token tells. -/
theorem Row.exists_parameter (h : Row (token :: rest) [node]) (mem : token.kind ∈ operandKinds) :
    ∃ p ∈ operandParameters token.kind, node.parameter? = some p := by
  cases h with
  | space kind => exact absurd mem (by rw [kind]; decide)
  | leaf leaf =>
    -- Of single tokens only values are operands.
    rcases leaf.forms with ⟨kind, rfl⟩ | ⟨kind, rfl⟩ | ⟨kind, _, rfl⟩ | ⟨kind, -⟩ | ⟨kind, -⟩ |
      ⟨kind, -⟩ <;> rw [kind] at mem ⊢
    · exact ⟨_, List.mem_singleton_self _, rfl⟩
    · exact ⟨_, List.mem_singleton_self _, rfl⟩
    · exact ⟨_, List.mem_singleton_self _, rfl⟩
    · exact absurd mem (by decide)
    · exact absurd mem (by decide)
    · exact absurd mem (by decide)
  | negative sign _ made =>
    obtain ⟨value, rfl⟩ := exists_number_of_ofNumber made
    exact ⟨_, by rw [sign]; exact List.mem_singleton_self _, rfl⟩
  | function isStart => exact ⟨_, by rw [isStart]; exact List.mem_singleton_self _, rfl⟩
  | @quote _ _ children _ _ _ isQuote =>
    have parameters : operandParameters token.kind = [.literal, .literalWithFunction] := by
      cases kind : token.kind <;> rw [kind] at isQuote <;> first | rfl | cases isQuote
    refine ⟨_, ?_, rfl⟩
    rw [parameters]
    split <;> simp

/-- What starts like an operand is one. -/
theorem Row.isSome_parameter? (h : Row (token :: rest) [node])
    (mem : token.kind ∈ operandKinds) : node.parameter?.isSome = true := by
  obtain ⟨p, -, parameter⟩ := h.exists_parameter mem
  rw [parameter]
  rfl

/-- An operand that may stand on the right of an operator is accepted by it. -/
theorem Row.accepts_of_mem_rightKinds (h : Row (token :: rest) [node]) {operator : BinaryOperator}
    (mem : token.kind ∈ rightKinds operator) : node.parameter?.any operator.accepts = true := by
  obtain ⟨p, among, parameter⟩ := h.exists_parameter (rightKinds_subset operator _ mem)
  rw [parameter]
  exact Condition.accepts_of_mem_rightKinds operator _ mem p among

end Row

end MessageExpr.Condition
