import MessageExpr.Proofs.Condition.Walk

/-!
# The stages of reading a condition

Once the tokens of a condition are known to be a row, all that is left of reading it is to give the
operators among the nodes of the row their operands.

## Main definitions

* `linkOperators` — gives all operators their operands

## Main results

* `parse_of_isRow` — a condition whose tokens are a row is read as the linked nodes of the row
* `exists_row_of_parse` — whatever is read as a condition has such a row
-/

namespace MessageExpr.Condition

/-- Gives the unary, the binary and then the logical operators their operands. -/
def linkOperators (flat : List Node) : Except Problem (List Node) := do
  let nodes ← linkUnary flat
  let nodes ← linkBinary nodes
  linkLogical nodes

theorem linkOperators_eq_ok {flat nodes : List Node} :
    linkOperators flat = .ok nodes ↔
      ∃ unary binary, linkUnary flat = .ok unary ∧ linkBinary unary = .ok binary ∧
        linkLogical binary = .ok nodes := by
  simp only [linkOperators, bind_eq_ok]
  constructor
  · rintro ⟨unary, linkedUnary, binary, linkedBinary, linkedLogical⟩
    exact ⟨unary, binary, linkedUnary, linkedBinary, linkedLogical⟩
  · rintro ⟨unary, binary, linkedUnary, linkedBinary, linkedLogical⟩
    exact ⟨unary, linkedUnary, binary, linkedBinary, linkedLogical⟩

variable {escapes : Bool} {text : String}

/-- A condition whose tokens are a row is read as the linked nodes of the row. -/
theorem parse_of_isRow {found : List Token} {flat : List Node}
    (walked : tokens escapes text = .ok found) (row : Row found flat) :
    parse escapes text = linkOperators flat := by
  obtain ⟨front, made, blocks⟩ := row.blocks
  simp only [parse, walked, made, blocks, bind, Except.bind, linkOperators]

/-- Whatever is read as a condition is the linked nodes of a row of tokens. -/
theorem exists_row_of_parse {nodes : List Node} (h : parse escapes text = .ok nodes) :
    ∃ found flat, tokens escapes text = .ok found ∧ Row found flat ∧ Apart flat ∧
      linkOperators flat = .ok nodes := by
  obtain ⟨found, walked, rest⟩ := bind_eq_ok.mp h
  obtain ⟨pieces, made, -⟩ := bind_eq_ok.mp rest
  rcases row_of_tokens walked with ⟨flat, row, apart⟩ | ⟨p, broken⟩
  · exact ⟨found, flat, walked, row, apart, (parse_of_isRow walked row).symm.trans h⟩
  · -- No pieces were made of broken tokens.
    rw [made] at broken
    cases broken

end MessageExpr.Condition
