import MessageExpr.Pattern.Read
import MessageExpr.Proofs.Condition.ReadBack
import MessageExpr.Proofs.Node.Faults

/-!
# The nodes of a condition

Whatever text is read as a condition, its nodes are well-formed: the tokens are a row, a row gives
blocks and operators without operands, and linking gives the operators their operands or fails.

## Main results

* `wellFormed_of_parse` — the nodes of a condition are well-formed, and are only refused for the
  name of a function
-/

namespace MessageExpr.Condition

/-- All groups of operators. -/
def allGroups : List OperatorGroup := [.unary, .binary, .logical]

/-- The children of a block are what a block may hold. -/
theorem Inside.held {stop : TokenKind} {tokens : List Token} {nodes : List Node}
    (h : Inside stop tokens nodes) : ∀ n ∈ nodes, n.Held := by
  induction h with
  | nil => simp
  | @text _ token _ nodes _ _ _ ih =>
    unfold Node.joinText
    split
    · exact List.forall_mem_cons.mpr ⟨.literal, (List.forall_mem_cons.mp ih).2⟩
    · exact List.forall_mem_cons.mpr ⟨.literal, ih⟩
  | function _ _ _ _ ihInner ih => exact List.forall_mem_cons.mpr ⟨.function ihInner, ih⟩

theorem Leaf.isReady {token : Token} {node : Node} (h : Leaf token node) :
    node.IsReady allGroups := by
  rcases h.forms with ⟨-, rfl⟩ | ⟨-, rfl⟩ | ⟨-, _, rfl⟩ | ⟨-, _, rfl⟩ | ⟨-, _, rfl⟩ | ⟨-, _, rfl⟩
  · exact .inl .boolean
  · exact .inl .null
  · exact .inl .number
  · exact .inr (.unary (by decide))
  · exact .inr (.binary (by decide))
  · exact .inr (.logical (by decide))

/-- The nodes of a row are blocks, values and operators without operands. -/
theorem Row.isReady {tokens : List Token} {nodes : List Node} (h : Row tokens nodes) :
    ∀ n ∈ nodes, n.IsReady allGroups := by
  induction h with
  | nil => simp
  | space _ _ ih => exact ih
  | leaf leaf _ ih => exact List.forall_mem_cons.mpr ⟨leaf.isReady, ih⟩
  | negative _ _ made _ ih =>
    obtain ⟨value, rfl⟩ := exists_number_of_ofNumber made
    exact List.forall_mem_cons.mpr ⟨.inl .number, ih⟩
  | @function start _ children _ _ _ _ _ inside _ ih =>
    have formed : (Node.block BlockKind.function.form .function start children).WellFormed :=
      .block inside.held
    exact List.forall_mem_cons.mpr ⟨.inl formed, ih⟩
  | @quote start _ children _ _ _ _ _ inside _ ih =>
    have formed : (Node.block (quoteKind start.kind).form (quoteKind start.kind) start
        children).WellFormed :=
      .block inside.held
    rw [form_quoteKind] at formed
    exact List.forall_mem_cons.mpr ⟨.inl formed, ih⟩

/-- The nodes that blocks are linked to are blocks, values and operators without operands. -/
theorem isReady_of_linkBlocks {escapes : Bool} {text : String} {found : List Token}
    {flat : List Piece} {nodes : List Node} (walked : tokens escapes text = .ok found)
    (made : pieces [] none (prune found) = .ok flat)
    (linked : linkBlocks (Piece.gather flat) = .ok nodes) :
    (∀ n ∈ nodes, n.IsReady allGroups) ∧ Apart nodes := by
  rcases row_of_tokens walked with ⟨nodes', row, apart⟩ | ⟨p, broken⟩
  · obtain ⟨front, made', linked'⟩ := row.blocks
    rw [made] at made'
    cases made'
    rw [linked] at linked'
    cases linked'
    exact ⟨row.isReady, apart⟩
  · rw [made] at broken
    cases broken

/-- The nodes of a condition are well-formed. So they are written as code and compiled unless the
name of a function, or a pattern, is refused. -/
theorem wellFormed_of_parse [PatternLibrary] {escapes : Bool} {text : String} {nodes : List Node}
    (h : parse escapes text = .ok nodes) :
    (∀ n ∈ nodes, n.WellFormed) ∧
      (∀ p, Code.ofPredicate nodes = .error p → p.fault.InName) ∧
      Compile.FailsInName (Compile.predicate nodes) := by
  simp only [parse, bind_eq_ok] at h
  obtain ⟨found, walked, flat, made, blocks, linked, unary, linkedUnary, binary, linkedBinary,
    linkedLogical⟩ := h
  obtain ⟨ready, apart⟩ := isReady_of_linkBlocks walked made linked
  have readyUnary := wellFormed_of_linkUnaryAfter (by simp) ready linkedUnary
  have apartUnary := apart_of_linkUnary apart linkedUnary
  have readyBinary := wellFormed_of_linkBinary readyUnary apartUnary linkedBinary
  have apartBinary := apart_of_linkBinary apartUnary linkedBinary
  have formed := wellFormed_of_linkLogical readyBinary apartBinary linkedLogical
  exact ⟨formed, fun p failed => Code.fault_of_ofPredicate formed failed,
    Compile.failsInName_predicate formed⟩

/-- The clause `${a} ++ > 5 && 'b' == null`. -/
def sampleClause : Written.Clause :=
  .joined
    (.comparison (.compare (.operand (.unary .short (.text ['a']) .increment)) .greater
      (.atom (.integer ⟨false, ['5'], by decide, List.forall_mem_singleton.2 rfl, by decide⟩)) rfl))
    .and
    (.compare (.operand (.atom (.quoted .single (.text ['b'])))) .equal (.atom .null) rfl)
    rfl

theorem wellFormed_of_parse_sampleClause :
    ∃ nodes, parse true "$\x7ba\x7d ++ > 5 && 'b' == null" = .ok nodes ∧ nodes.length = 1 ∧
      ∀ n ∈ nodes, n.WellFormed := by
  obtain ⟨found, flat, walked, row, same⟩ := tokens_printed [sampleClause]
  obtain ⟨nodes, parsed, same⟩ := parse_of_row walked row same
  have text : String.ofList (Written.printed [sampleClause]) =
      "$\x7ba\x7d ++ > 5 && 'b' == null" := by decide
  rw [text] at parsed
  have length : nodes.length = 1 := by simpa using congrArg List.length same
  exact ⟨nodes, parsed, length, (wellFormed_of_parse parsed).1⟩

end MessageExpr.Condition
