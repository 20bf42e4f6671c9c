import MessageExpr.Proofs.Condition.Cover
import MessageExpr.Proofs.Condition.Stages
import MessageExpr.Proofs.Condition.WellFormed

/-!
# What can be wrong with a condition

The grammar of conditions is as strict as the steps that make and link the nodes. What it lets
through has balanced blocks, known operators and numbers that can be read, and after an operator an
operand that the operator accepts. So the faults of those steps never reach the reader of a
message: a condition is refused by the grammar, or a block has no end, or an operator has no
operand.

## Main definitions

* `Fault.OfCondition` — what can be wrong with a condition
* `Fault.IsInternal` — what the steps after the grammar check and never find

## Main results

* `Condition.fault_of_run` — what the grammar refuses
* `Condition.fault_of_pieces` — tokens that were read become pieces unless a block has no end
* `Condition.fault_of_parse` — why a condition cannot be read
-/

namespace MessageExpr

namespace Fault

/-- What can be wrong with a condition. -/
inductive OfCondition : Fault → Prop where
  | unexpected (found : Token) : OfCondition (.unexpected found)
  | noSpace (found : Token) : OfCondition (.expected .whitespace found)
  | badStart {group : OperatorGroup} (between : group ≠ .unary) (spelling : String)
      (found : Token) : OfCondition (.badStart group spelling found)
  | unended (kind : BlockKind) : OfCondition (.unended kind)
  | alone (symbol : String) : OfCondition (.noOperand .unary symbol .left)
  | refused (symbol operand : String) : OfCondition (.badOperand .unary symbol .left operand)
  | noOperand {group : OperatorGroup} (between : group ≠ .unary) (symbol : String) (side : Side) :
      OfCondition (.noOperand group symbol side)

/-- Whether a fault is one that only the making and linking of nodes looks for: crossing blocks,
operators and numbers that cannot be read, a sign without a number, and operands that an operator
between operands refuses. -/
def IsInternal : Fault → Prop
  | unstarted _ | crossed _ _ _ | misplaced _ _ | unknownOperator _ _ | badNumber _ => True
  | expected kind _ => kind = .numericValue
  | badOperand group _ _ _ => group ≠ .unary
  | _ => False

theorem OfCondition.not_isInternal {fault : Fault} (h : fault.OfCondition) :
    ¬ fault.IsInternal := by
  cases h with
  | noSpace => exact nofun
  | refused => exact fun between => between rfl
  | _ => exact id

end Fault

namespace Condition

/-! ## What the grammar refuses -/

/-- A rule that never fails where a token of any kind has been read. -/
def Rule.Succeeds (rule : Rule) : Prop :=
  ∀ {c : Cursor} {p : Problem}, c.HasRead → rule c ≠ .error p

/-- A rule that fails for what can be wrong with a condition only. -/
def Rule.Refuses (rule : Rule) : Prop :=
  ∀ {c : Cursor} {p : Problem}, c.HasRead → rule c = .error p → p.fault.OfCondition

theorem Rule.Succeeds.refuses {rule : Rule} (h : Rule.Succeeds rule) : Rule.Refuses rule :=
  fun read failed => absurd failed (h read)

/-- Some rules fail together where one of them does. -/
theorem firstOf_eq_error {rules : List Rule} {c : Cursor} {p : Problem}
    (h : firstOf rules c = .error p) : ∃ rule ∈ rules, rule c = .error p := by
  induction rules with
  | nil => cases h
  | cons rule rest ih =>
    rcases bind_eq_error.mp h with failed | ⟨result, -, failed⟩
    · exact ⟨rule, by simp, failed⟩
    · cases result with
      | some d => exact absurd failed pure_ne_error
      | none =>
        obtain ⟨other, mem, failed⟩ := ih failed
        exact ⟨other, List.mem_cons_of_mem _ mem, failed⟩

private theorem fault_of_expect {c : Cursor} {kind : TokenKind} {p : Problem}
    (h : c.expect kind = .error p) : ∃ found, p.fault = .expected kind found := by
  unfold Cursor.expect at h
  split at h
  · cases h
  · split at h <;> cases h
    exact ⟨_, rfl⟩

private theorem ofCondition_of_expect {c : Cursor} {p : Problem}
    (h : c.expect .whitespace = .error p) : p.fault.OfCondition := by
  obtain ⟨found, fault⟩ := fault_of_expect h
  exact fault ▸ .noSpace found

private theorem ofCondition_of_followedBySpace {c : Cursor} {p : Problem}
    (h : followedBySpace c = .error p) : p.fault.OfCondition := by
  unfold followedBySpace at h
  split at h
  · cases h
  · exact ofCondition_of_expect (error_of_bind_pure h)

/-- After a minus sign there is a number. -/
theorem kind_next_of_minus {c : Cursor} (h : c.HasRead) (isSign : c.token.kind = .minus) :
    c.next.token.kind = .numericValue := by
  obtain ⟨b, rfl⟩ := h
  have sign : (Token.readAt b.escapes [] b.text b.index).kind = .minus := isSign
  obtain ⟨length, d, rest, after, isDigit⟩ := Token.digit_of_read_minus sign
  have index : b.next.index = b.index + 1 := congrArg (b.index + ·) length
  have here : b.text.drop (b.index + 1) = d :: rest := by
    rw [← after, List.drop_drop]
  show (Token.readAt b.escapes [] b.text b.next.index).kind = _
  rw [index, Token.readAt, here]
  exact Token.kind_read_of_isDigit _ _ _ isDigit rest

private theorem succeeds_single (kind : TokenKind) : Rule.Succeeds (single kind) := by
  intro c p _ failed
  cases failed

private theorem succeeds_quotedText (quote : TokenKind) : Rule.Succeeds (quotedText quote) := by
  intro c p _ failed
  cases failed

private theorem succeeds_functionText : Rule.Succeeds functionText := by
  intro c p _ failed
  cases failed

private theorem succeeds_negativeNumber : Rule.Succeeds negativeNumber := by
  intro c p read failed
  unfold negativeNumber at failed
  split at failed
  · rename_i accepts
    have isNumber := kind_next_of_minus read (read.accepts_iff.mp accepts)
    have expected : c.next.expect .numericValue = .ok () := by
      simp [Cursor.expect, c.hasRead_next.current, isNumber, Token.isEnd]
    rw [expected] at failed
    exact pure_ne_error failed
  · cases failed

/-- Only a sign could be without its number, and no sign is. -/
theorem succeeds_operandRules : ∀ rule ∈ operandRules, Rule.Succeeds rule.2 := by
  intro rule h
  simp only [operandRules, List.mem_cons, List.not_mem_nil, or_false] at h
  rcases h with rfl | rfl | rfl | rfl | rfl | rfl | rfl
  · exact succeeds_quotedText _
  · exact succeeds_quotedText _
  · exact succeeds_functionText
  · exact succeeds_single _
  · exact succeeds_single _
  · exact succeeds_single _
  · exact succeeds_negativeNumber

theorem mem_operandRules_of_binaryOperands (spelling : String) :
    ∀ rule ∈ binaryOperands spelling, ∃ pair ∈ operandRules, pair.2 = rule := by
  intro rule mem
  unfold binaryOperands at mem
  split at mem <;> (obtain ⟨pair, among, rfl⟩ := List.mem_map.1 mem)
  · exact ⟨pair, (List.mem_filter.1 among).1, rfl⟩
  · exact ⟨pair, among, rfl⟩

theorem mem_operandRules_of_logicalOperands :
    ∀ rule ∈ logicalOperands, ∃ pair ∈ operandRules, pair.2 = rule := by
  intro rule mem
  obtain ⟨pair, among, rfl⟩ := List.mem_map.1 mem
  exact ⟨pair, (List.mem_filter.1 among).1, rfl⟩

private theorem refuses_unaryOperator : Rule.Refuses unaryOperator := by
  intro c p _ failed
  unfold unaryOperator at failed
  split at failed
  · exact ofCondition_of_followedBySpace (error_of_bind_pure failed)
  · cases failed

/-- An operator between operands is refused without white space around its operand, and before what
starts no operand. -/
theorem ofCondition_of_operatorBefore {group : OperatorGroup} (between : group ≠ .unary)
    {operands : List Rule} (succeeds : ∀ rule ∈ operands, Rule.Succeeds rule) {c : Cursor}
    {p : Problem} (h : operatorBefore group operands c = .error p) : p.fault.OfCondition := by
  rw [operatorBefore] at h
  rcases bind_eq_error.mp h with failed | ⟨d, skipped, failed⟩
  · exact ofCondition_of_expect (error_of_bind_pure failed)
  · split at failed
    · exact absurd failed pure_ne_error
    · obtain ⟨_, -, made⟩ := bind_eq_ok.mp skipped
      obtain rfl := pure_eq_ok.mp made
      rcases bind_eq_error.mp failed with failed | ⟨result, -, failed⟩
      · obtain ⟨rule, mem, failed⟩ := firstOf_eq_error failed
        exact absurd failed (succeeds rule mem (c.hasRead_next.skipRun _))
      · cases result with
        | some e => exact ofCondition_of_followedBySpace failed
        | none =>
          cases failed
          exact .badStart between _ _

private theorem refuses_binaryOperator : Rule.Refuses binaryOperator := by
  intro c p _ failed
  unfold binaryOperator at failed
  split at failed
  · refine ofCondition_of_operatorBefore (by decide) (fun rule mem => ?_)
      (error_of_bind_pure failed)
    obtain ⟨pair, isRule, rfl⟩ := mem_operandRules_of_binaryOperands _ rule mem
    exact succeeds_operandRules pair isRule
  · cases failed

private theorem refuses_logicalOperator : Rule.Refuses logicalOperator := by
  intro c p _ failed
  unfold logicalOperator at failed
  split at failed
  · refine ofCondition_of_operatorBefore (by decide) (fun rule mem => ?_)
      (error_of_bind_pure failed)
    obtain ⟨pair, isRule, rfl⟩ := mem_operandRules_of_logicalOperands rule mem
    exact succeeds_operandRules pair isRule
  · cases failed

/-- The elements that fail are operators. -/
theorem refuses_elements : ∀ rule ∈ elements, Rule.Refuses rule := by
  intro rule h
  simp only [elements, List.mem_cons, List.not_mem_nil, or_false] at h
  rcases h with rfl | rfl | rfl | rfl | rfl | rfl | rfl | rfl | rfl | rfl | rfl
  · exact Rule.Succeeds.refuses (succeeds_quotedText _)
  · exact Rule.Succeeds.refuses (succeeds_quotedText _)
  · exact Rule.Succeeds.refuses succeeds_functionText
  · exact refuses_unaryOperator
  · exact refuses_binaryOperator
  · exact refuses_logicalOperator
  · exact Rule.Succeeds.refuses (succeeds_single _)
  · exact Rule.Succeeds.refuses (succeeds_single _)
  · exact Rule.Succeeds.refuses (succeeds_single _)
  · exact Rule.Succeeds.refuses succeeds_negativeNumber
  · exact Rule.Succeeds.refuses (succeeds_single _)

/-- A walk is over at a token that starts nothing, or in an operator. -/
theorem fault_of_run {c : Cursor} (read : c.HasRead) {p : Problem} (h : run c = .error p) :
    p.fault.OfCondition := by
  fun_induction run c with
  | case1 => cases h
  | case2 c _ problem found =>
    cases h
    obtain ⟨rule, mem, failed⟩ := firstOf_eq_error found
    exact refuses_elements rule mem read failed
  | case3 =>
    cases h
    exact .unexpected _
  | case4 c _ d _ _ ih => exact ih d.hasRead_next h

/-! ## What is found when nodes are made -/

theorem mem_of_mem_pruneAfter {quote : Option TokenKind} {functions : Nat} {tokens : List Token}
    {token : Token} (h : token ∈ pruneAfter quote functions tokens) : token ∈ tokens := by
  fun_induction pruneAfter quote functions tokens with
  | case1 => exact h
  | case5 _ _ _ _ _ _ _ _ ih => exact List.mem_cons_of_mem _ (ih h)
  | case2 _ _ _ _ _ ih | case3 _ _ _ _ _ _ ih | case4 _ _ _ _ _ _ _ ih
  | case6 _ _ _ _ _ _ _ _ ih =>
    rcases List.mem_cons.mp h with rfl | later
    · exact List.mem_cons_self
    · exact List.mem_cons_of_mem _ (ih later)

section Pieces

variable {more : Except Problem (List Piece)} {p : Problem}

/-- A node that can be made adds no problem to those of the pieces after it. -/
theorem error_of_node {made : Except Problem Node} {node : Node} (known : made = .ok node)
    (h : (do let node ← made; let more ← more; pure (Piece.node node :: more)) = .error p) :
    more = .error p := by
  rcases bind_eq_error.mp h with failed | ⟨_, -, failed⟩
  · rw [known] at failed
    cases failed
  · exact error_of_bind_pure failed

end Pieces

/-- Tokens that were read become pieces, unless a block has no end. -/
theorem fault_of_pieces {opened : List Nat} {quote : Option (BlockKind × Nat)}
    {tokens : List Token} (read : ∀ token ∈ tokens, token.IsRead) {p : Problem}
    (h : pieces opened quote tokens = .error p) : ∃ kind, p.fault = .unended kind := by
  fun_induction pieces opened quote tokens with
  | case1 | case2 =>
    cases h
    exact ⟨_, rfl⟩
  | case3 => cases h
  | case13 opened quote token rest _ _ _ _ _ kind ih =>
    obtain ⟨here, read⟩ := List.forall_mem_cons.mp read
    obtain ⟨_, known⟩ := ofNumber_of_isRead here kind false
    exact ih read (error_of_node known h)
  | case14 opened quote token rest _ _ _ _ _ kind ih =>
    obtain ⟨here, read⟩ := List.forall_mem_cons.mp read
    obtain ⟨_, known⟩ := ofUnary_of_isRead here kind
    exact ih read (error_of_node known h)
  | case15 opened quote token rest _ _ _ _ _ kind ih =>
    obtain ⟨here, read⟩ := List.forall_mem_cons.mp read
    obtain ⟨_, -, known⟩ := ofBinary_of_isRead here kind
    exact ih read (error_of_node known h)
  | case16 opened quote token rest _ _ _ _ _ kind ih =>
    obtain ⟨here, read⟩ := List.forall_mem_cons.mp read
    obtain ⟨_, known⟩ := ofLogical_of_isRead here kind
    exact ih read (error_of_node known h)
  | case18 opened quote sign _ _ _ _ _ token rest _ _ _ _ _ _ negative ih =>
    obtain ⟨-, read⟩ := List.forall_mem_cons.mp read
    obtain ⟨here, read⟩ := List.forall_mem_cons.mp read
    simp only [Bool.and_eq_true, beq_iff_eq] at negative
    obtain ⟨_, known⟩ := ofNumber_of_isRead here negative.2 true
    exact ih read (error_of_node known h)
  | _ =>
    -- All other tokens are pieces as they are.
    rename_i ih
    exact ih (List.forall_mem_cons.mp read).2 (error_of_bind_pure h)

/-! ## What can be wrong with a condition -/

private theorem not_isClosing_of_isReady {n : Node} {groups : List OperatorGroup}
    (h : n.IsReady groups) : n.isClosing = false := by
  rcases h with formed | bare
  · cases formed <;> rfl
  · cases bare <;> rfl

/-- Linking the operators of a row fails only where an operator has no operand, or a unary operator
another operand than a function. -/
theorem fault_of_linkOperators {found : List Token} {flat : List Node} (row : Row found flat)
    (seated : Seated flat) {p : Problem} (h : linkOperators flat = .error p) :
    p.fault.OfCondition := by
  rcases bind_eq_error.mp h with failed | ⟨unary, linkedUnary, h⟩
  · obtain ⟨symbol, fault | ⟨operand, fault⟩⟩ := fault_of_linkUnary failed
    · exact fault ▸ .alone symbol
    · exact fault ▸ .refused symbol operand
  have readyUnary := wellFormed_of_linkUnaryAfter (by simp) row.isReady linkedUnary
  have seatedUnary := seated_of_linkUnary seated linkedUnary
  rcases bind_eq_error.mp h with failed | ⟨binary, linkedBinary, failed⟩
  · obtain ⟨symbol, side, fault⟩ := fault_of_linkBinary readyUnary seatedUnary failed
    exact fault ▸ .noOperand (by decide) symbol side
  · have readyBinary := wellFormed_of_linkBinary readyUnary seatedUnary.apart linkedBinary
    obtain ⟨symbol, side, fault⟩ :=
      fault_of_linkLogical (fun n mem => not_isClosing_of_isReady (readyBinary n mem)) failed
    exact fault ▸ .noOperand (by decide) symbol side

/-- A condition is refused by the grammar, has a block without an end, or has an operator without
an operand. Nothing that the steps after the grammar check for themselves is ever found. -/
theorem fault_of_parse {escapes : Bool} {text : String} {p : Problem}
    (h : parse escapes text = .error p) : p.fault.OfCondition ∧ ¬ p.fault.IsInternal := by
  suffices fault : p.fault.OfCondition from ⟨fault, fault.not_isInternal⟩
  rcases bind_eq_error.mp h with failed | ⟨found, walked, rest⟩
  · rcases bind_eq_error.mp failed with failed | ⟨_, -, made⟩
    · exact fault_of_run (Cursor.start escapes text).hasRead_next failed
    · exact absurd made pure_ne_error
  rcases seatedRow_of_tokens walked with ⟨flat, row, seated⟩ | ⟨q, broken⟩
  · exact fault_of_linkOperators row seated ((parse_of_isRow walked row).symm.trans h)
  · obtain rfl : q = p := by simpa [broken, bind, Except.bind] using rest
    have read : ∀ token ∈ prune found, token.IsRead :=
      fun token mem => (covers_of_tokens walked).2 token (mem_of_mem_pruneAfter mem)
    obtain ⟨kind, fault⟩ := fault_of_pieces read broken
    exact fault ▸ .unended kind

/-- The unary operator in `5 ++` has no function before it, but a number. -/
theorem fault_of_parse_number :
    parse true "5 ++" = .error ⟨.badOperand .unary "++" .left "5", 2⟩ ∧
      ¬ (Fault.badOperand .unary "++" .left "5").IsInternal := by
  have count : (parse true "5 ++").map List.length =
      .error ⟨.badOperand .unary "++" .left "5", 2⟩ := by
    decide +kernel
  have failed := map_eq_error.mp count
  exact ⟨failed, (fault_of_parse failed).2⟩

end Condition

end MessageExpr
