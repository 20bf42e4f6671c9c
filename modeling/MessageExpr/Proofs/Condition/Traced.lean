import MessageExpr.Proofs.Condition.Faults
import MessageExpr.Proofs.Cursor.Recorded

/-!
# Where reading a condition goes wrong

The grammar gives up in the middle of an element, and has recorded all it has read until then. What
it finds wrong is always at one of these tokens, or it is that the text has ended. All that is found
wrong after the grammar is at a token as well, because it is found in nodes that were made from
the tokens.

## Main definitions

* `Condition.runStop` — the cursor with which a walk ends, also when it gives up
* `Condition.recorded` — the tokens that are recorded when a condition is read

## Main results

* `Condition.placed_of_run` — the grammar
* `Condition.traced_pieces` — the pieces of tokens
* `Condition.readFrom_parse` — reading a condition
-/

namespace MessageExpr.Condition

/-! ## Where a walk ends -/

/-- Where reading an operator with its operand ends when it gives up: after the operator without
white space, before what starts no operand, or after the operand without white space. -/
def operatorStop (operands : List Rule) (c : Cursor) : Cursor :=
  match c.next.expectRun .whitespace with
  | .error _ => c.next
  | .ok d =>
    match firstOf operands d with
    -- Of the operands only a sign can fail, at the token after it.
    | .error _ => d.next
    | .ok none => d
    | .ok (some e) => e.next

/-- Where reading an element ends when it gives up. -/
def elementStop (c : Cursor) : Cursor :=
  match c.token.kind with
  | .unaryOperator | .minus => c.next
  | .binaryOperator => operatorStop (binaryOperands c.token.shown) c
  | .logicalOperator => operatorStop logicalOperands c
  | _ => c

/-- Where a walk ends, at the end of the text or where it gives up. -/
def runStop (c : Cursor) : Cursor :=
  if atEnd : c.atEnd then c
  else
    match found : firstOf elements c with
    | .error _ => elementStop c
    | .ok none => c
    | .ok (some d) =>
      have := Cursor.todo_nextOf_lt_of_before (by simpa using atEnd)
        (forward_firstOf forward_elements found) []
      runStop d.next
termination_by c.todo

/-- The tokens that are recorded when a condition is read, also when it is refused. -/
def recorded (escapes : Bool) (text : String) : List Token :=
  (runStop (Cursor.start escapes text).next).tokens.toList

section runStop

variable {c d : Cursor}

private theorem runStop_of_atEnd (h : c.atEnd = true) : runStop c = c := by
  rw [runStop, dif_pos h]

private theorem runStop_of_error (h : ¬c.atEnd = true) {p : Problem}
    (found : firstOf elements c = .error p) :
    runStop c = elementStop c := by
  rw [runStop, dif_neg h]
  split <;> simp_all

private theorem runStop_of_none (h : ¬c.atEnd = true) (found : firstOf elements c = .ok none) :
    runStop c = c := by
  rw [runStop, dif_neg h]
  split <;> simp_all

private theorem runStop_of_some (h : ¬c.atEnd = true) (found : firstOf elements c = .ok (some d)) :
    runStop c = runStop d.next := by
  rw [runStop, dif_neg h]
  split <;> simp_all

private theorem runStop_of_run (h : run c = .ok d) : runStop c = d := by
  fun_induction run c with
  | case1 c atEnd =>
    cases h
    exact runStop_of_atEnd atEnd
  | case2 => cases h
  | case3 => cases h
  | case4 c atEnd e found _ ih => exact (runStop_of_some atEnd found).trans (ih h)

end runStop

/-! ### What is recorded until then -/

private theorem before_operatorStop {operands : List Rule}
    (forward : ∀ rule ∈ operands, Forward rule)
    (c : Cursor) : c.Before (operatorStop operands c) := by
  unfold operatorStop
  split
  · exact c.before_next
  · rename_i d skipped
    have onward := c.before_next.trans (Cursor.before_of_expectRun skipped)
    split
    · exact onward.trans d.before_next
    · exact onward
    · rename_i e found
      exact onward.trans ((forward_firstOf forward found).trans e.before_next)

private theorem forward_of_operands {operands : List Rule}
    (among : ∀ rule ∈ operands, ∃ pair ∈ operandRules, pair.2 = rule) :
    ∀ rule ∈ operands, Forward rule := by
  intro rule mem
  obtain ⟨pair, isRule, rfl⟩ := among rule mem
  exact forward_operandRules pair isRule

private theorem before_elementStop (c : Cursor) : c.Before (elementStop c) := by
  unfold elementStop
  split
  · exact c.before_next
  · exact c.before_next
  · exact before_operatorStop (forward_of_operands (mem_operandRules_of_binaryOperands _)) c
  · exact before_operatorStop (forward_of_operands mem_operandRules_of_logicalOperands) c
  · exact .refl c

private theorem before_runStop (c : Cursor) : c.Before (runStop c) := by
  fun_induction runStop c with
  | case1 => exact .refl _
  | case2 => exact before_elementStop _
  | case3 => exact .refl _
  | case4 c _ d found _ ih =>
    exact (forward_firstOf forward_elements found).trans (d.before_next.trans ih)

/-- Where nothing is refused all tokens are recorded. -/
theorem recorded_of_tokens {escapes : Bool} {text : String} {found : List Token}
    (h : tokens escapes text = .ok found) : recorded escapes text = found := by
  obtain ⟨d, walked, made⟩ := bind_eq_ok.mp h
  obtain rfl := pure_eq_ok.mp made
  rw [recorded, runStop_of_run walked]

/-! ## What the grammar finds wrong -/

section grammar

variable {escapes : Bool} {text : String} {c : Cursor} {p : Problem}

/-- Without white space after it an operand or an operator is refused at the next token. -/
theorem placed_of_followedBySpace (reached : (Cursor.start escapes text).Before c)
    (h : followedBySpace c = .error p) : p.Placed c.next.tokens.toList text.length := by
  unfold followedBySpace at h
  split at h
  · cases h
  · exact c.hasRead_next.placed_of_expect (reached.trans c.before_next) (error_of_bind_pure h)

private theorem placed_of_negativeNumber (reached : (Cursor.start escapes text).Before c)
    (h : negativeNumber c = .error p) : p.Placed c.next.tokens.toList text.length := by
  unfold negativeNumber at h
  split at h
  · exact c.hasRead_next.placed_of_expect (reached.trans c.before_next) (error_of_bind_pure h)
  · cases h

/-- Of the operands only a sign can be refused. -/
theorem placed_of_operandRules (reached : (Cursor.start escapes text).Before c) :
    ∀ rule ∈ operandRules, rule.2 c = .error p → p.Placed c.next.tokens.toList text.length := by
  intro rule mem failed
  simp only [operandRules, List.mem_cons, List.not_mem_nil, or_false] at mem
  rcases mem with rfl | rfl | rfl | rfl | rfl | rfl | rfl
  · cases failed
  · cases failed
  · cases failed
  · cases failed
  · cases failed
  · cases failed
  · exact placed_of_negativeNumber reached failed

private theorem placed_of_operatorBefore (reached : (Cursor.start escapes text).Before c)
    (read : c.HasRead) (notEnd : c.atEnd = false) {group : OperatorGroup} {operands : List Rule}
    (among : ∀ rule ∈ operands, ∃ pair ∈ operandRules, pair.2 = rule)
    (h : operatorBefore group operands c = .error p) :
    p.Placed (operatorStop operands c).tokens.toList text.length := by
  have reachedNext := reached.trans c.before_next
  rw [operatorBefore] at h
  unfold operatorStop
  rcases bind_eq_error.mp h with failed | ⟨d, skipped, failed⟩
  · rw [failed]
    exact c.hasRead_next.placed_of_expect reachedNext (error_of_bind_pure failed)
  · rw [skipped]
    have onward := c.before_next.trans (Cursor.before_of_expectRun skipped)
    split at failed
    · exact absurd failed pure_ne_error
    · rcases bind_eq_error.mp failed with failed | ⟨result, found, failed⟩
      · simp only [failed]
        obtain ⟨rule, mem, failed⟩ := firstOf_eq_error failed
        obtain ⟨pair, isRule, rfl⟩ := among rule mem
        exact placed_of_operandRules (reached.trans onward) pair isRule failed
      · simp only [found]
        cases result with
        | some e =>
          have toOperand := onward.trans (forward_firstOf (forward_of_operands among) found)
          exact placed_of_followedBySpace (reached.trans toOperand) failed
        | none =>
          -- The problem is at the operator, which was recorded before the white space.
          cases failed
          exact .inr ⟨rfl, c.token, onward.mem_tokens _ (read.mem_tokens notEnd), rfl⟩

/-- An element that is refused is so at a recorded token, or where the text has ended. -/
theorem placed_of_elements (reached : (Cursor.start escapes text).Before c) (read : c.HasRead)
    (notEnd : c.atEnd = false) : ∀ rule ∈ elements, rule c = .error p →
      p.Placed (elementStop c).tokens.toList text.length := by
  intro rule mem failed
  simp only [elements, List.mem_cons, List.not_mem_nil, or_false] at mem
  rcases mem with rfl | rfl | rfl | rfl | rfl | rfl | rfl | rfl | rfl | rfl | rfl
  · cases failed
  · cases failed
  · cases failed
  · unfold unaryOperator at failed
    split at failed
    · rename_i accepts
      rw [elementStop, read.accepts_iff.mp accepts]
      exact placed_of_followedBySpace reached (error_of_bind_pure failed)
    · cases failed
  · unfold binaryOperator at failed
    split at failed
    · rename_i accepts
      rw [elementStop, read.accepts_iff.mp accepts]
      exact placed_of_operatorBefore reached read notEnd (mem_operandRules_of_binaryOperands _)
        (error_of_bind_pure failed)
    · cases failed
  · unfold logicalOperator at failed
    split at failed
    · rename_i accepts
      rw [elementStop, read.accepts_iff.mp accepts]
      exact placed_of_operatorBefore reached read notEnd mem_operandRules_of_logicalOperands
        (error_of_bind_pure failed)
    · cases failed
  · cases failed
  · cases failed
  · cases failed
  · have accepts : c.accepts .minus = true := by
      unfold negativeNumber at failed
      split at failed
      · assumption
      · cases failed
    rw [elementStop, read.accepts_iff.mp accepts]
    exact placed_of_negativeNumber reached failed
  · cases failed

/-- A walk gives up at a recorded token, or where the text has ended. -/
theorem placed_of_run (reached : (Cursor.start escapes text).Before c) (read : c.HasRead)
    (h : run c = .error p) : p.Placed (runStop c).tokens.toList text.length := by
  fun_induction run c with
  | case1 => cases h
  | case2 c atEnd problem found =>
    cases h
    obtain ⟨rule, mem, failed⟩ := firstOf_eq_error found
    rw [runStop_of_error atEnd found]
    exact placed_of_elements reached read (by simpa using atEnd) rule mem failed
  | case3 c atEnd found =>
    cases h
    rw [runStop_of_none atEnd found]
    exact .inr ⟨rfl, c.token, read.mem_tokens (by simpa using atEnd), read.previousIndex.symm⟩
  | case4 c atEnd d found _ ih =>
    have onward := (forward_firstOf forward_elements found).trans d.before_next
    rw [runStop_of_some atEnd found]
    exact ih (reached.trans onward) d.hasRead_next h

end grammar

/-! ## What is found wrong after the grammar -/

variable {P : Token → Prop}

/-- The pieces of tokens are made, or the problem is at one of them. -/
theorem traced_pieces {opened : List Nat} {quote : Option (BlockKind × Nat)}
    {tokens : List Token} (functions : ∀ index ∈ opened, ∃ token, P token ∧ token.index = index)
    (quoted : ∀ kind index, quote = some (kind, index) → ∃ token, P token ∧ token.index = index)
    (h : ∀ token ∈ tokens, P token) :
    Traced P (fun l => ∀ p ∈ l, Piece.MadeFrom P p) (pieces opened quote tokens) := by
  fun_induction pieces opened quote tokens with
  | case1 => exact ⟨rfl, functions _ (by simp)⟩
  | case2 => exact ⟨rfl, quoted _ _ rfl⟩
  | case3 => exact List.forall_mem_nil _
  | case4 opened quote token rest _ ih =>
    obtain ⟨here, rest⟩ := List.forall_mem_cons.mp h
    have opens := List.forall_mem_cons.mpr ⟨⟨token, here, rfl⟩, functions⟩
    exact Piece.traced_cons (.block here (by simp)) (ih opens quoted rest)
  | case5 opened quote token rest _ _ ih =>
    obtain ⟨here, rest⟩ := List.forall_mem_cons.mp h
    have still := fun index mem => functions index (List.mem_of_mem_tail mem)
    exact Piece.traced_cons (.closing here) (ih still quoted rest)
  | case7 opened token rest _ _ _ _ kind ih =>
    obtain ⟨here, rest⟩ := List.forall_mem_cons.mp h
    refine Piece.traced_cons (.block here (by simp)) (ih functions ?_ rest)
    rintro kind index ⟨⟩
    exact ⟨token, here, rfl⟩
  | case8 opened token rest _ _ _ _ _ _ ih =>
    obtain ⟨here, rest⟩ := List.forall_mem_cons.mp h
    exact Piece.traced_cons (.closing here) (ih functions (by simp) rest)
  | case11 opened quote token rest _ _ _ _ _ _ ih =>
    obtain ⟨here, rest⟩ := List.forall_mem_cons.mp h
    exact Piece.traced_cons (.boolean here) (ih functions quoted rest)
  | case12 opened quote token rest _ _ _ _ _ _ ih =>
    obtain ⟨here, rest⟩ := List.forall_mem_cons.mp h
    exact Piece.traced_cons (.null here) (ih functions quoted rest)
  | case13 opened quote token rest _ _ _ _ _ _ ih =>
    obtain ⟨here, rest⟩ := List.forall_mem_cons.mp h
    exact Piece.traced_cons_node (Node.traced_ofNumber here false) (ih functions quoted rest)
  | case14 opened quote token rest _ _ _ _ _ _ ih =>
    obtain ⟨here, rest⟩ := List.forall_mem_cons.mp h
    exact Piece.traced_cons_node (Node.traced_ofUnary here) (ih functions quoted rest)
  | case15 opened quote token rest _ _ _ _ _ _ ih =>
    obtain ⟨here, rest⟩ := List.forall_mem_cons.mp h
    exact Piece.traced_cons_node (Node.traced_ofBinary here) (ih functions quoted rest)
  | case16 opened quote token rest _ _ _ _ _ _ ih =>
    obtain ⟨here, rest⟩ := List.forall_mem_cons.mp h
    exact Piece.traced_cons_node (Node.traced_ofLogical here) (ih functions quoted rest)
  | case18 opened quote sign _ _ _ _ _ token rest _ _ _ _ _ _ _ ih =>
    -- The node of a negative number keeps the token of the number, not that of the sign.
    obtain ⟨-, rest⟩ := List.forall_mem_cons.mp h
    obtain ⟨here, rest⟩ := List.forall_mem_cons.mp rest
    exact Piece.traced_cons_node (Node.traced_ofNumber here true) (ih functions quoted rest)
  | _ =>
    -- All other tokens are pieces as they are.
    rename_i ih
    obtain ⟨here, rest⟩ := List.forall_mem_cons.mp h
    exact Piece.traced_cons here (ih functions quoted rest)

/-! ## Reading a condition -/

section reading

variable {escapes : Bool} {text : String} {p : Problem}

private theorem placed_of_tokens (h : tokens escapes text = .error p) :
    p.Placed (recorded escapes text) text.length :=
  placed_of_run (Cursor.start escapes text).before_next (Cursor.hasRead_next _)
    (error_of_bind_pure h)

/-- A condition is read from the recorded tokens, and refused at one of them or where the text has
ended. -/
theorem readFrom_parse (escapes : Bool) (text : String) :
    ReadFrom (recorded escapes text) text (parse escapes text) := by
  refine .of_tokens ?_ (fun _ => placed_of_tokens) (fun _ => recorded_of_tokens) fun found => ?_
  · exact Cursor.index_lt_of_before ((Cursor.before_next _).trans (before_runStop _))
  · have pruned : Traced (· ∈ found) _ (pieces [] none (prune found)) :=
      traced_pieces (by simp) (by simp) fun _ => mem_of_mem_pruneAfter
    exact pruned.bind fun _ made =>
      (traced_linkBlocks (Piece.madeFrom_gather made)).bind fun _ made =>
        (traced_linkUnary made).bind fun _ made =>
          (traced_linkBinary made).bind fun _ made => traced_linkLogical made

end reading

end MessageExpr.Condition
