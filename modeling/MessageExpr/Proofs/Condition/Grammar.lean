import MessageExpr.Condition

/-!
# The rules at a token

Every rule of the grammar starts with one kind of token. So the kind of the current token decides
which rule of a list is taken, and what it does can be said by equations. A function and quoted
text are passed over in the same way: up to the token that stops, with the functions between.

## Main definitions

* `Cursor.Settled` — a cursor at the end of the text stays there
* `Cursor.HasRead` — a cursor that has read a token of any kind
* `Condition.ruleFor?` — the rule that starts with a kind of token

## Main results

* `skipTo_zero` — a function is passed over like quoted text that a function end stops
* `firstOf_eq` — the kind of the current token decides which rule is taken
-/

namespace MessageExpr

namespace Cursor

/-- A cursor that has read the end of the text stays there. -/
def Settled (c : Cursor) : Prop := c.atEnd = true → ∀ filter, c.nextOf filter = c

theorem accepts_eq {c : Cursor} {token : Token} (h : c.current = some token) (kind : TokenKind) :
    c.accepts kind = (token.kind == kind) := by
  simp [accepts, h]

theorem atEnd_eq {c : Cursor} {token : Token} (h : c.current = some token) :
    c.atEnd = token.isEnd := by
  simp [atEnd, h]

theorem token_eq {c : Cursor} {token : Token} (h : c.current = some token) :
    c.token = token := by
  simp [Cursor.token, h]

theorem settled_nextOf (c : Cursor) (filter : List TokenKind) : (c.nextOf filter).Settled := by
  intro atEnd other
  rcases Nat.lt_or_ge c.index c.text.length with h | h
  · have := Token.length_pos_of_readAt c.escapes filter h
    rw [atEnd_eq rfl, this.2] at atEnd
    cases atEnd
  · simp [nextOf, Token.readAt_of_length_le h, Token.endOfLine, Token.isEnd]

theorem settled_next (c : Cursor) : c.next.Settled := c.settled_nextOf []

private theorem settled_skipTo {c : Cursor} (h : c.Settled) (depth : Nat) :
    (c.skipTo depth).Settled := by
  fun_induction skipTo depth c with
  | case1 => exact h
  | case2 => exact h
  | case3 c _ _ _ _ ih => exact ih c.settled_next
  | case4 _ c _ _ _ _ ih => exact ih c.settled_next
  | case5 _ c _ _ _ _ ih => exact ih c.settled_next

section skipTo

variable {c : Cursor} {token : Token} {depth : Nat}

theorem skipTo_of_atEnd (h : c.atEnd = true) : c.skipTo depth = c := by
  rw [skipTo.eq_def, dif_pos h]

theorem skipTo_of_end (notEnd : ¬c.atEnd = true) (isEnd : c.accepts .functionEnd = true) :
    c.skipTo depth = match depth with
      | 0 => c
      | inner + 1 => c.next.skipTo inner := by
  cases depth <;> rw [skipTo.eq_def, dif_neg notEnd, if_pos isEnd]

theorem skipTo_of_start (notEnd : ¬c.atEnd = true) (other : ¬c.accepts .functionEnd = true)
    (isStart : c.accepts .functionStart = true) :
    c.skipTo depth = c.next.skipTo (depth + 1) := by
  rw [skipTo.eq_def, dif_neg notEnd, if_neg other, if_pos isStart]

theorem skipTo_of_text (notEnd : ¬c.atEnd = true) (other : ¬c.accepts .functionEnd = true)
    (plain : ¬c.accepts .functionStart = true) : c.skipTo depth = c.next.skipTo depth := by
  rw [skipTo.eq_def, dif_neg notEnd, if_neg other, if_neg plain]

end skipTo

/-- The end of a function inside leads on to the end of the function around it. -/
theorem skipTo_succ (depth : Nat) (c : Cursor) :
    c.skipTo (depth + 1) =
      if (c.skipTo depth).atEnd then c.skipTo depth else (c.skipTo depth).next.skipTo 0 := by
  fun_induction skipTo depth c with
  | case1 depth c atEnd => rw [skipTo_of_atEnd atEnd, if_pos atEnd]
  | case2 c atEnd _ isEnd => rw [skipTo_of_end atEnd isEnd, if_neg atEnd]
  | case3 c atEnd _ isEnd inner ih => rw [skipTo_of_end atEnd isEnd, ← ih]
  | case4 depth c atEnd _ notEnd isStart ih => rw [skipTo_of_start atEnd notEnd isStart, ih]
  | case5 depth c atEnd _ notEnd notStart ih => rw [skipTo_of_text atEnd notEnd notStart, ih]

/-! ### Cursors that have read a token of any kind -/

/-- The cursor has read its current token, which may be of any kind. -/
def HasRead (c : Cursor) : Prop := ∃ b : Cursor, b.next = c

section HasRead

variable {c : Cursor}

theorem hasRead_next (c : Cursor) : c.next.HasRead := ⟨c, rfl⟩

theorem HasRead.settled (h : c.HasRead) : c.Settled := by
  obtain ⟨b, rfl⟩ := h
  exact b.settled_next

theorem HasRead.current (h : c.HasRead) : c.current = some c.token := by
  obtain ⟨b, rfl⟩ := h
  rfl

theorem HasRead.accepts_iff (h : c.HasRead) {kind : TokenKind} :
    c.accepts kind = true ↔ c.token.kind = kind := by
  rw [accepts_eq h.current, beq_iff_eq]

theorem HasRead.skipTo (h : c.HasRead) (depth : Nat) : (c.skipTo depth).HasRead := by
  fun_induction Cursor.skipTo depth c with
  | case1 => exact h
  | case2 => exact h
  | case3 c _ _ _ _ ih => exact ih c.hasRead_next
  | case4 _ c _ _ _ _ ih => exact ih c.hasRead_next
  | case5 _ c _ _ _ _ ih => exact ih c.hasRead_next

theorem HasRead.skipRun (h : c.HasRead) (kind : TokenKind) : (c.skipRun kind).HasRead := by
  fun_induction Cursor.skipRun kind c with
  | case1 => exact h
  | case2 c _ _ _ ih => exact ih c.hasRead_next
  | case3 => exact h

end HasRead

end Cursor

namespace Condition

/-! ## Functions and quoted text -/

/-- A function is passed over like quoted text that a function end stops. -/
theorem skipTo_zero {c : Cursor} (settled : c.Settled) :
    c.skipTo 0 = skipQuoted .functionEnd [] c := by
  fun_induction skipQuoted .functionEnd [] c with
  | case1 c atEnd => exact Cursor.skipTo_of_atEnd atEnd
  | case2 c atEnd isEnd => rw [Cursor.skipTo_of_end atEnd isEnd]
  | case3 c atEnd notEnd d skipped _ ih =>
    simp only [Cursor.skipFunction?, Option.ite_none_right_eq_some, Option.some.injEq] at skipped
    obtain ⟨isStart, rfl⟩ := skipped
    have settled' := Cursor.settled_skipTo c.settled_next 0
    rw [Cursor.skipTo_of_start atEnd notEnd isStart, Cursor.skipTo_succ,
      ← ih (Cursor.settled_nextOf _ _)]
    split
    · rename_i ended
      rw [settled' ended, Cursor.skipTo_of_atEnd ended]
    · rfl
  | case4 c atEnd notEnd notSkipped _ ih =>
    simp only [Cursor.skipFunction?, ite_eq_right_iff, reduceCtorEq, imp_false] at notSkipped
    rw [Cursor.skipTo_of_text atEnd notEnd notSkipped]
    exact ih c.settled_next

theorem functionText_eq {c : Cursor} (h : c.accepts .functionStart = true) :
    functionText c = .ok (some (skipQuoted .functionEnd [] c.next)) := by
  rw [functionText, Cursor.skipFunction?, if_pos h, skipTo_zero c.settled_next]

section skipQuoted

variable {stop : TokenKind} {filter : List TokenKind} {c : Cursor} {token : Token}

theorem skipQuoted_of_atEnd (h : c.atEnd = true) : skipQuoted stop filter c = c := by
  rw [skipQuoted, dif_pos h]

theorem skipQuoted_of_stop (h : c.current = some token) (isStop : token.kind = stop) :
    skipQuoted stop filter c = c := by
  rw [skipQuoted]
  simp [Cursor.accepts_eq h, isStop]

theorem skipQuoted_of_start (h : c.current = some token) (isStart : token.kind = .functionStart)
    (other : stop ≠ .functionStart) :
    skipQuoted stop filter c =
      skipQuoted stop filter ((skipQuoted .functionEnd [] c.next).nextOf filter) := by
  have skipped : c.skipFunction? = some (skipQuoted .functionEnd [] c.next) := by
    rw [Cursor.skipFunction?, if_pos (by simp [Cursor.accepts_eq h, isStart]),
      skipTo_zero c.settled_next]
  rw [skipQuoted, dif_neg (by simp [Cursor.atEnd_eq h, Token.isEnd, isStart]),
    if_neg (by simp [Cursor.accepts_eq h, isStart, Ne.symm other])]
  split
  · rename_i d found
    rw [skipped] at found
    cases found
    rfl
  · rename_i notFound
    rw [skipped] at notFound
    cases notFound

theorem skipQuoted_of_text (h : c.current = some token) (notEnd : token.isEnd = false)
    (other : token.kind ≠ stop) (plain : token.kind ≠ .functionStart) :
    skipQuoted stop filter c = skipQuoted stop filter (c.nextOf filter) := by
  have notSkipped : c.skipFunction? = none := by
    rw [Cursor.skipFunction?, if_neg (by simp [Cursor.accepts_eq h, plain])]
  rw [skipQuoted, dif_neg (by simp [Cursor.atEnd_eq h, notEnd]),
    if_neg (by simp [Cursor.accepts_eq h, other])]
  split
  · rename_i d found
    rw [notSkipped] at found
    cases found
  · rfl

end skipQuoted

/-! ## The rule of a kind of token -/

/-- The kinds of tokens inside quoted text that have a meaning. -/
def quoteFilter (kind : TokenKind) : List TokenKind := [kind, .functionStart, .functionEnd]

/-- The rule that starts with a kind of token. -/
def ruleFor? : TokenKind → Option Rule
  | .singleQuote => some (quotedText .singleQuote)
  | .doubleQuote => some (quotedText .doubleQuote)
  | .functionStart => some functionText
  | .unaryOperator => some unaryOperator
  | .binaryOperator => some binaryOperator
  | .logicalOperator => some logicalOperator
  | .booleanValue => some (single .booleanValue)
  | .numericValue => some (single .numericValue)
  | .nullValue => some (single .nullValue)
  | .minus => some negativeNumber
  | .whitespace => some (single .whitespace)
  | .character | .functionEnd | .endOfLine => none

/-- The kinds of tokens that start an operand. -/
def operandKinds : List TokenKind :=
  [.singleQuote, .doubleQuote, .functionStart, .numericValue, .booleanValue, .nullValue, .minus]

variable {c : Cursor} {token : Token}

/-- A rule does not start with a token of another kind. -/
theorem rule_eq_none (h : c.current = some token) {kind : TokenKind} {rule : Rule}
    (found : ruleFor? kind = some rule) (other : token.kind ≠ kind) : rule c = .ok none := by
  have refused : c.accepts kind = false := by simp [Cursor.accepts_eq h, other]
  cases kind <;> cases found <;>
    simp [quotedText, functionText, Cursor.skipFunction?, unaryOperator, binaryOperator,
      logicalOperator, single, negativeNumber, refused]

/-- A rule starts with a token of its kind. -/
theorem rule_ne_none (h : c.current = some token) {rule : Rule}
    (found : ruleFor? token.kind = some rule) : rule c ≠ .ok none := by
  have accepted : c.accepts token.kind = true := by simp [Cursor.accepts_eq h]
  cases kind : token.kind <;> rw [kind] at found accepted <;> cases found
  case functionStart => simp [functionText_eq accepted]
  case unaryOperator =>
    simp only [unaryOperator, accepted, if_true]
    cases followedBySpace c <;> simp [bind, Except.bind, pure, Except.pure]
  case binaryOperator =>
    simp only [binaryOperator, accepted, if_true]
    cases operatorBefore .binary (binaryOperands c.token.shown) c <;>
      simp [bind, Except.bind, pure, Except.pure]
  case logicalOperator =>
    simp only [logicalOperator, accepted, if_true]
    cases operatorBefore .logical logicalOperands c <;>
      simp [bind, Except.bind, pure, Except.pure]
  case minus =>
    simp only [negativeNumber, accepted, if_true]
    cases c.next.expect .numericValue <;> simp [bind, Except.bind, pure, Except.pure]
  all_goals simp [quotedText, single, accepted]

/-- The kind of the current token decides which rule is taken. -/
theorem firstOf_eq (h : c.current = some token) (kinds : List TokenKind) :
    firstOf (kinds.filterMap ruleFor?) c =
      match ruleFor? token.kind with
      | some rule => if token.kind ∈ kinds then rule c else .ok none
      | none => .ok none := by
  induction kinds with
  | nil =>
    rw [List.filterMap_nil, firstOf]
    split <;> simp
  | cons kind rest ih =>
    by_cases same : token.kind = kind
    · subst same
      cases found : ruleFor? token.kind with
      | none =>
        rw [List.filterMap_cons, found]
        simpa only [found] using ih
      | some rule =>
        have starts := rule_ne_none h found
        rw [List.filterMap_cons, found]
        simp only [firstOf, List.mem_cons, true_or, if_true]
        cases result : rule c with
        | error p => rfl
        | ok d =>
          cases d with
          | none => exact absurd result starts
          | some d => rfl
    · rw [List.filterMap_cons]
      simp only [List.mem_cons, same, false_or]
      cases found : ruleFor? kind with
      | none => exact ih
      | some rule =>
        simp only [firstOf, rule_eq_none h found same]
        exact ih

/-- A rule that was taken is the one of the current token. -/
theorem ruleFor?_of_firstOf (h : c.current = some token) {kinds : List TokenKind} {d : Cursor}
    (taken : firstOf (kinds.filterMap ruleFor?) c = .ok (some d)) :
    ∃ rule, token.kind ∈ kinds ∧ ruleFor? token.kind = some rule ∧ rule c = .ok (some d) := by
  rw [firstOf_eq h] at taken
  cases found : ruleFor? token.kind with
  | none => simp [found] at taken
  | some rule =>
    by_cases mem : token.kind ∈ kinds
    · exact ⟨rule, mem, rfl, by simpa [found, mem] using taken⟩
    · simp [found, mem] at taken

theorem firstOf_elements (h : c.current = some token) :
    firstOf elements c =
      match ruleFor? token.kind with
      | some rule => rule c
      | none => .ok none := by
  have := firstOf_eq h [.singleQuote, .doubleQuote, .functionStart, .unaryOperator,
    .binaryOperator, .logicalOperator, .booleanValue, .numericValue, .nullValue, .minus,
    .whitespace]
  refine this.trans ?_
  cases token.kind <;> rfl

/-- The kinds of tokens that start an operand on the right of a binary operator. -/
def rightKinds (operator : BinaryOperator) : List TokenKind :=
  match operator.supported? with
  | some _ => [.singleQuote, .doubleQuote, .functionStart]
  | none => operandKinds

theorem binaryOperands_eq {spelling : String} {operator : BinaryOperator}
    (known : BinaryOperator.ofSpelling? spelling = some operator) :
    binaryOperands spelling = (rightKinds operator).filterMap ruleFor? := by
  rw [binaryOperands, known]
  cases operator <;> rfl

theorem rightKinds_subset (operator : BinaryOperator) :
    ∀ kind ∈ rightKinds operator, kind ∈ operandKinds := by
  cases operator <;> decide

theorem logicalOperands_eq :
    logicalOperands = (operandKinds.filter (· ≠ .minus)).filterMap ruleFor? := rfl

end Condition

end MessageExpr
