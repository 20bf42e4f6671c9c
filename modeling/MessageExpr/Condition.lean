import MessageExpr.Cursor
import MessageExpr.Node.Flat
import MessageExpr.Node.Link

/-!
# Conditions

A condition is a row of comparisons that are joined by logical operators:

    condition := ( quoted | function | unary | binary | logical | boolean | number | null
                 | negative | whitespace )*
    binary    := operator whitespace+ operand whitespace?
    logical   := operator whitespace+ operand whitespace?
    quoted    := quote ( function | any )* quote

White space has a meaning inside quotes and functions only, and is pruned elsewhere.

## Main definitions

* `Condition.Rule` — a rule of the grammar: where the cursor is after it, unless the rule does
  not start at the cursor
* `Condition.tokens` — the tokens of a condition
* `Condition.prune` — leaves out white space without meaning
* `Condition.pieces` — what each token becomes
* `Condition.parse` — the linked nodes of a condition
-/

namespace MessageExpr.Condition

/-! ## The rules of the grammar -/

/-- A rule of the grammar moves the cursor to the last token of what it stands for. It gives
`none` when nothing of the kind starts at the cursor. -/
abbrev Rule := Cursor → Except Problem (Option Cursor)

/-- The first of some rules that starts at the cursor. -/
def firstOf : List Rule → Rule
  | [], _ => .ok none
  | rule :: rest, c => do
    match ← rule c with
    | some d => pure (some d)
    | none => firstOf rest c

/-- The rule of a single token. -/
def single (kind : TokenKind) : Rule := fun c =>
  .ok (if c.accepts kind then some c else none)

/-- Reads on to the quote that ends the text, passing over the functions in it. -/
def skipQuoted (quote : TokenKind) (filter : List TokenKind) (c : Cursor) : Cursor :=
  if atEnd : c.atEnd then c
  else if c.accepts quote then c
  else
    match skipped : c.skipFunction? with
    | some d =>
      have := Cursor.todo_nextOf_lt_of_before (by simpa using atEnd)
        (Cursor.before_of_skipFunction? skipped) filter
      skipQuoted quote filter (d.nextOf filter)
    | none =>
      have := Cursor.todo_nextOf_lt (by simpa using atEnd) filter
      skipQuoted quote filter (c.nextOf filter)
termination_by c.todo

/-- Text between two quotes of a kind. Only functions have a meaning inside. -/
def quotedText (quote : TokenKind) : Rule := fun c =>
  let filter := [quote, .functionStart, .functionEnd]
  .ok (if c.accepts quote then some (skipQuoted quote filter (c.nextOf filter)) else none)

/-- A function with the functions inside it. -/
def functionText : Rule := fun c => .ok c.skipFunction?

/-- Moves on, to white space or to the end of the text. -/
def followedBySpace (c : Cursor) : Except Problem Cursor :=
  if c.next.atEnd then .ok c.next
  else do
    c.next.expect .whitespace
    pure c.next

/-- A unary operator. -/
def unaryOperator : Rule := fun c =>
  if c.accepts .unaryOperator then do
    let d ← followedBySpace c
    pure (some d)
  else .ok none

/-- A number after a minus sign. -/
def negativeNumber : Rule := fun c =>
  if c.accepts .minus then do
    c.next.expect .numericValue
    pure (some c.next)
  else .ok none

/-- An operator with the operand after it: white space, one of the rules, and white space or the
end of the text. The operator may also be the last thing of the text. -/
def operatorBefore (group : OperatorGroup) (operands : List Rule) (c : Cursor) :
    Except Problem Cursor := do
  let d ← c.next.expectRun .whitespace
  -- That the operand is missing then is found when the operators are linked.
  if d.atEnd then pure d
  else
    match ← firstOf operands d with
    | some e => followedBySpace e
    | none => .error ⟨.badStart group c.token.shown d.token, c.token.index⟩

/-- The rule of each kind of operand. -/
def operandRules : List (Parameter × Rule) :=
  [(.literalWithFunction, quotedText .singleQuote),
   (.literalWithFunction, quotedText .doubleQuote),
   (.function, functionText),
   (.numericValue, single .numericValue),
   (.booleanValue, single .booleanValue),
   (.nullValue, single .nullValue),
   (.minusValue, negativeNumber)]

/-- The operands that may follow a binary operator. -/
def binaryOperands (spelling : String) : List Rule :=
  match (BinaryOperator.ofSpelling? spelling).bind BinaryOperator.supported? with
  | some kinds => (operandRules.filter fun rule => kinds.contains rule.1).map (·.2)
  | none => operandRules.map (·.2)

/-- The operands that may follow a logical operator: all but negative numbers. -/
def logicalOperands : List Rule :=
  (operandRules.filter fun rule => rule.1 != .minusValue).map (·.2)

/-- A binary operator with what follows it. -/
def binaryOperator : Rule := fun c =>
  if c.accepts .binaryOperator then do
    let d ← operatorBefore .binary (binaryOperands c.token.shown) c
    pure (some d)
  else .ok none

/-- A logical operator with what follows it. -/
def logicalOperator : Rule := fun c =>
  if c.accepts .logicalOperator then do
    let d ← operatorBefore .logical logicalOperands c
    pure (some d)
  else .ok none

/-- What a condition is a row of. -/
def elements : List Rule :=
  [quotedText .singleQuote, quotedText .doubleQuote, functionText, unaryOperator,
   binaryOperator, logicalOperator, single .booleanValue, single .numericValue,
   single .nullValue, negativeNumber, single .whitespace]

/-! ## No rule moves the cursor back -/

/-- A rule that never moves the cursor back. -/
def Forward (rule : Rule) : Prop :=
  ∀ {c d : Cursor}, rule c = .ok (some d) → c.Before d

theorem forward_firstOf {rules : List Rule} (h : ∀ rule ∈ rules, Forward rule) :
    Forward (firstOf rules) := by
  induction rules with
  | nil =>
    intro c d hd
    simp [firstOf] at hd
  | cons rule rest ih =>
    intro c d hd
    simp only [firstOf, bind, Except.bind] at hd
    split at hd
    · cases hd
    · rename_i result hr
      cases result with
      | some e =>
        simp only [pure, Except.pure, Except.ok.injEq, Option.some.injEq] at hd
        exact h rule (by simp) (hd ▸ hr)
      | none => exact ih (fun r hr => h r (by simp [hr])) hd

theorem forward_single (kind : TokenKind) : Forward (single kind) := by
  intro c d h
  simp only [single, Except.ok.injEq] at h
  split at h <;> cases h
  exact Cursor.Before.refl _

theorem before_skipQuoted (quote : TokenKind) (filter : List TokenKind) (c : Cursor) :
    c.Before (skipQuoted quote filter c) := by
  fun_induction skipQuoted quote filter c with
  | case1 => exact Cursor.Before.refl _
  | case2 => exact Cursor.Before.refl _
  | case3 c _ _ d skipped _ ih =>
    exact (Cursor.before_of_skipFunction? skipped).trans ((d.before_nextOf filter).trans ih)
  | case4 c _ _ _ _ ih => exact (c.before_nextOf filter).trans ih

theorem forward_quotedText (quote : TokenKind) : Forward (quotedText quote) := by
  intro c d h
  simp only [quotedText, Except.ok.injEq] at h
  split at h <;> cases h
  exact (c.before_nextOf _).trans (before_skipQuoted _ _ _)

theorem forward_functionText : Forward functionText := by
  intro c d h
  simp only [functionText, Except.ok.injEq] at h
  exact Cursor.before_of_skipFunction? h

theorem eq_next_of_followedBySpace {c d : Cursor} (h : followedBySpace c = .ok d) :
    d = c.next := by
  unfold followedBySpace at h
  split at h
  · cases h
    rfl
  · cases he : c.next.expect .whitespace <;>
      simp only [he, bind, Except.bind, pure, Except.pure] at h <;> cases h
    rfl

theorem forward_unaryOperator : Forward unaryOperator := by
  intro c d h
  unfold unaryOperator at h
  split at h
  · cases hf : followedBySpace c <;>
      simp only [hf, bind, Except.bind, pure, Except.pure] at h <;> cases h
    exact eq_next_of_followedBySpace hf ▸ c.before_next
  · cases h

theorem forward_negativeNumber : Forward negativeNumber := by
  intro c d h
  unfold negativeNumber at h
  split at h
  · cases he : c.next.expect .numericValue <;>
      simp only [he, bind, Except.bind, pure, Except.pure] at h <;> cases h
    exact c.before_next
  · cases h

theorem before_of_operatorBefore {group : OperatorGroup} {operands : List Rule}
    (forward : ∀ rule ∈ operands, Forward rule) {c d : Cursor}
    (h : operatorBefore group operands c = .ok d) : c.Before d := by
  simp only [operatorBefore, bind, Except.bind] at h
  split at h
  · cases h
  · rename_i e he
    have toOperand := c.before_next.trans (Cursor.before_of_expectRun he)
    split at h
    · cases h
      exact toOperand
    · split at h
      · cases h
      · rename_i result hr
        cases result with
        | none => cases h
        | some f =>
          rw [eq_next_of_followedBySpace h]
          exact toOperand.trans ((forward_firstOf forward hr).trans f.before_next)

theorem forward_operandRules : ∀ rule ∈ operandRules, Forward rule.2 := by
  intro rule h
  simp only [operandRules, List.mem_cons, List.not_mem_nil, or_false] at h
  rcases h with rfl | rfl | rfl | rfl | rfl | rfl | rfl
  · exact forward_quotedText _
  · exact forward_quotedText _
  · exact forward_functionText
  · exact forward_single _
  · exact forward_single _
  · exact forward_single _
  · exact forward_negativeNumber

theorem forward_binaryOperator : Forward binaryOperator := by
  intro c d h
  unfold binaryOperator at h
  split at h
  · cases ho : operatorBefore .binary (binaryOperands c.token.shown) c <;>
      simp only [ho, bind, Except.bind, pure, Except.pure] at h <;> cases h
    refine before_of_operatorBefore (fun rule hr => ?_) ho
    unfold binaryOperands at hr
    split at hr <;> (obtain ⟨pair, hp, rfl⟩ := List.mem_map.1 hr)
    · exact forward_operandRules pair (List.mem_filter.1 hp).1
    · exact forward_operandRules pair hp
  · cases h

theorem forward_logicalOperator : Forward logicalOperator := by
  intro c d h
  unfold logicalOperator at h
  split at h
  · cases ho : operatorBefore .logical logicalOperands c <;>
      simp only [ho, bind, Except.bind, pure, Except.pure] at h <;> cases h
    refine before_of_operatorBefore (fun rule hr => ?_) ho
    obtain ⟨pair, hp, rfl⟩ := List.mem_map.1 hr
    exact forward_operandRules pair (List.mem_filter.1 hp).1
  · cases h

theorem forward_elements : ∀ rule ∈ elements, Forward rule := by
  intro rule h
  simp only [elements, List.mem_cons, List.not_mem_nil, or_false] at h
  rcases h with rfl | rfl | rfl | rfl | rfl | rfl | rfl | rfl | rfl | rfl | rfl
  · exact forward_quotedText _
  · exact forward_quotedText _
  · exact forward_functionText
  · exact forward_unaryOperator
  · exact forward_binaryOperator
  · exact forward_logicalOperator
  · exact forward_single _
  · exact forward_single _
  · exact forward_single _
  · exact forward_negativeNumber
  · exact forward_single _

/-! ## The tokens of a condition -/

/-- Moves the cursor to the end of the text, element by element. -/
def run (c : Cursor) : Except Problem Cursor :=
  if atEnd : c.atEnd then .ok c
  else
    match found : firstOf elements c with
    | .error problem => .error problem
    | .ok none => .error ⟨.unexpected c.token, c.previousIndex⟩
    | .ok (some d) =>
      have := Cursor.todo_nextOf_lt_of_before (by simpa using atEnd)
        (forward_firstOf forward_elements found) []
      run d.next
termination_by c.todo

/-- The tokens of a condition. -/
def tokens (escapes : Bool) (text : String) : Except Problem (List Token) := do
  let c ← run (Cursor.start escapes text).next
  pure c.tokens.toList

/-- The quote that is open after a token of a kind of quote. Another kind inside a quote is
text. -/
def toggle (quote : Option TokenKind) (kind : TokenKind) : Option TokenKind :=
  match quote with
  | none => some kind
  | some opened => if opened == kind then none else some opened

/-- Leaves out the white space outside quotes and functions, where `quote` is the open quote and
`functions` counts the open functions. -/
def pruneAfter (quote : Option TokenKind) (functions : Nat) : List Token → List Token
  | [] => []
  | token :: rest =>
    if token.kind.isQuote && functions == 0 then
      token :: pruneAfter (toggle quote token.kind) functions rest
    else if token.kind == .functionStart then token :: pruneAfter quote (functions + 1) rest
    else if token.kind == .functionEnd then token :: pruneAfter quote (functions - 1) rest
    else if token.kind == .whitespace && quote.isNone && functions == 0 then
      pruneAfter quote functions rest
    else token :: pruneAfter quote functions rest

/-- Leaves out the white space outside quotes and functions. -/
def prune (tokens : List Token) : List Token := pruneAfter none 0 tokens

/-! ## The nodes of a condition -/

/-- The kind of block that a kind of quote opens. -/
def quoteKind (kind : TokenKind) : BlockKind :=
  if kind == .singleQuote then .singleQuote else .doubleQuote

/-- What the pruned tokens of a condition become, where `opened` lists the places of the open
functions, innermost first, and `quote` is the open quote with its place. -/
def pieces (opened : List Nat) (quote : Option (BlockKind × Nat)) :
    List Token → Except Problem (List Piece)
  | [] =>
    match opened, quote with
    | index :: _, _ => .error ⟨.unended .function, index⟩
    | [], some (kind, index) => .error ⟨.unended kind, index⟩
    | [], none => .ok []
  | token :: rest =>
    if token.kind == .functionStart then do
      let more ← pieces (token.index :: opened) quote rest
      pure (.node (.block .function .function token []) :: more)
    else if token.kind == .functionEnd && !opened.isEmpty then do
      let more ← pieces opened.tail quote rest
      pure (.node (.closing .function .function token) :: more)
    -- Inside a function nothing but functions has a meaning.
    else if !opened.isEmpty then do
      let more ← pieces opened quote rest
      pure (.text token :: more)
    else if token.kind.isQuote then
      let kind := quoteKind token.kind
      match quote with
      | none => do
        let more ← pieces opened (some (kind, token.index)) rest
        pure (.node (.block .quote kind token []) :: more)
      | some (inner, place) =>
        if inner = kind then do
          let more ← pieces opened none rest
          pure (.node (.closing .quote kind token) :: more)
        else do
          -- A quote of the other kind is part of the quoted text.
          let more ← pieces opened (some (inner, place)) rest
          pure (.text token :: more)
    else if quote.isSome then do
      let more ← pieces opened quote rest
      pure (.text token :: more)
    else
      match token.kind with
      | .booleanValue => do
        let more ← pieces opened quote rest
        pure (.node (.boolean token) :: more)
      | .nullValue => do
        let more ← pieces opened quote rest
        pure (.node (.null token) :: more)
      | .numericValue => do
        let node ← Node.ofNumber token false
        let more ← pieces opened quote rest
        pure (.node node :: more)
      | .unaryOperator => do
        let node ← Node.ofUnary token
        let more ← pieces opened quote rest
        pure (.node node :: more)
      | .binaryOperator => do
        let node ← Node.ofBinary token
        let more ← pieces opened quote rest
        pure (.node node :: more)
      | .logicalOperator => do
        let node ← Node.ofLogical token
        let more ← pieces opened quote rest
        pure (.node node :: more)
      | kind =>
        match rest with
        | [] => do
          let more ← pieces opened quote []
          pure (.text token :: more)
        | after :: rest =>
          -- A minus sign and the number after it become one node.
          if kind == .minus && after.kind == .numericValue then do
            let node ← Node.ofNumber after true
            let more ← pieces opened quote rest
            pure (.node node :: more)
          else do
            let more ← pieces opened quote (after :: rest)
            pure (.text token :: more)

/-- The linked nodes of a condition. -/
def parse (escapes : Bool) (text : String) : Except Problem (List Node) := do
  let tokens ← tokens escapes text
  let pieces ← pieces [] none (prune tokens)
  let nodes ← linkBlocks (Piece.gather pieces)
  let nodes ← linkUnary nodes
  let nodes ← linkBinary nodes
  linkLogical nodes

end MessageExpr.Condition
