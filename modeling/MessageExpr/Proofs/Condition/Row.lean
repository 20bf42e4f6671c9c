import MessageExpr.Condition
import MessageExpr.Proofs.Node.Nested

/-!
# The tokens of a condition and their nodes

A relation between the tokens of a condition and the nodes they stand for before operators are
linked. It is the meaning of what happens between the grammar and the linking of operators:
pruning white space, making pieces, gathering literals and nesting blocks.

## Main definitions

* `Inside` — the tokens inside a block and its children
* `Leaf` — the node of a single token outside of blocks
* `Row` — the tokens outside of blocks, with the blocks among them, and their nodes
* `Broken` — tokens whose nodes cannot be made

## Main results

* `Row.blocks` — the tokens of a row give its nodes
* `Row.broken_append` — what follows a row can still be broken
-/

namespace MessageExpr.Condition

/-- The tokens inside a block that a kind of token ends, and its children. -/
inductive Inside : TokenKind → List Token → List Node → Prop where
  | nil {stop} : Inside stop [] []
  | text {stop token tokens nodes} : token.kind ≠ stop → token.kind ≠ .functionStart →
      Inside stop tokens nodes → Inside stop (token :: tokens) (Node.joinText token nodes)
  | function {stop start inner children close tokens nodes} :
      start.kind = .functionStart → close.kind = .functionEnd →
      Inside .functionEnd inner children → Inside stop tokens nodes →
      Inside stop (start :: inner ++ close :: tokens)
        (.block .function .function start children :: nodes)

/-- The node of a single token outside of blocks. -/
def Leaf (token : Token) (node : Node) : Prop :=
  match token.kind with
  | .booleanValue => node = .boolean token
  | .nullValue => node = .null token
  | .numericValue => Node.ofNumber token false = .ok node
  | .unaryOperator => Node.ofUnary token = .ok node
  | .binaryOperator => Node.ofBinary token = .ok node
  | .logicalOperator => Node.ofLogical token = .ok node
  | _ => False

/-- The tokens of a condition from a place outside of blocks on, and their nodes. -/
inductive Row : List Token → List Node → Prop where
  | nil : Row [] []
  | space {token tokens nodes} : token.kind = .whitespace → Row tokens nodes →
      Row (token :: tokens) nodes
  | leaf {token node tokens nodes} : Leaf token node → Row tokens nodes →
      Row (token :: tokens) (node :: nodes)
  | negative {sign token node tokens nodes} : sign.kind = .minus →
      token.kind = .numericValue → Node.ofNumber token true = .ok node → Row tokens nodes →
      Row (sign :: token :: tokens) (node :: nodes)
  | function {start inner children close tokens nodes} :
      start.kind = .functionStart → close.kind = .functionEnd →
      Inside .functionEnd inner children → Row tokens nodes →
      Row (start :: inner ++ close :: tokens)
        (.block .function .function start children :: nodes)
  | quote {start inner children close tokens nodes} :
      start.kind.isQuote = true → close.kind = start.kind →
      Inside start.kind inner children → Row tokens nodes →
      Row (start :: inner ++ close :: tokens)
        (.block .quote (quoteKind start.kind) start children :: nodes)

/-- The nodes of the tokens cannot be made. -/
def Broken (tokens : List Token) : Prop := ∃ p, pieces [] none (prune tokens) = .error p

theorem Row.append {tokens tokens' : List Token} {nodes nodes' : List Node}
    (h : Row tokens nodes) (h' : Row tokens' nodes') :
    Row (tokens ++ tokens') (nodes ++ nodes') := by
  induction h with
  | nil => exact h'
  | space kind _ ih => exact .space kind ih
  | leaf made _ ih => exact .leaf made ih
  | negative sign kind made _ ih => exact .negative sign kind made ih
  | function start close inside _ ih =>
    simpa only [List.cons_append, List.append_assoc] using .function start close inside ih
  | quote start close inside _ ih =>
    simpa only [List.cons_append, List.append_assoc] using .quote start close inside ih

/-- White space alone is a row without nodes. -/
theorem Row.spaces {tokens : List Token} (h : ∀ token ∈ tokens, token.kind = .whitespace) :
    Row tokens [] := by
  induction tokens with
  | nil => exact .nil
  | cons token rest ih =>
    exact .space (h token (by simp)) (ih fun t mem => h t (List.mem_cons_of_mem _ mem))

/-- The children of a block are what a block can hold. -/
theorem Inside.isContent {stop : TokenKind} {tokens : List Token} {nodes : List Node}
    (h : Inside stop tokens nodes) : ∀ n ∈ nodes, n.isContent = true := by
  induction h with
  | nil => simp
  | @text _ token _ nodes _ _ _ ih =>
    intro n mem
    unfold Node.joinText at mem
    split at mem
    · rcases List.mem_cons.mp mem with rfl | mem
      · rfl
      · exact ih n (List.mem_cons_of_mem _ mem)
    · rcases List.mem_cons.mp mem with rfl | mem
      · rfl
      · exact ih n mem
  | function _ _ _ _ _ ih =>
    intro n mem
    rcases List.mem_cons.mp mem with rfl | mem
    · rfl
    · exact ih n mem

/-! ## Pruning -/

/-- Where pruning stands inside a block. -/
inductive Kept : TokenKind → Option TokenKind → Nat → Prop where
  | function {quote depth} : Kept .functionEnd quote (depth + 1)
  | quote {stop} : stop.isQuote = true → Kept stop (some stop) 0

theorem pruneAfter_start {token : Token} (h : token.kind = .functionStart)
    (quote : Option TokenKind) (depth : Nat) (rest : List Token) :
    pruneAfter quote depth (token :: rest) = token :: pruneAfter quote (depth + 1) rest := by
  simp [pruneAfter, h, TokenKind.isQuote]

theorem pruneAfter_end {token : Token} (h : token.kind = .functionEnd)
    (quote : Option TokenKind) (depth : Nat) (rest : List Token) :
    pruneAfter quote depth (token :: rest) = token :: pruneAfter quote (depth - 1) rest := by
  simp [pruneAfter, h, TokenKind.isQuote]

theorem Kept.pruneAfter_text {stop : TokenKind} {quote : Option TokenKind} {depth : Nat}
    (h : Kept stop quote depth) {token : Token} (other : token.kind ≠ stop)
    (plain : token.kind ≠ .functionStart) (rest : List Token) :
    pruneAfter quote depth (token :: rest) = token :: pruneAfter quote depth rest := by
  cases h with
  | function => simp [pruneAfter, other, plain]
  | quote isQuote =>
    -- A quote of the other kind leaves the quote open, and no function is open to be ended.
    by_cases h : token.kind.isQuote <;>
      simp [pruneAfter, h, plain, toggle, Ne.symm other]

/-- Nothing inside a block is pruned. -/
theorem Inside.pruneAfter {stop : TokenKind} {tokens : List Token} {nodes : List Node}
    (h : Inside stop tokens nodes) {quote : Option TokenKind} {depth : Nat}
    (kept : Kept stop quote depth) (rest : List Token) :
    pruneAfter quote depth (tokens ++ rest) = tokens ++ pruneAfter quote depth rest := by
  induction h generalizing quote depth rest with
  | nil => rfl
  | text other plain _ ih =>
    rw [List.cons_append, kept.pruneAfter_text other plain, ih kept, List.cons_append]
  | function start close _ _ ihInner ih =>
    simp only [List.cons_append, List.append_assoc]
    -- A function goes one level down and comes back up, and the block around it goes on.
    rw [pruneAfter_start start, ihInner .function, pruneAfter_end close, Nat.add_sub_cancel,
      ih kept]

/-! ## Pieces -/

/-- Where the making of pieces stands inside a block. -/
inductive Within : TokenKind → List Nat → Option (BlockKind × Nat) → Prop where
  | function {index opened quote} : Within .functionEnd (index :: opened) quote
  | quote {stop place} : stop.isQuote = true → Within stop [] (some (quoteKind stop, place))

theorem pieces_start {token : Token} (h : token.kind = .functionStart) (opened : List Nat)
    (quote : Option (BlockKind × Nat)) (rest : List Token) :
    pieces opened quote (token :: rest) =
      (pieces (token.index :: opened) quote rest).map
        (.node (.block .function .function token []) :: ·) := by
  rw [pieces]
  simp only [h, BEq.rfl, if_true]
  cases pieces (token.index :: opened) quote rest <;> rfl

private theorem pieces_end {token : Token} (h : token.kind = .functionEnd) (index : Nat)
    (opened : List Nat) (quote : Option (BlockKind × Nat)) (rest : List Token) :
    pieces (index :: opened) quote (token :: rest) =
      (pieces opened quote rest).map (.node (.closing .function .function token) :: ·) := by
  rw [pieces]
  simp only [h, beq_iff_eq, reduceCtorEq, if_false, List.isEmpty_cons, Bool.not_false,
    Bool.and_true, if_true, List.tail_cons]
  cases pieces opened quote rest <;> rfl

private theorem quoteKind_inj {kind kind' : TokenKind} (h : kind.isQuote = true)
    (h' : kind'.isQuote = true) (same : quoteKind kind = quoteKind kind') : kind = kind' := by
  cases kind <;> simp [TokenKind.isQuote] at h <;>
    cases kind' <;> simp [TokenKind.isQuote] at h' <;> simp [quoteKind] at same ⊢

theorem Within.pieces_text {stop : TokenKind} {opened : List Nat}
    {quote : Option (BlockKind × Nat)} (h : Within stop opened quote) {token : Token}
    (other : token.kind ≠ stop) (plain : token.kind ≠ .functionStart) (rest : List Token) :
    pieces opened quote (token :: rest) = (pieces opened quote rest).map (.text token :: ·) := by
  cases h with
  | @function index opened quote =>
    rw [pieces]
    simp only [beq_iff_eq, plain, other, if_false, Bool.and_eq_true, false_and,
      List.isEmpty_cons, Bool.not_false, if_true]
    cases pieces (index :: opened) quote rest <;> rfl
  | @quote stop place isQuote =>
    by_cases h : token.kind.isQuote
    -- A quote of the other kind is a character of the text.
    · have differ : quoteKind stop ≠ quoteKind token.kind :=
        fun same => other (quoteKind_inj isQuote h same).symm
      rw [pieces]
      simp only [beq_iff_eq, plain, if_false, List.isEmpty_nil, Bool.not_true,
        Bool.and_false, Bool.false_eq_true, h, if_true, differ]
      cases pieces [] (some (quoteKind stop, place)) rest <;> rfl
    · rw [pieces]
      simp only [beq_iff_eq, plain, if_false, List.isEmpty_nil, Bool.not_true,
        Bool.and_false, Bool.false_eq_true, h, Option.isSome_some, if_true]
      cases pieces [] (some (quoteKind stop, place)) rest <;> rfl

theorem map_append_cons {ε α : Type} (x : α) (front : List α) (result : Except ε (List α)) :
    (result.map (front ++ ·)).map (x :: ·) = result.map (x :: front ++ ·) := by
  cases result <;> rfl

/-- The tokens inside a block become pieces that stand for its children. -/
theorem Inside.exists_pieces {stop : TokenKind} {tokens : List Token} {nodes : List Node}
    (h : Inside stop tokens nodes) :
    ∃ front, (∀ token text, front.head? ≠ some (.node (.literal token text))) ∧
      Nested (Piece.gather front) nodes ∧
      ∀ {opened quote}, Within stop opened quote → ∀ rest,
        pieces opened quote (tokens ++ rest) = (pieces opened quote rest).map (front ++ ·) := by
  induction h with
  | nil =>
    refine ⟨[], by simp, .nil, fun {opened quote} _ rest => ?_⟩
    rw [List.nil_append]
    cases pieces opened quote rest <;> rfl
  | @text _ token _ nodes other plain _ ih =>
    obtain ⟨front, apart, nested, made⟩ := ih
    refine ⟨.text token :: front, by simp, ?_, fun within rest => ?_⟩
    · rw [Piece.gather_text token front apart]
      exact nested.joinText token
    · rw [List.cons_append, within.pieces_text other plain, made within, map_append_cons]
  | @function _ start _ _ close _ nodes isStart isEnd inner _ ihInner ih =>
    obtain ⟨front, -, nested, made⟩ := ihInner
    obtain ⟨front', -, nested', made'⟩ := ih
    refine ⟨.node (.block .function .function start []) :: front ++
      .node (.closing .function .function close) :: front', by simp, ?_,
      fun {opened quote} within rest => ?_⟩
    · rw [List.cons_append, Piece.gather, Piece.gather_append_node]
      exact .block inner.isContent nested nested'
    · simp only [List.cons_append, List.append_assoc]
      rw [pieces_start isStart, made .function, pieces_end isEnd, made' within]
      cases pieces opened quote rest <;> simp [Except.map]

/-! ## Rows -/

theorem exists_number_of_ofNumber {token : Token} {negative : Bool} {node : Node}
    (made : Node.ofNumber token negative = .ok node) :
    ∃ value, node = .number token value negative := by
  simp only [Node.ofNumber] at made
  split at made <;> cases made
  exact ⟨_, rfl⟩

/-- What outside of blocks becomes a node of its own is a value, or an operator without operands. -/
theorem Leaf.forms {token : Token} {node : Node} (h : Leaf token node) :
    (token.kind = .booleanValue ∧ node = .boolean token) ∨
    (token.kind = .nullValue ∧ node = .null token) ∨
    (token.kind = .numericValue ∧ ∃ value, node = .number token value false) ∨
    (token.kind = .unaryOperator ∧ ∃ operator, node = .unary operator token none) ∨
    (token.kind = .binaryOperator ∧ ∃ operator, node = .binary operator token none none) ∨
    (token.kind = .logicalOperator ∧ ∃ operator, node = .logical operator token none none) := by
  unfold Leaf at h
  split at h <;> rename_i kind
  · exact .inl ⟨kind, h⟩
  · exact .inr (.inl ⟨kind, h⟩)
  · exact .inr (.inr (.inl ⟨kind, exists_number_of_ofNumber h⟩))
  · simp only [Node.ofUnary] at h
    split at h <;> cases h
    exact .inr (.inr (.inr (.inl ⟨kind, _, rfl⟩)))
  · simp only [Node.ofBinary] at h
    split at h <;> cases h
    exact .inr (.inr (.inr (.inr (.inl ⟨kind, _, rfl⟩))))
  · simp only [Node.ofLogical] at h
    split at h <;> cases h
    exact .inr (.inr (.inr (.inr (.inr ⟨kind, _, rfl⟩))))
  · exact h.elim

/-- What outside of blocks becomes a node of its own is no mark of a block. -/
theorem Leaf.isMark {token : Token} {node : Node} (h : Leaf token node) :
    node.isMark = false := by
  rcases h.forms with
    ⟨-, rfl⟩ | ⟨-, rfl⟩ | ⟨-, _, rfl⟩ | ⟨-, _, rfl⟩ | ⟨-, _, rfl⟩ | ⟨-, _, rfl⟩ <;>
    rfl

theorem Leaf.pieces {token : Token} {node : Node} (h : Leaf token node) (rest : List Token) :
    pieces [] none (token :: rest) = (pieces [] none rest).map (.node node :: ·) := by
  unfold Leaf at h
  rw [Condition.pieces]
  cases kind : token.kind <;> simp only [kind] at h
  case booleanValue =>
    subst h
    cases Condition.pieces [] none rest <;> rfl
  case nullValue =>
    subst h
    cases Condition.pieces [] none rest <;> rfl
  all_goals
    simp only [beq_iff_eq, reduceCtorEq, if_false, List.isEmpty_nil, Bool.not_true, Bool.and_false,
      Bool.false_eq_true, TokenKind.isQuote, Option.isSome_none, h]
    cases Condition.pieces [] none rest <;> rfl

theorem Leaf.prune {token : Token} {node : Node} (h : Leaf token node) (rest : List Token) :
    prune (token :: rest) = token :: prune rest := by
  rcases h.forms with ⟨kind, -⟩ | ⟨kind, -⟩ | ⟨kind, -⟩ | ⟨kind, -⟩ | ⟨kind, -⟩ | ⟨kind, -⟩ <;>
    simp [Condition.prune, pruneAfter, kind, TokenKind.isQuote]

theorem prune_space {token : Token} (h : token.kind = .whitespace) (rest : List Token) :
    prune (token :: rest) = prune rest := by
  simp [prune, pruneAfter, h, TokenKind.isQuote]

private theorem prune_negative {sign token : Token} (isSign : sign.kind = .minus)
    (isNumber : token.kind = .numericValue) (rest : List Token) :
    prune (sign :: token :: rest) = sign :: token :: prune rest := by
  simp [prune, pruneAfter, isSign, isNumber, TokenKind.isQuote]

private theorem pieces_negative {sign token : Token} {node : Node} (isSign : sign.kind = .minus)
    (isNumber : token.kind = .numericValue) (made : Node.ofNumber token true = .ok node)
    (rest : List Token) :
    pieces [] none (sign :: token :: rest) = (pieces [] none rest).map (.node node :: ·) := by
  rw [pieces]
  simp only [isSign, isNumber, beq_iff_eq, reduceCtorEq, if_false, List.isEmpty_nil,
    Bool.not_true, Bool.and_false, Bool.false_eq_true, TokenKind.isQuote,
    Option.isSome_none, BEq.rfl, Bool.and_true, if_true, made]
  cases pieces [] none rest <;> rfl

theorem pruneAfter_quote {start : Token} (h : start.kind.isQuote = true) (rest : List Token) :
    prune (start :: rest) = start :: pruneAfter (some start.kind) 0 rest := by
  simp [prune, pruneAfter, h, toggle]

theorem pruneAfter_unquote {kind : TokenKind} {close : Token} (h : kind.isQuote = true)
    (same : close.kind = kind) (rest : List Token) :
    pruneAfter (some kind) 0 (close :: rest) = close :: prune rest := by
  simp [prune, pruneAfter, same, h, toggle]

theorem not_start_of_isQuote {kind : TokenKind} (h : kind.isQuote = true) :
    kind ≠ .functionStart ∧ kind ≠ .functionEnd := by
  cases kind <;> simp [TokenKind.isQuote] at h ⊢

private theorem pieces_quote {start : Token} (h : start.kind.isQuote = true) (rest : List Token) :
    pieces [] none (start :: rest) =
      (pieces [] (some (quoteKind start.kind, start.index)) rest).map
        (.node (.block .quote (quoteKind start.kind) start []) :: ·) := by
  rw [pieces]
  simp only [beq_iff_eq, (not_start_of_isQuote h).1, if_false, List.isEmpty_nil, Bool.not_true,
    Bool.and_false, Bool.false_eq_true, h, if_true]
  cases pieces [] (some (quoteKind start.kind, start.index)) rest <;> rfl

private theorem pieces_unquote {kind : TokenKind} {close : Token} (h : kind.isQuote = true)
    (same : close.kind = kind) (place : Nat) (rest : List Token) :
    pieces [] (some (quoteKind kind, place)) (close :: rest) =
      (pieces [] none rest).map (.node (.closing .quote (quoteKind kind) close) :: ·) := by
  rw [pieces]
  simp only [beq_iff_eq, same, (not_start_of_isQuote h).1, if_false, List.isEmpty_nil,
    Bool.not_true, Bool.and_false, Bool.false_eq_true, h, if_true]
  cases pieces [] none rest <;> rfl

/-- The form of a kind of quote. -/
theorem form_quoteKind (kind : TokenKind) : (quoteKind kind).form = .quote := by
  unfold quoteKind
  split <;> rfl

/-- The tokens of a row become pieces that stand for its nodes. -/
theorem Row.exists_pieces {tokens : List Token} {nodes : List Node} (h : Row tokens nodes) :
    ∃ front, Nested (Piece.gather front) nodes ∧ ∀ rest,
      pieces [] none (prune (tokens ++ rest)) =
        (pieces [] none (prune rest)).map (front ++ ·) := by
  induction h with
  | nil =>
    refine ⟨[], .nil, fun rest => ?_⟩
    rw [List.nil_append]
    cases pieces [] none (prune rest) <;> rfl
  | space kind _ ih =>
    obtain ⟨front, nested, made⟩ := ih
    exact ⟨front, nested, fun rest => by rw [List.cons_append, prune_space kind, made]⟩
  | leaf leaf _ ih =>
    obtain ⟨front, nested, made⟩ := ih
    refine ⟨.node _ :: front, .node leaf.isMark nested, fun rest => ?_⟩
    rw [List.cons_append, leaf.prune, leaf.pieces, made, map_append_cons]
  | negative sign kind number _ ih =>
    obtain ⟨front, nested, made⟩ := ih
    -- The number after a minus sign is no leaf of its own, but it is no mark either.
    obtain ⟨value, rfl⟩ := exists_number_of_ofNumber number
    refine ⟨.node _ :: front, .node rfl nested, fun rest => ?_⟩
    rw [List.cons_append, List.cons_append, prune_negative sign kind,
      pieces_negative sign kind number, made, map_append_cons]
  | @function start inner children close tokens nodes isStart isEnd inside _ ih =>
    obtain ⟨front, -, nested, made⟩ := inside.exists_pieces
    obtain ⟨front', nested', made'⟩ := ih
    refine ⟨.node (.block .function .function start []) :: front ++
      .node (.closing .function .function close) :: front', ?_, fun rest => ?_⟩
    · rw [List.cons_append, Piece.gather, Piece.gather_append_node]
      exact .block inside.isContent nested nested'
    · simp only [List.cons_append, List.append_assoc]
      rw [prune, pruneAfter_start isStart, inside.pruneAfter .function, pruneAfter_end isEnd,
        ← prune, pieces_start isStart, made .function, pieces_end isEnd, made']
      cases pieces [] none (prune rest) <;> simp [Except.map]
  | @quote start inner children close tokens nodes isQuote same inside _ ih =>
    obtain ⟨front, -, nested, made⟩ := inside.exists_pieces
    obtain ⟨front', nested', made'⟩ := ih
    refine ⟨.node (.block .quote (quoteKind start.kind) start []) :: front ++
      .node (.closing .quote (quoteKind start.kind) close) :: front', ?_, fun rest => ?_⟩
    · rw [List.cons_append, Piece.gather, Piece.gather_append_node]
      rw [← form_quoteKind start.kind]
      exact .block inside.isContent nested nested'
    · simp only [List.cons_append, List.append_assoc]
      rw [pruneAfter_quote isQuote, inside.pruneAfter (.quote isQuote),
        pruneAfter_unquote isQuote same, pieces_quote isQuote, made (.quote isQuote),
        pieces_unquote isQuote same, made']
      cases pieces [] none (prune rest) <;> simp [Except.map]

/-- The tokens of a row give its nodes. -/
theorem Row.blocks {tokens : List Token} {nodes : List Node} (h : Row tokens nodes) :
    ∃ front, pieces [] none (prune tokens) = .ok front ∧
      linkBlocks (Piece.gather front) = .ok nodes := by
  obtain ⟨front, nested, made⟩ := h.exists_pieces
  refine ⟨front, ?_, linkBlocks_of_nested nested⟩
  have := made []
  rw [List.append_nil] at this
  rw [this]
  simp [prune, pruneAfter, pieces, Except.map]

/-- The nodes of a row are determined by its tokens. -/
theorem Row.unique {tokens : List Token} {nodes nodes' : List Node} (h : Row tokens nodes)
    (h' : Row tokens nodes') : nodes = nodes' := by
  obtain ⟨pieces, made, linked⟩ := h.blocks
  obtain ⟨pieces', made', linked'⟩ := h'.blocks
  rw [made] at made'
  cases made'
  rw [linked] at linked'
  cases linked'
  rfl

/-- What follows a row can still be broken. -/
theorem Row.broken_append {tokens tokens' : List Token} {nodes : List Node}
    (h : Row tokens nodes) (broken : Broken tokens') : Broken (tokens ++ tokens') := by
  obtain ⟨front, -, made⟩ := h.exists_pieces
  obtain ⟨p, failed⟩ := broken
  exact ⟨p, by rw [made, failed]; rfl⟩

/-! ## Blocks that nothing ends -/

/-- Tokens inside a block that nothing ends: the text stops in the block itself, or in a function
inside it. -/
inductive Unended : TokenKind → List Token → Prop where
  | here {stop inner children} : Inside stop inner children → Unended stop inner
  | within {stop inner children start rest} : Inside stop inner children →
      start.kind = .functionStart → Unended .functionEnd rest →
      Unended stop (inner ++ start :: rest)

theorem Unended.pruneAfter {stop : TokenKind} {tokens : List Token} (h : Unended stop tokens)
    {quote : Option TokenKind} {depth : Nat} (kept : Kept stop quote depth) :
    pruneAfter quote depth tokens = tokens := by
  induction h generalizing quote depth with
  | @here stop inner children inside =>
    have := inside.pruneAfter kept []
    simpa [Condition.pruneAfter] using this
  | within inside isStart _ ih =>
    rw [inside.pruneAfter kept, pruneAfter_start isStart, ih .function]

theorem Within.pieces_nil {stop : TokenKind} {opened : List Nat}
    {quote : Option (BlockKind × Nat)} (h : Within stop opened quote) :
    ∃ p, pieces opened quote [] = .error p := by
  cases h <;> exact ⟨_, rfl⟩

theorem Unended.exists_error {stop : TokenKind} {tokens : List Token} (h : Unended stop tokens)
    {opened : List Nat} {quote : Option (BlockKind × Nat)} (within : Within stop opened quote) :
    ∃ p, pieces opened quote tokens = .error p := by
  induction h generalizing opened quote with
  | here inside =>
    obtain ⟨front, -, -, made⟩ := inside.exists_pieces
    obtain ⟨p, failed⟩ := within.pieces_nil
    have := made within []
    rw [List.append_nil, failed] at this
    exact ⟨p, this⟩
  | @within _ _ _ start _ inside isStart _ ih =>
    obtain ⟨front, -, -, made⟩ := inside.exists_pieces
    have nested : Within .functionEnd (start.index :: opened) quote := .function
    obtain ⟨p, failed⟩ := ih nested
    exact ⟨p, by rw [made within, pieces_start isStart, failed]; rfl⟩

/-- A function that nothing ends is broken. -/
theorem Unended.broken_function {tokens : List Token} (h : Unended .functionEnd tokens)
    {start : Token} (isStart : start.kind = .functionStart) : Broken (start :: tokens) := by
  have within : Within .functionEnd [start.index] none := .function
  obtain ⟨p, failed⟩ := h.exists_error within
  refine ⟨p, ?_⟩
  rw [prune, pruneAfter_start isStart, h.pruneAfter .function, pieces_start isStart, failed]
  rfl

/-- Quoted text that nothing ends is broken. -/
theorem Unended.broken_quote {start : Token} (isQuote : start.kind.isQuote = true)
    {tokens : List Token} (h : Unended start.kind tokens) : Broken (start :: tokens) := by
  have within : Within start.kind [] (some (quoteKind start.kind, start.index)) := .quote isQuote
  obtain ⟨p, failed⟩ := h.exists_error within
  refine ⟨p, ?_⟩
  rw [pruneAfter_quote isQuote, h.pruneAfter (.quote isQuote), pieces_quote isQuote, failed]
  rfl

end MessageExpr.Condition
