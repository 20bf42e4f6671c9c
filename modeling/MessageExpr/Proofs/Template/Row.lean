import MessageExpr.Proofs.Condition.InOrder
import MessageExpr.Proofs.Template.Walk

/-!
# The tokens of a template and their nodes

A relation between the tokens of a template and the nodes they stand for before operators are
linked, like the one for conditions. Inside a function the two grammars do not differ.

## Main definitions

* `Template.Row` — the tokens of a template and their nodes

## Main results

* `Template.pieces_eq` — making pieces fails at the innermost function that is left open
* `Template.exists_row` — otherwise the tokens are a row
* `Row.blocks`, `Row.exists_linkUnary` — and all that is done to a row succeeds
-/

namespace MessageExpr.Template

open Condition (Inside Unended)

/-! ## Pieces -/

theorem pieces_start {token : Token} (h : token.kind = .functionStart) (opened : List Nat)
    (closed : Bool) (rest : List Token) :
    pieces opened closed (token :: rest) =
      (pieces (token.index :: opened) false rest).map
        (.node (.block .function .function token []) :: ·) := by
  rw [pieces]
  simp only [h, BEq.rfl, if_true]
  cases pieces (token.index :: opened) false rest <;> rfl

theorem pieces_end {token : Token} (h : token.kind = .functionEnd) (index : Nat)
    (opened : List Nat) (closed : Bool) (rest : List Token) :
    pieces (index :: opened) closed (token :: rest) =
      (pieces opened true rest).map (.node (.closing .function .function token) :: ·) := by
  rw [pieces]
  simp only [h, beq_iff_eq, reduceCtorEq, if_false, List.isEmpty_cons, Bool.not_false,
    Bool.and_true, if_true, List.tail_cons]
  cases pieces opened true rest <;> rfl

private theorem pieces_unary {token : Token} {node : Node} (h : token.kind = .unaryOperator)
    (made : Node.ofUnary token = .ok node) (rest : List Token) :
    pieces [] true (token :: rest) = (pieces [] false rest).map (.node node :: ·) := by
  rw [pieces]
  simp only [h, beq_iff_eq, reduceCtorEq, if_false, List.isEmpty_nil, Bool.not_true, Bool.and_false,
    Bool.false_eq_true, Bool.and_true, if_true, made]
  cases pieces [] false rest <;> rfl

/-- A token is text where it neither opens nor closes a function, nor is an operator after one. -/
structure IsText (opened : List Nat) (closed : Bool) (token : Token) : Prop where
  noStart : token.kind ≠ .functionStart
  noEnd : token.kind = .functionEnd → opened = []
  noOperator : token.kind = .unaryOperator → opened = [] → closed = false

theorem pieces_text {opened : List Nat} {closed : Bool} {token : Token}
    (h : IsText opened closed token) (rest : List Token) :
    pieces opened closed (token :: rest) =
      (pieces opened false rest).map (.text token :: ·) := by
  rw [pieces, if_neg (by simpa using h.noStart), if_neg (by simpa using h.noEnd),
    if_neg (by simpa [and_assoc] using h.noOperator)]
  cases pieces opened false rest <;> rfl

/-- Inside a function it does not matter what the token before was. -/
theorem pieces_inside (index : Nat) (opened : List Nat) (closed : Bool) (tokens : List Token) :
    pieces (index :: opened) closed tokens = pieces (index :: opened) false tokens := by
  cases tokens with
  | nil => rfl
  | cons token rest => simp [pieces]

/-- Each token becomes one piece, and opens or closes a function or neither. -/
theorem exists_pieces_cons {token : Token} (read : token.IsRead) (opened : List Token)
    (closed : Bool) (rest : List Token) :
    ∃ piece after, pieces (opened.map Token.index) closed (token :: rest) =
      (pieces ((opens opened token).map Token.index) after rest).map (piece :: ·) := by
  have plain (text : IsText (opened.map Token.index) closed token)
      (same : opens opened token = opened) :
      ∃ piece after, pieces (opened.map Token.index) closed (token :: rest) =
        (pieces ((opens opened token).map Token.index) after rest).map (piece :: ·) := by
    rw [same]
    exact ⟨_, _, pieces_text text rest⟩
  cases kind : token.kind with
  | functionStart =>
    rw [opens, kind]
    exact ⟨_, _, pieces_start kind _ closed rest⟩
  | functionEnd =>
    cases opened with
    | nil => exact plain ⟨by simp [kind], fun _ => rfl, by simp [kind]⟩ (by simp [opens, kind])
    | cons start outer =>
      rw [opens, kind]
      exact ⟨_, _, pieces_end kind start.index _ closed rest⟩
  | unaryOperator =>
    by_cases after : opened = [] ∧ closed = true
    · obtain ⟨rfl, rfl⟩ := after
      obtain ⟨operator, made⟩ := ofUnary_of_isRead read kind
      rw [opens, kind]
      exact ⟨_, _, pieces_unary kind made rest⟩
    · refine plain ⟨by simp [kind], by simp [kind], fun _ none => ?_⟩ (by simp [opens, kind])
      simpa [List.map_eq_nil_iff.mp none] using after
  | _ => exact plain ⟨by simp [kind], by simp [kind], by simp [kind]⟩ (by simp [opens, kind])

/-- Making pieces fails at the innermost function that is left open, and nowhere else. -/
theorem pieces_eq {tokens : List Token} (read : ∀ token ∈ tokens, token.IsRead)
    (opened : List Token) (closed : Bool) :
    match openAfter opened tokens with
    | [] => ∃ found, pieces (opened.map Token.index) closed tokens = .ok found
    | start :: _ => pieces (opened.map Token.index) closed tokens =
        .error ⟨.unended .function, start.index⟩ := by
  induction tokens generalizing opened closed with
  | nil => cases opened <;> simp [openAfter, pieces]
  | cons token rest ih =>
    obtain ⟨head, read⟩ := List.forall_mem_cons.mp read
    obtain ⟨piece, after, made⟩ := exists_pieces_cons head opened closed rest
    -- The rest is made with the functions that are open after the token.
    have rest' := ih read (opens opened token) after
    change match openAfter (opens opened token) rest with
      | [] => _
      | start :: _ => _
    rw [made]
    split at rest'
    · obtain ⟨found, rest'⟩ := rest'
      rw [rest']
      exact ⟨_, rfl⟩
    · rw [rest']
      rfl

/-! ## Functions -/

/-- After the inside of a function the same functions are open as before it. -/
theorem openAfter_inside {inner : List Token} {children : List Node}
    (h : Inside .functionEnd inner children) (start : Token) (outer rest : List Token) :
    openAfter (start :: outer) (inner ++ rest) = openAfter (start :: outer) rest := by
  generalize stop : TokenKind.functionEnd = kind at h
  induction h generalizing start outer rest with
  | nil => rfl
  | @text _ token _ _ other plain _ ih =>
    have stays : opens (start :: outer) token = start :: outer := by
      subst stop
      unfold opens
      split
      · exact absurd ‹_› plain
      · exact absurd ‹_› other
      · rfl
    rw [List.cons_append, openAfter, List.foldl_cons, stays]
    exact ih start outer rest stop
  | @function _ first inner _ close tokens _ isStart isEnd _ _ ihInner ih =>
    have opened : opens (start :: outer) first = first :: start :: outer := by
      rw [opens, isStart]
    have closed : opens (first :: start :: outer) close = start :: outer := by
      rw [opens, isEnd]
      rfl
    rw [List.cons_append, List.cons_append, List.append_assoc, openAfter, List.foldl_cons, opened]
    refine (ihInner first (start :: outer) _ rfl).trans ?_
    rw [List.cons_append, openAfter, List.foldl_cons, closed]
    exact ih start outer rest stop

/-- A function that nothing ends is left open. -/
theorem openAfter_unended {tokens : List Token} (h : Unended .functionEnd tokens)
    (start : Token) (outer : List Token) : openAfter (start :: outer) tokens ≠ [] := by
  generalize stop : TokenKind.functionEnd = kind at h
  induction h generalizing start outer with
  | here inside =>
    subst stop
    have := openAfter_inside inside start outer []
    rw [List.append_nil] at this
    rw [this]
    exact List.cons_ne_nil _ _
  | @within _ _ _ first _ inside isStart _ ih =>
    subst stop
    rw [openAfter_inside inside, openAfter, List.foldl_cons, opens, isStart]
    exact ih first (start :: outer) rfl

/-- Tokens that neither open nor close a block leave the open functions open. -/
theorem openAfter_texts {tokens : List Token} (text : ∀ t ∈ tokens, t.kind.isText = true)
    (opened : List Token) : openAfter opened tokens = opened := by
  induction tokens with
  | nil => rfl
  | cons t tokens ih =>
    obtain ⟨isText, text⟩ := List.forall_mem_cons.mp text
    have stays : opens opened t = opened := by
      unfold opens
      split
      · rename_i isStart
        rw [isStart] at isText
        cases isText
      · rename_i isEnd
        rw [isEnd] at isText
        cases isText
      · rfl
    rw [openAfter, List.foldl_cons, stays]
    exact ih text

/-- After the start of a function either its inside and its end come, or nothing ends it. -/
theorem inside_or_unended (tokens : List Token) :
    (∃ inner children close rest, tokens = inner ++ close :: rest ∧
        close.kind = .functionEnd ∧ Inside .functionEnd inner children) ∨
      Unended .functionEnd tokens := by
  -- A function inside is followed by more of the inside, which is a shorter text but no tail of
  -- the list that a structural induction would reach.
  induction length : tokens.length using Nat.strongRecOn generalizing tokens with
  | ind length ih =>
    cases tokens with
    | nil => exact .inr (.here .nil)
    | cons token rest =>
      subst length
      have less : rest.length < (token :: rest).length := Nat.lt_succ_self _
      by_cases isEnd : token.kind = .functionEnd
      · exact .inl ⟨[], [], token, rest, rfl, isEnd, .nil⟩
      by_cases isStart : token.kind = .functionStart
      · rcases ih _ less rest rfl with ⟨inner, children, close, after, rfl, isEnd, inside⟩ | unended
        · have less' : after.length < (token :: (inner ++ close :: after)).length := by
            simp only [List.length_cons, List.length_append]
            omega
          rcases ih _ less' after rfl with
            ⟨inner', children', close', after', rfl, isEnd', inside'⟩ | unended
          · refine .inl ⟨token :: inner ++ close :: inner', _, close', after', ?_, isEnd',
              .function isStart isEnd inside inside'⟩
            simp
          · exact .inr (unended.function isStart isEnd inside)
        · exact .inr (.within .nil isStart unended)
      · rcases ih _ less rest rfl with
          ⟨inner, children, close, after, rfl, isEnd', inside⟩ | unended
        · exact .inl ⟨token :: inner, _, close, after, rfl, isEnd', .text isEnd isStart inside⟩
        · exact .inr (unended.text isEnd isStart)

/-! ## Rows -/

/-- The tokens of a template from a place outside of functions on, and their nodes, where `closed`
says whether a function ends right before them. -/
inductive Row : Bool → List Token → List Node → Prop where
  | nil {closed} : Row closed [] []
  | text {closed token tokens nodes} : IsText [] closed token → Row false tokens nodes →
      Row closed (token :: tokens) (Node.joinText token nodes)
  | unary {operator token tokens nodes} : token.kind = .unaryOperator →
      Node.ofUnary token = .ok (.unary operator token none) → Row false tokens nodes →
      Row true (token :: tokens) (.unary operator token none :: nodes)
  | function {closed start inner children close tokens nodes} :
      start.kind = .functionStart → close.kind = .functionEnd →
      Inside .functionEnd inner children → Row true tokens nodes →
      Row closed (start :: inner ++ close :: tokens)
        (.block .function .function start children :: nodes)

/-- Tokens that leave no function open are a row. -/
theorem exists_row {tokens : List Token} (read : ∀ token ∈ tokens, token.IsRead)
    (balanced : openAfter [] tokens = []) (closed : Bool) : ∃ nodes, Row closed tokens nodes := by
  induction length : tokens.length using Nat.strongRecOn generalizing tokens closed with
  | ind length ih =>
    cases tokens with
    | nil => exact ⟨[], .nil⟩
    | cons token rest =>
      subst length
      obtain ⟨head, read⟩ := List.forall_mem_cons.mp read
      have less : rest.length < (token :: rest).length := Nat.lt_succ_self _
      -- A function is taken as a whole, so the row goes on after its end.
      by_cases isStart : token.kind = .functionStart
      · rw [openAfter, List.foldl_cons, opens, isStart] at balanced
        rcases inside_or_unended rest with
          ⟨inner, children, close, after, rfl, isEnd, inside⟩ | unended
        · have balanced' : openAfter [] after = [] := by
            have := openAfter_inside inside token [] (close :: after)
            rw [openAfter, openAfter, List.foldl_cons, opens, isEnd] at this
            exact this.symm.trans balanced
          have less' : after.length < (token :: (inner ++ close :: after)).length := by
            simp only [List.length_cons, List.length_append]
            omega
          obtain ⟨nodes, row⟩ := ih _ less' (fun t mem => read t (by simp [mem])) balanced' true rfl
          exact ⟨_, .function isStart isEnd inside row⟩
        · exact absurd balanced (openAfter_unended unended token [])
      -- Outside of functions a function end closes nothing.
      have stays : opens [] token = [] := by
        unfold opens
        split
        · exact absurd ‹_› isStart
        · rfl
        · rfl
      rw [openAfter, List.foldl_cons, stays] at balanced
      obtain ⟨nodes, row⟩ := ih _ less read balanced false rfl
      by_cases after : token.kind = .unaryOperator ∧ closed = true
      · obtain ⟨isOperator, rfl⟩ := after
        obtain ⟨operator, made⟩ := ofUnary_of_isRead head isOperator
        exact ⟨_, .unary isOperator made row⟩
      · refine ⟨_, .text ⟨isStart, fun _ => rfl, fun isOperator _ => ?_⟩ row⟩
        simpa [isOperator] using after

/-- The tokens inside a function become pieces that stand for its children. -/
theorem exists_pieces_inside {tokens : List Token} {nodes : List Node}
    (h : Inside .functionEnd tokens nodes) :
    ∃ front, (∀ token text, front.head? ≠ some (.node (.literal token text))) ∧
      Nested (Piece.gather front) nodes ∧ ∀ index opened closed rest,
        pieces (index :: opened) closed (tokens ++ rest) =
          (pieces (index :: opened) false rest).map (front ++ ·) := by
  generalize stop : TokenKind.functionEnd = kind at h
  induction h with
  | nil =>
    refine ⟨[], by simp, .nil, fun index opened closed rest => ?_⟩
    rw [List.nil_append, pieces_inside]
    cases pieces (index :: opened) false rest <;> rfl
  | @text _ token _ nodes other plain _ ih =>
    obtain ⟨front, apart, nested, made⟩ := ih stop
    refine ⟨.text token :: front, by simp, ?_, fun index opened closed rest => ?_⟩
    · rw [Piece.gather_text token front apart]
      exact nested.joinText token
    · have text : IsText (index :: opened) closed token :=
        ⟨plain, fun isEnd => absurd (isEnd.trans stop) other, by simp⟩
      rw [List.cons_append, pieces_text text, made, Condition.map_append_cons]
  | @function _ start _ _ close _ nodes isStart isEnd inner _ ihInner ih =>
    obtain ⟨front, -, nested, made⟩ := ihInner rfl
    obtain ⟨front', -, nested', made'⟩ := ih stop
    refine ⟨.node (.block .function .function start []) :: front ++
      .node (.closing .function .function close) :: front', by simp, ?_,
      fun index opened closed rest => ?_⟩
    · rw [List.cons_append, Piece.gather, Piece.gather_append_node]
      exact .block inner.isContent nested nested'
    · simp only [List.cons_append, List.append_assoc]
      rw [pieces_start isStart, made, pieces_end isEnd, made']
      cases pieces (index :: opened) false rest <;> simp [Except.map]

/-- The tokens of a row become pieces that stand for its nodes. -/
theorem Row.exists_pieces {closed : Bool} {tokens : List Token} {nodes : List Node}
    (h : Row closed tokens nodes) :
    ∃ front, (∀ token text, front.head? ≠ some (.node (.literal token text))) ∧
      Nested (Piece.gather front) nodes ∧ pieces [] closed tokens = .ok front := by
  induction h with
  | nil => exact ⟨[], by simp, .nil, rfl⟩
  | @text closed token tokens nodes text _ ih =>
    obtain ⟨front, apart, nested, made⟩ := ih
    refine ⟨.text token :: front, by simp, ?_, ?_⟩
    · rw [Piece.gather_text token front apart]
      exact nested.joinText token
    · rw [pieces_text text, made]
      rfl
  | @unary operator token tokens nodes isOperator operated _ ih =>
    obtain ⟨front, -, nested, made⟩ := ih
    refine ⟨.node (.unary operator token none) :: front, by simp, .node rfl nested, ?_⟩
    rw [pieces_unary isOperator operated, made]
    rfl
  | @function closed start inner children close tokens nodes isStart isEnd inside _ ih =>
    obtain ⟨front, -, nested, made⟩ := exists_pieces_inside inside
    obtain ⟨front', -, nested', made'⟩ := ih
    refine ⟨.node (.block .function .function start []) :: front ++
      .node (.closing .function .function close) :: front', by simp, ?_, ?_⟩
    · rw [List.cons_append, Piece.gather, Piece.gather_append_node]
      exact .block inside.isContent nested nested'
    · rw [List.cons_append, pieces_start isStart, made, pieces_end isEnd, made']
      simp [Except.map]

/-- Linking the blocks of a row gives its nodes. -/
theorem Row.blocks {closed : Bool} {tokens : List Token} {nodes : List Node}
    (h : Row closed tokens nodes) :
    ∃ front, pieces [] closed tokens = .ok front ∧ linkBlocks (Piece.gather front) = .ok nodes := by
  obtain ⟨front, -, nested, made⟩ := h.exists_pieces
  exact ⟨front, made, linkBlocks_of_nested nested⟩

/-! ## Operators -/

/-- Every operator without an operand comes directly after a function, where `after` says whether
one comes before the nodes. -/
def Placed : Bool → List Node → Prop
  | _, [] => True
  | after, .unary _ _ none :: rest => after = true ∧ Placed false rest
  | _, node :: rest => Placed node.isFunction rest

theorem Placed.joinText {nodes : List Node} (h : Placed false nodes) (token : Token)
    (after : Bool) : Placed after (Node.joinText token nodes) := by
  unfold Node.joinText
  split
  · exact h
  · exact h

/-- In a row every operator comes directly after a function. -/
theorem Row.placed {closed : Bool} {tokens : List Token} {nodes : List Node}
    (h : Row closed tokens nodes) : Placed closed nodes := by
  induction h with
  | nil => trivial
  | text _ _ ih => exact ih.joinText _ _
  | unary _ _ _ ih => exact ⟨rfl, ih⟩
  | function _ _ _ _ ih => exact ih

/-- Such operators get their operands. -/
theorem exists_linkUnaryAfter {after : Bool} {done rest : List Node} (h : Placed after rest)
    (before : after = true → ∃ left, done.head? = some left ∧ left.isFunction = true) :
    ∃ nodes, linkUnaryAfter done rest = .ok nodes := by
  -- The last of the nodes that are done is a function whenever the next operator needs one.
  fun_induction linkUnaryAfter done rest generalizing after with
  | case1 done => exact ⟨_, rfl⟩
  | case2 operator token rest =>
    obtain ⟨left, none, -⟩ := before h.1
    cases none
  | case3 operator token rest left done isFunction ih => exact ih h.2 (absurd · Bool.false_ne_true)
  | case4 operator token rest left done notFunction =>
    obtain ⟨_, ⟨⟩, isFunction⟩ := before h.1
    exact absurd isFunction notFunction
  | case5 done node rest notBare ih =>
    refine ih ?_ fun isFunction => ⟨node, rfl, isFunction⟩
    rwa [Placed] at h
    exact notBare

/-- Linking the operators of a row succeeds. -/
theorem Row.exists_linkUnary {tokens : List Token} {nodes : List Node}
    (h : Row false tokens nodes) : ∃ linked, linkUnary nodes = .ok linked :=
  exists_linkUnaryAfter h.placed (absurd · Bool.false_ne_true)

end MessageExpr.Template
