import MessageExpr.Proofs.Condition.Facing
import MessageExpr.Proofs.Condition.Linked

/-!
# Reading back what is written

The text of a list of clauses is read as the nodes of the clauses, up to the places of tokens. The
walk over the text goes from segment to segment, so its tokens are a row with the nodes of the
segments; linking them gives the nodes of the clauses.

## Main results

* `read_atom` — a rule passes over a written atom
* `run_spaced` — the walk over written segments
* `parse_printed` — what is written is read back
-/

namespace MessageExpr.Condition

open Written

/-! ## Atoms -/

/-- Digits in the range of 64 bits are read as the integer that they stand for. -/
theorem read?_digits (n : IntegerText) :
    Number.read? (if n.negative then '-' :: n.digits else n.digits) =
      some (.integer (Int64.ofInt (signed n.negative n.digits))) := by
  obtain ⟨negative, digits, nonempty, isDigit, inRange⟩ := n
  have noPoint : '.' ∉ digits := fun mem => absurd (isDigit _ mem) (by decide)
  have natural : Decimal.natural? digits = some (Nat.ofDigitChars 10 digits 0) := by
    rw [Decimal.natural?, if_neg]
    simpa [nonempty] using isDigit
  have unsigned : Decimal.splitSign digits = (false, digits) :=
    Decimal.splitSign_of_isDigit fun c mem => isDigit c (List.mem_of_mem_head? mem)
  have word : Decimal.word? (if negative then '-' :: digits else digits) =
      some (Int64.ofInt (signed negative digits)) := by
    have integer : Decimal.integer? (if negative then '-' :: digits else digits) =
        some (signed negative digits) := by
      cases negative
      · simp [Decimal.integer?, unsigned, natural, signed]
      · simp [Decimal.integer?, Decimal.splitSign, natural, signed]
    rw [Decimal.word?, integer]
    simp only [Option.bind_some, Decimal.toWord?]
    rw [if_pos inRange]
  have whole : (if negative then '-' :: digits else digits).contains '.' = false := by
    cases negative <;> simp [noPoint]
  simp only [Number.read?]
  rw [whole, word]
  rfl

private theorem ofNumber_digits (n : IntegerText) {token : Token}
    (text : token.text = String.ofList n.digits) :
    Node.ofNumber token n.negative =
      .ok (.number token (.integer (Int64.ofInt (signed n.negative n.digits))) n.negative) := by
  have read := read?_digits n
  have same : (if n.negative then "-" ++ token.text else token.text).toList =
      if n.negative then '-' :: n.digits else n.digits := by
    split <;> simp [text]
  simp only [Node.ofNumber, same, read]

/-- A rule has taken a cursor in front of an atom to its last token. -/
structure Took (a : Atom) (c d : Cursor) (front rest : List Char) : Prop where
  ahead : d.Faces (front ++ a.printed) rest
  row : ∃ tokens node, d.tokens.toList = c.tokens.toList ++ tokens ∧ Row tokens [node] ∧
    node.unplaced = a.node

theorem notEnd_of_current {c : Cursor} {token : Token} (h : c.current = some token)
    {kind : TokenKind} (same : token.kind = kind) (other : kind ≠ .endOfLine) :
    c.atEnd = false := by
  rw [Cursor.atEnd_eq h]
  exact Token.isEnd_of_kind same other

theorem expect_eq {c : Cursor} {token : Token} (h : c.current = some token) {kind : TokenKind}
    (same : token.kind = kind) (notEnd : kind ≠ .endOfLine) : c.expect kind = .ok () := by
  simp [Cursor.expect, h, same, Token.isEnd, notEnd]

theorem single_eq {c : Cursor} {token : Token} (h : c.current = some token) {kind : TokenKind}
    (same : token.kind = kind) : single kind c = .ok (some c) := by
  simp [single, Cursor.accepts_eq h, same]

private theorem isQuote_kind (mark : QuoteMark) : mark.kind.isQuote = true := by
  cases mark <;> rfl

private theorem ruleFor?_quote (mark : QuoteMark) :
    ruleFor? mark.kind = some (quotedText mark.kind) := by
  cases mark <;> rfl

section read

variable {c : Cursor} {front rest : List Char}

private theorem read_quoted (mark : QuoteMark) (content : Content)
    (h : c.Faces front ((Atom.quoted mark content).printed ++ rest)) :
    ∃ token d, c.next.current = some token ∧ token.kind = mark.kind ∧
      quotedText mark.kind c.next = .ok (some d) ∧
      Took (.quoted mark content) c d front rest := by
  have start : c.Faces front ([mark.char] ++ (content.printed ++ mark.char :: rest)) := by
    simpa [Atom.printed] using h
  obtain ⟨token, kind, unplaced, current, recorded, ahead⟩ :=
    read_mark_next (stops_quote mark).mem start
  have allowed : allows (quoteFilter mark.kind) mark.kind = true ∧
      allows (quoteFilter mark.kind) .functionStart = true := by
    cases mark <;> exact ⟨rfl, rfl⟩
  -- The filter of a quote lets through the quotes that stop it and what starts a function.
  obtain ⟨ahead', inner, close, nodes, isStop, -, recorded', inside, same⟩ :=
    skipQuoted_content content (stops_quote mark) allowed.1 allowed.2 ahead
  refine ⟨token, skipQuoted mark.kind (quoteFilter mark.kind)
    (c.next.nextOf (quoteFilter mark.kind)), current, kind, ?_, ?_, token :: inner ++ [close], _,
    ?_, .quote (kind ▸ isQuote_kind mark) (isStop.trans kind.symm) (kind ▸ inside) .nil, ?_⟩
  · rw [quotedText, if_pos (by simp [Cursor.accepts_eq current, kind])]
    rfl
  · simpa [Atom.printed] using ahead'
  · rw [recorded', recorded]
    simp
  · simp [Node.unplaced, Node.unplacedAll_eq, same, unplaced, Atom.node, kind]

private theorem read_call (mark : CallMark) (content : Content)
    (h : c.Faces front ((Atom.call mark content).printed ++ rest)) :
    ∃ token d, c.next.current = some token ∧ token.kind = .functionStart ∧
      functionText c.next = .ok (some d) ∧ Took (.call mark content) c d front rest := by
  have start : c.Faces front (mark.text ++ (content.printed ++ '\x7d' :: rest)) := by
    simpa [Atom.printed] using h
  obtain ⟨token, kind, unplaced, current, recorded, ahead⟩ :=
    read_mark_next (mem_marks mark) start
  obtain ⟨ahead', inner, close, nodes, isStop, -, recorded', inside, same⟩ :=
    skipQuoted_content content stops_functionEnd (Token.allows_nil _) (Token.allows_nil _) ahead
  refine ⟨token, skipQuoted .functionEnd [] (c.next.nextOf []), current, kind, ?_, ?_,
    token :: inner ++ [close], _, ?_, .function kind isStop inside .nil, ?_⟩
  · exact functionText_eq (by simp [Cursor.accepts_eq current, kind])
  · simpa [Atom.printed] using ahead'
  · rw [recorded', recorded]
    simp
  · simp [Node.unplaced, Node.unplacedAll_eq, same, unplaced, Atom.node]

/-- A word that can be read is a token of its own. -/
theorem read_word {kind : TokenKind} {word : List Char} (notEnd : kind ≠ .endOfLine)
    (h : c.Faces front (word ++ rest))
    (read : Token.read true [] front.getLast? front.length (word ++ rest) =
      ⟨kind, String.ofList word, front.length, word.length⟩) :
    ∃ token, token.kind = kind ∧ token.text = String.ofList word ∧
      c.next.current = some token ∧ c.next.tokens.toList = c.tokens.toList ++ [token] ∧
      c.next.Faces (front ++ word) rest := by
  obtain ⟨current, recorded, ahead⟩ := h.nextOf read notEnd
  exact ⟨_, rfl, rfl, current, recorded, ahead⟩

theorem Took.of_token {a : Atom} {token : Token} {node : Node} (leaf : Leaf token node)
    (same : node.unplaced = a.node) (recorded : c.next.tokens.toList = c.tokens.toList ++ [token])
    (ahead : c.next.Faces (front ++ a.printed) rest) : Took a c c.next front rest :=
  ⟨ahead, [token], node, recorded, .leaf leaf .nil, same⟩

private theorem read_integer (n : IntegerText)
    (h : c.Faces front ((Atom.integer n).printed ++ rest))
    (edge : Token.Edge rest.head?) :
    ∃ token rule d, c.next.current = some token ∧ token.kind = (Atom.integer n).kind ∧
      ruleFor? (Atom.integer n).kind = some rule ∧ rule c.next = .ok (some d) ∧
      Took (.integer n) c d front rest := by
  cases sign : n.negative with
  | false =>
    have printed : (Atom.integer n).printed = n.digits := by simp [Atom.printed, sign]
    have isKind : (Atom.integer n).kind = .numericValue := by simp [Atom.kind, sign]
    rw [printed] at h
    obtain ⟨token, kind, text, current, recorded, ahead⟩ :=
      read_word (by decide) h (Token.read_number _ _ n.nonempty n.isDigit edge)
    have made := ofNumber_digits n text
    rw [sign] at made
    refine ⟨token, _, _, current, kind.trans isKind.symm, by rw [isKind]; rfl,
      single_eq current kind, .of_token (by simpa only [Leaf, kind] using made) ?_ recorded
        (printed ▸ ahead)⟩
    simp [Node.unplaced, Token.unplaced, kind, text, Atom.node, tokenOf, sign]
  | true =>
    -- The minus sign is a token of its own, and the digits after it are another one.
    have printed : (Atom.integer n).printed = ['-'] ++ n.digits := by simp [Atom.printed, sign]
    have isKind : (Atom.integer n).kind = .minus := by simp [Atom.kind, sign]
    obtain ⟨digit, more, digits⟩ := List.exists_cons_of_ne_nil n.nonempty
    have read := Token.read_minus front.getLast? front.length
      (n.isDigit digit (by simp [digits])) (more ++ rest)
    rw [← List.cons_append, ← digits] at read
    rw [printed, List.append_assoc] at h
    obtain ⟨minus, isMinus, -, current, recorded, ahead⟩ := read_word (by decide) h read
    obtain ⟨token, kind, text, current', recorded', ahead'⟩ :=
      read_word (by decide) ahead (Token.read_number _ _ n.nonempty n.isDigit edge)
    have made := ofNumber_digits n text
    rw [sign] at made
    refine ⟨minus, negativeNumber, c.next.next, current, isMinus.trans isKind.symm,
      by rw [isKind]; rfl, ?_, ?_, [minus, token], _, ?_,
      .negative isMinus kind made .nil, ?_⟩
    · rw [negativeNumber, if_pos (by simp [Cursor.accepts_eq current, isMinus]),
        expect_eq current' kind (by decide)]
      rfl
    · simpa [printed] using ahead'
    · rw [recorded', recorded]
      simp
    · simp [Node.unplaced, Token.unplaced, kind, text, Atom.node, tokenOf, sign]

end read

/-- A rule passes over a written atom. -/
theorem read_atom (a : Atom) {c : Cursor} {front rest : List Char}
    (h : c.Faces front (a.printed ++ rest)) (edge : Token.Edge front.getLast?)
    (edge' : Token.Edge rest.head?) :
    ∃ token rule d, c.next.current = some token ∧ token.kind = a.kind ∧
      ruleFor? a.kind = some rule ∧ rule c.next = .ok (some d) ∧ Took a c d front rest := by
  cases a with
  | quoted mark content =>
    obtain ⟨token, d, current, kind, taken, took⟩ := read_quoted mark content h
    exact ⟨token, _, d, current, kind, ruleFor?_quote mark, taken, took⟩
  | call mark content =>
    obtain ⟨token, d, current, kind, taken, took⟩ := read_call mark content h
    exact ⟨token, _, d, current, kind, rfl, taken, took⟩
  | integer n => exact read_integer n h edge'
  | boolean b =>
    obtain ⟨token, kind, text, current, recorded, ahead⟩ :=
      read_word (by decide) h (Token.reads_boolean b edge edge' _)
    have leaf : Leaf token (.boolean token) := by simp only [Leaf, kind]
    refine ⟨token, _, _, current, kind, rfl, single_eq current kind,
      .of_token leaf ?_ recorded ahead⟩
    simp [Node.unplaced, Token.unplaced, kind, text, Atom.node, tokenOf, Atom.printed]
  | null =>
    obtain ⟨token, kind, text, current, recorded, ahead⟩ :=
      read_word (by decide) h (Token.reads_null edge edge' _)
    have leaf : Leaf token (.null token) := by simp only [Leaf, kind]
    refine ⟨token, _, _, current, kind, rfl, single_eq current kind,
      .of_token leaf ?_ recorded ahead⟩
    simp [Node.unplaced, Token.unplaced, kind, text, Atom.node, tokenOf, Atom.printed]

/-! ## Segments -/

theorem edge_spaced (segments : List Segment) : Token.Edge (spaced segments).head? := by
  cases segments with
  | nil => exact .inl rfl
  | cons s rest => exact Token.edge_cons (by decide) _

/-- A space is read as white space. -/
theorem next_space {d : Cursor} {front rest : List Char} (h : d.Faces front (' ' :: rest)) :
    ∃ token, token.kind = .whitespace ∧ d.next.current = some token ∧
      d.next.tokens.toList = d.tokens.toList ++ [token] ∧ d.next.Faces (front ++ [' ']) rest := by
  have start : d.Faces front ([' '] ++ rest) := h
  obtain ⟨token, kind, -, current, recorded, ahead⟩ := read_word (by decide) start
    (Token.read_of_spelling? (s := ⟨.whitespace, [' ']⟩) _ _ rfl (by decide) rfl)
  exact ⟨token, kind, current, recorded, ahead⟩

/-- In front of segments lies white space, or nothing at all. -/
theorem next_spaced {segments : List Segment} {d : Cursor} {front : List Char}
    (h : d.Faces front (spaced segments)) :
    followedBySpace d = .ok d.next ∧ run d.next = run d.next.next ∧
      ∃ spaces, d.next.tokens.toList = d.tokens.toList ++ spaces ∧ Row spaces [] ∧
        match segments with
        | [] => run d.next = .ok d.next
        | s :: rest => d.next.Faces (front ++ [' ']) (s.printed ++ spaced rest) := by
  cases segments with
  | nil =>
    obtain ⟨atEnd, recorded, ahead⟩ := h.nextOf_nil []
    have atEnd : d.next.atEnd = true := atEnd
    -- At the end of the text the cursor stays where it is.
    have stays : d.next.next = d.next := d.settled_next atEnd []
    refine ⟨by rw [followedBySpace, if_pos atEnd], by rw [stays], [], ?_, .nil,
      run_of_atEnd atEnd⟩
    rw [Cursor.next, recorded, List.append_nil]
  | cons s rest =>
    rw [spaced_cons] at h
    obtain ⟨token, kind, current, recorded, ahead⟩ := next_space h
    have notEnd : d.next.atEnd = false := notEnd_of_current current kind (by decide)
    refine ⟨?_, ?_, [token], recorded, .space kind .nil, ahead⟩
    · rw [followedBySpace, notEnd, expect_eq current kind (by decide)]
      rfl
    · refine run_of_firstOf notEnd ?_
      rw [firstOf_elements current, kind]
      exact single_eq current kind

/-- A single space is skipped. -/
theorem expectRun_space {c : Cursor} {space token : Token} (isSpace : space.kind = .whitespace)
    (current : c.current = some space) (next : c.next.current = some token)
    (other : token.kind ≠ .whitespace) : c.expectRun .whitespace = .ok c.next := by
  have notEnd : c.atEnd = false := notEnd_of_current current isSpace (by decide)
  have stops : c.next.skipRun .whitespace = c.next := by
    rw [Cursor.skipRun]
    simp [next, other]
  rw [Cursor.expectRun, expect_eq current isSpace (by decide), Cursor.skipRun,
    dif_neg (by simp [notEnd]), if_pos (by simp [current, isSpace]), stops]
  rfl

/-- An operator and the atom after it are passed over. -/
theorem operatorBefore_eq (group : OperatorGroup) {kinds : List TokenKind} {a : Atom}
    (fits : a.kind ∈ kinds) {more : List Segment} {c : Cursor} {front : List Char}
    (h : c.Faces front (' ' :: (a.printed ++ spaced more))) :
    ∃ (d : Cursor) (front' : List Char),
      operatorBefore group (kinds.filterMap ruleFor?) c = .ok d.next ∧
      d.Faces front' (spaced more) ∧
      ∃ tokens node, d.tokens.toList = c.tokens.toList ++ tokens ∧ Row tokens [node] ∧
        node.unplaced = a.node := by
  obtain ⟨space, isSpace, current, recorded, ahead⟩ := next_space h
  obtain ⟨token, rule, d, current', kind, found, taken, took⟩ :=
    read_atom a ahead (Token.edge_append (by decide) _) (edge_spaced more)
  obtain ⟨ahead', tokens, node, recorded', row, same⟩ := took
  -- An operand starts with no space, so that one space is skipped and no more.
  have notSpace : token.kind ≠ .whitespace := kind ▸ a.kind_ne (by decide)
  have notEnd : c.next.next.atEnd = false :=
    notEnd_of_current current' kind (a.kind_ne (by decide))
  refine ⟨d, _, ?_, ahead', space :: tokens, node, ?_, .space isSpace row, same⟩
  · rw [operatorBefore, expectRun_space isSpace current current' notSpace]
    simp only [bind, Except.bind, notEnd, firstOf_eq current', kind, found, fits, if_true, taken,
      (next_spaced ahead').1]
    rfl
  · rw [recorded', recorded]
    simp

/-- The walk has gone from a cursor over a segment, up to what follows it. -/
structure RanOver (s : Segment) (more : List Segment) (c : Cursor) : Prop where
  exists_cursor : ∃ (d : Cursor) (front : List Char), run c.next = run d.next ∧
    d.Faces front (spaced more) ∧ ∃ tokens nodes, d.tokens.toList = c.tokens.toList ++ tokens ∧
      Row tokens nodes ∧ nodes.map Node.unplaced = s.nodes

section segments

variable {c : Cursor} {front : List Char} {more : List Segment}

private theorem ranOver_atom (a : Atom) (h : c.Faces front (a.printed ++ spaced more))
    (edge : Token.Edge front.getLast?) : RanOver (.atom a) more c := by
  obtain ⟨token, rule, d, current, kind, found, taken, ahead, tokens, node, recorded, row, same⟩ :=
    read_atom a h edge (edge_spaced more)
  have notEnd : c.next.atEnd = false := notEnd_of_current current kind (a.kind_ne (by decide))
  have step : firstOf elements c.next = .ok (some d) := by
    rw [firstOf_elements current, kind, found]
    exact taken
  exact ⟨d, _, run_of_firstOf notEnd step, ahead, tokens, [node], recorded, row, by
    simp [same, Segment.nodes]⟩

private theorem ranOver_unary (operator : UnaryOperator)
    (h : c.Faces front (operator.symbol.toList ++ spaced more))
    (edge : Token.Edge front.getLast?) : RanOver (.unary operator) more c := by
  obtain ⟨token, kind, text, current, recorded, ahead⟩ :=
    read_word (by decide) h (Token.reads_unary operator edge (edge_spaced more) _)
  obtain ⟨followed, goesOn, -⟩ := next_spaced ahead
  have step : firstOf elements c.next = .ok (some c.next.next) := by
    rw [firstOf_elements current, kind]
    simp only [ruleFor?, unaryOperator, Cursor.accepts_eq current, kind, BEq.rfl, if_true, followed]
    rfl
  have leaf : Leaf token (.unary operator token none) := by
    simp only [Leaf, kind, Node.ofUnary, text, String.ofList_toList,
      UnaryOperator.ofSpelling?_symbol]
  refine ⟨c.next, _, ?_, ahead, [token], _, recorded, .leaf leaf .nil, ?_⟩
  · rw [run_of_firstOf (notEnd_of_current current kind (by decide)) step, ← goesOn]
  · simp [Node.unplaced, Node.unplacedOperand, Token.unplaced, kind, text, Segment.nodes, tokenOf]

/-- An operator with the atom after it is passed over, when its rule passes over both. -/
theorem ranOver_infix {kind : TokenKind} {word : List Char} {operator : Node}
    (group : OperatorGroup) {kinds : List TokenKind} {a : Atom} (fits : a.kind ∈ kinds)
    (h : c.Faces front (word ++ ' ' :: (a.printed ++ spaced more)))
    (edge : Token.Edge front.getLast?) (reads : Token.Reads kind word)
    (notEnd : kind ≠ .endOfLine)
    (takes : ∀ {token}, token.kind = kind → token.text = String.ofList word →
      c.next.current = some token →
      firstOf elements c.next =
        (operatorBefore group (kinds.filterMap ruleFor?) c.next).map some ∧
      ∃ node, Leaf token node ∧ node.unplaced = operator)
    {s : Segment} (nodes : s.nodes = [operator, a.node]) : RanOver s more c := by
  obtain ⟨token, isKind, text, current, recorded, ahead⟩ :=
    read_word notEnd h (reads edge (Token.edge_cons (by decide) _) _)
  -- The rule of the operator is known only once the token is, which `takes` is given.
  obtain ⟨step, node, leaf, unplaced⟩ := takes isKind text current
  obtain ⟨d, front', passed, ahead', tokens, node', recorded', row, same⟩ :=
    operatorBefore_eq group fits ahead
  obtain ⟨-, goesOn, -⟩ := next_spaced ahead'
  rw [passed] at step
  refine ⟨d, front', ?_, ahead', token :: tokens, [node, node'], ?_, .leaf leaf row, ?_⟩
  · rw [run_of_firstOf (notEnd_of_current current isKind notEnd) step, ← goesOn]
  · rw [recorded', recorded]
    simp
  · simp [nodes, unplaced, same]

private theorem ranOver_binary (operator : BinaryOperator) {a : Atom}
    (fits : (Segment.binary operator a).Fits)
    (h : c.Faces front ((Segment.binary operator a).printed ++ spaced more))
    (edge : Token.Edge front.getLast?) : RanOver (.binary operator a) more c := by
  rw [Segment.printed, List.append_assoc] at h
  refine ranOver_infix .binary fits h edge (Token.reads_binary operator) (by decide) ?_ rfl
  intro token kind text current
  rw [String.ofList_toList] at text
  have shown : token.shown = operator.symbol := by
    rw [Token.shown, Token.isEnd_of_kind kind (by decide), ← text]
    rfl
  refine ⟨?_, .binary operator token none none, ?_, ?_⟩
  · rw [firstOf_elements current, kind]
    simp only [ruleFor?, binaryOperator, Cursor.accepts_eq current, kind, BEq.rfl, if_true,
      Cursor.token_eq current, shown,
      binaryOperands_eq (BinaryOperator.ofSpelling?_symbol operator)]
    cases operatorBefore .binary ((rightKinds operator).filterMap ruleFor?) c.next <;> rfl
  · simp only [Leaf, kind, Node.ofBinary, text, BinaryOperator.ofSpelling?_symbol]
  · simp [Node.unplaced, Node.unplacedOperand, Token.unplaced, kind, text, tokenOf]

private theorem ranOver_logical (operator : LogicalOperator) {a : Atom}
    (fits : (Segment.logical operator a).Fits)
    (h : c.Faces front ((Segment.logical operator a).printed ++ spaced more))
    (edge : Token.Edge front.getLast?) : RanOver (.logical operator a) more c := by
  -- A negative number may not follow a logical operator, but every other atom may.
  have mem : a.kind ∈ operandKinds.filter (· ≠ .minus) := by
    refine List.mem_filter.mpr ⟨a.kind_mem, ?_⟩
    cases a with
    | integer n => simpa [Atom.kind, Segment.Fits, Atom.isNegative] using fits
    | quoted mark content => cases mark <;> rfl
    | call | boolean | null => rfl
  rw [Segment.printed, List.append_assoc] at h
  refine ranOver_infix .logical mem h edge (Token.reads_logical operator) (by decide) ?_ rfl
  intro token kind text current
  rw [String.ofList_toList] at text
  refine ⟨?_, .logical operator token none none, ?_, ?_⟩
  · rw [firstOf_elements current, kind]
    simp only [ruleFor?, logicalOperator, Cursor.accepts_eq current, kind, BEq.rfl, if_true,
      logicalOperands_eq]
    cases operatorBefore .logical ((operandKinds.filter (· ≠ .minus)).filterMap ruleFor?)
      c.next <;> rfl
  · simp only [Leaf, kind, Node.ofLogical, text, LogicalOperator.ofSpelling?_symbol]
  · simp [Node.unplaced, Node.unplacedOperand, Token.unplaced, kind, text, tokenOf]

end segments

/-- The walk over written segments records a row with their nodes. -/
theorem run_spaced (segments : List Segment) (fit : ∀ s ∈ segments, s.Fits) {d : Cursor}
    {front : List Char} (h : d.Faces front (spaced segments)) :
    ∃ e tokens nodes, run d.next = .ok e ∧ e.tokens.toList = d.tokens.toList ++ tokens ∧
      Row tokens nodes ∧ nodes.map Node.unplaced = segments.flatMap Segment.nodes := by
  induction segments generalizing d front with
  | nil =>
    obtain ⟨-, -, spaces, recorded, blank, ended⟩ := next_spaced h
    exact ⟨d.next, spaces, [], ended, recorded, blank, rfl⟩
  | cons s more ih =>
    obtain ⟨fits, fit⟩ := List.forall_mem_cons.mp fit
    -- The space before a segment is an element that the walk goes over by itself.
    obtain ⟨-, goesOn, spaces, recorded, blank, ahead⟩ := next_spaced h
    have edge : Token.Edge (front ++ [' ']).getLast? := Token.edge_append (by decide) _
    have ran : RanOver s more d.next := by
      cases s with
      | atom a => exact ranOver_atom a ahead edge
      | unary operator => exact ranOver_unary operator ahead edge
      | binary operator a => exact ranOver_binary operator fits ahead edge
      | logical operator a => exact ranOver_logical operator fits ahead edge
    obtain ⟨d', front', step, ahead', tokens, nodes, recorded', row, same⟩ := ran
    obtain ⟨e, tokens', nodes', ran, recorded'', row', same'⟩ := ih fit ahead'
    refine ⟨e, spaces ++ (tokens ++ tokens'), nodes ++ nodes', ?_, ?_,
      blank.append (row.append row'), ?_⟩
    · rw [goesOn, step, ran]
    · rw [recorded'', recorded', recorded]
      simp
    · rw [List.map_append, same, same', List.flatMap_cons]

/-! ## Clauses -/

/-- The tokens of written clauses are a row with their nodes. -/
theorem tokens_printed (clauses : List Clause) :
    ∃ found nodes, tokens true (String.ofList (printed clauses)) = .ok found ∧ Row found nodes ∧
      nodes.map Node.unplaced = flat clauses := by
  have start := Cursor.faces_start (printed clauses)
  -- The end of the walk is all that is needed, so the two shapes of a text are alike after it.
  suffices walked : ∃ e found nodes,
      run (Cursor.start true (String.ofList (printed clauses))).next = .ok e ∧
      e.tokens.toList = found ∧ Row found nodes ∧ nodes.map Node.unplaced = flat clauses by
    obtain ⟨e, found, nodes, ran, recorded, row, same⟩ := walked
    refine ⟨found, nodes, ?_, row, same⟩
    rw [tokens, ran, ← recorded]
    rfl
  cases clauses with
  | nil =>
    obtain ⟨e, found, nodes, ran, recorded, row, same⟩ := run_spaced [] (by simp) start
    exact ⟨e, found, nodes, ran, recorded, row, same⟩
  | cons c clauses =>
    rw [printed_cons] at start ⊢
    have fit : ∀ s ∈ c.rest ++ segments clauses, s.Fits := by
      intro s mem
      rcases List.mem_append.mp mem with mem | mem
      · exact c.fits s mem
      · exact segments_fit clauses s mem
    -- No space stands before the first atom, which is therefore no segment of the induction.
    obtain ⟨d, front, step, ahead, tokens, nodes, recorded, row, same⟩ :=
      ranOver_atom c.first start (.inl rfl)
    obtain ⟨e, tokens', nodes', ran, recorded', row', same'⟩ := run_spaced _ fit ahead
    refine ⟨e, tokens ++ tokens', nodes ++ nodes', step.trans ran, ?_, row.append row', ?_⟩
    · rw [recorded', recorded]
      rfl
    · rw [List.map_append, same, same']
      simp [flat, segments]

/-- Tokens with the nodes of clauses are linked to the clauses. -/
theorem parse_of_row {text : String} {found : List Token} {nodes : List Node}
    {clauses : List Clause} (walked : tokens true text = .ok found) (row : Row found nodes)
    (same : nodes.map Node.unplaced = flat clauses) :
    ∃ nodes, parse true text = .ok nodes ∧
      nodes.map Node.unplaced = clauses.map Clause.node := by
  obtain ⟨front, made, blocks⟩ := row.blocks
  -- Linking does not look at places, so what is known of the clauses holds of the tokens.
  obtain ⟨unary, linkedUnary, sameUnary⟩ :=
    linkUnary_of_unplaced ((congrArg linkUnary same).trans (linkUnary_flat clauses))
  obtain ⟨binary, linkedBinary, sameBinary⟩ :=
    linkBinary_of_unplaced ((congrArg linkBinary sameUnary).trans (linkBinary_unlinked clauses))
  obtain ⟨logical, linkedLogical, sameLogical⟩ :=
    linkLogical_of_unplaced
      ((congrArg linkLogical sameBinary).trans (linkLogical_compared clauses))
  refine ⟨logical, ?_, sameLogical⟩
  simp only [parse, walked, made, blocks, linkedUnary, linkedBinary, bind, Except.bind]
  exact linkedLogical

/-- What is written is read back: the text of a list of clauses, with a space between two elements
and a backslash before each special character of a literal, is read as the nodes of the clauses, up
to the places of tokens. -/
theorem parse_printed (clauses : List Clause) :
    ∃ nodes, parse true (String.ofList (printed clauses)) = .ok nodes ∧
      nodes.map Node.unplaced = clauses.map Clause.node := by
  obtain ⟨found, nodes, walked, row, same⟩ := tokens_printed clauses
  exact parse_of_row walked row same

end MessageExpr.Condition
