import MessageExpr.Proofs.Condition.Path

/-!
# What a walk over a condition records

A walk over a condition succeeds just where a path leads to the end of the text, and then the tokens
of the path are recorded. There is one exception: a walk does not mind when the text ends inside a
block, but no nodes can be made of what it has recorded then.

## Main definitions

* `Cursor.Takes` — a cursor leads to another one over some steps
* `Halted` — a walk that has come to the end inside a block
* `Went` — a cursor after an element of a condition

## Main results

* `passed_skipQuoted`, `skipQuoted_of_interior` — where the inside of a block leads
* `went_of_firstOf`, `operatorBefore_of_operand` — where an element leads
* `exists_path_of_run`, `run_of_path` — a walk takes a path
* `seatedRow_of_tokens` — the tokens of a condition are a row whose operators have operands that
  they accept on their right, or broken
-/

namespace MessageExpr

open Condition

theorem Token.isEnd_of_kind {token : Token} {kind : TokenKind} (h : token.kind = kind)
    (other : kind ≠ .endOfLine) : token.isEnd = false := by
  simp [Token.isEnd, h, other]

/-! ## Steps of a cursor -/

namespace Cursor

/-- The cursor leads to another one over some steps, none of which is over the end. -/
def Takes : Cursor → List Step → Cursor → Prop
  | c, [], d => c = d
  | c, step :: rest, d =>
    (c.nextOf step.filter).current = some step.token ∧ step.token.isEnd = false ∧
      (c.nextOf step.filter).Takes rest d

variable {c d e : Cursor} {steps steps' : List Step}

theorem takes_append :
    c.Takes (steps ++ steps') e ↔ ∃ d, c.Takes steps d ∧ d.Takes steps' e := by
  induction steps generalizing c with
  | nil => exact ⟨fun h => ⟨c, rfl, h⟩, fun ⟨_, same, h⟩ => same ▸ h⟩
  | cons step rest ih =>
    simp only [List.cons_append, Takes, ih]
    constructor
    · rintro ⟨current, notEnd, d, takes, takes'⟩
      exact ⟨d, ⟨current, notEnd, takes⟩, takes'⟩
    · rintro ⟨d, ⟨current, notEnd, takes⟩, takes'⟩
      exact ⟨current, notEnd, d, takes, takes'⟩

theorem Takes.append (h : c.Takes steps d) (h' : d.Takes steps' e) : c.Takes (steps ++ steps') e :=
  takes_append.mpr ⟨d, h, h'⟩

/-- One step is taken unless the text has ended. -/
theorem takes_nextOf {token : Token} {filter : List TokenKind}
    (current : (c.nextOf filter).current = some token) (notEnd : token.isEnd = false) :
    c.Takes [⟨filter, token⟩] (c.nextOf filter) :=
  ⟨current, notEnd, rfl⟩

theorem tokens_nextOf {token : Token} {filter : List TokenKind}
    (current : (c.nextOf filter).current = some token) :
    (c.nextOf filter).tokens.toList = c.tokens.toList ++ if token.isEnd then [] else [token] := by
  obtain rfl := Option.some.inj current
  simp only [nextOf]
  split <;> simp

/-- The end is not recorded. -/
theorem tokens_next_of_atEnd (atEnd : c.next.atEnd = true) :
    c.next.tokens.toList = c.tokens.toList := by
  rw [next, tokens_nextOf rfl, if_pos ((atEnd_eq rfl).symm.trans atEnd), List.append_nil]

theorem isRead_nextOf {token : Token} {filter : List TokenKind}
    (current : (c.nextOf filter).current = some token) (notEnd : token.isEnd = false) :
    token.IsRead := by
  obtain rfl := Option.some.inj current
  rcases Nat.lt_or_ge c.index c.text.length with inside | outside
  · exact Token.isRead_readAt _ _ inside
  · rw [Token.readAt_of_length_le outside] at notEnd
    cases notEnd

theorem Takes.tokens (h : c.Takes steps d) :
    d.tokens.toList = c.tokens.toList ++ steps.map Step.token := by
  induction steps generalizing c with
  | nil =>
    obtain rfl : c = d := h
    simp
  | cons step rest ih =>
    obtain ⟨current, notEnd, takes⟩ := h
    rw [ih takes, tokens_nextOf current, notEnd]
    simp

theorem Takes.isRead (h : c.Takes steps d) : ∀ step ∈ steps, step.token.IsRead := by
  induction steps generalizing c with
  | nil => simp
  | cons step rest ih =>
    obtain ⟨current, notEnd, takes⟩ := h
    exact List.forall_mem_cons.mpr ⟨isRead_nextOf current notEnd, ih takes⟩

theorem Takes.before (h : c.Takes steps d) : c.Before d := by
  induction steps generalizing c with
  | nil =>
    obtain rfl : c = d := h
    exact .refl c
  | cons step rest ih => exact (c.before_nextOf step.filter).trans (ih h.2.2)

end Cursor

namespace Condition

open Cursor

variable {c d e : Cursor} {token : Token} {stop : TokenKind} {filter : List TokenKind}

/-! ## Blocks -/

/-- The cursor is after the inside of a block, which the token that stops it has closed, unless
the text has ended. -/
inductive Passed (stop : TokenKind) (filter : List TokenKind) (c d : Cursor) : Prop where
  | ended {tokens} : d.atEnd = true → d.Settled → d.tokens.toList = c.tokens.toList ++ tokens →
      Unended stop tokens → Passed stop filter c d
  | closed {steps} : Interior stop filter steps → c.Takes steps d → Passed stop filter c d

theorem Unended.text {tokens : List Token} (h : Unended stop tokens) (other : token.kind ≠ stop)
    (plain : token.kind ≠ .functionStart) : Unended stop (token :: tokens) := by
  cases h with
  | here inside => exact .here (.text other plain inside)
  | within inside isStart rest =>
    rw [← List.cons_append]
    exact .within (.text other plain inside) isStart rest

theorem Unended.function {tokens inner children : _} (h : Unended stop tokens)
    {start close : Token} (isStart : start.kind = .functionStart)
    (isEnd : close.kind = .functionEnd) (inside : Inside .functionEnd inner children) :
    Unended stop (start :: inner ++ close :: tokens) := by
  cases h with
  | here rest => exact .here (.function isStart isEnd inside rest)
  | within front isStart' rest =>
    rw [← List.cons_append, ← List.append_assoc]
    exact .within (.function isStart isEnd inside front) isStart' rest

/-- The inside of a block leads to the token that stops it, or to the end of the text. -/
theorem passed_skipQuoted (other : stop ≠ .functionStart) (filter : List TokenKind) (c : Cursor) :
    Passed stop filter c (skipQuoted stop filter (c.nextOf filter)) := by
  -- The induction is on what is left to do, as a function and the text after it are both passed.
  induction todo : (c.nextOf filter).todo using Nat.strongRecOn generalizing c stop filter with
  | ind n ih =>
    subst todo
    obtain ⟨token, current⟩ : ∃ token, (c.nextOf filter).current = some token := ⟨_, rfl⟩
    have recorded := tokens_nextOf current
    by_cases isEnd : token.isEnd = true
    · have atEnd : (c.nextOf filter).atEnd = true := (atEnd_eq current).trans isEnd
      rw [skipQuoted_of_atEnd atEnd]
      rw [if_pos isEnd] at recorded
      exact .ended atEnd (c.settled_nextOf filter) recorded (.here .nil)
    have notEnd : token.isEnd = false := by simpa using isEnd
    have going : (c.nextOf filter).atEnd = false := (atEnd_eq current).trans notEnd
    have step := takes_nextOf current notEnd
    rw [notEnd] at recorded
    by_cases isStop : token.kind = stop
    · rw [skipQuoted_of_stop current isStop]
      exact .closed (.close isStop) step
    by_cases isStart : token.kind = .functionStart
    · rw [skipQuoted_of_start current isStart other]
      have toEnd : (c.nextOf filter).Before (skipQuoted .functionEnd [] (c.nextOf filter).next) :=
        (before_next _).trans (before_skipQuoted _ _ _)
      have less := todo_nextOf_lt_of_before going toEnd filter
      -- Inside a function every kind is looked for, whatever the block around it lets through.
      have inner : Passed .functionEnd [] (c.nextOf filter)
          (skipQuoted .functionEnd [] (c.nextOf filter).next) :=
        ih _ (todo_nextOf_lt going []) (by decide) [] _ rfl
      cases inner with
      | ended atEnd settled recorded' unended =>
        -- The text ends in the function, and so in the block around it.
        rw [settled atEnd, skipQuoted_of_atEnd atEnd]
        refine .ended atEnd settled ?_ (.within .nil isStart unended)
        rw [recorded', recorded]
        simp
      | closed interior takes =>
        obtain ⟨inner, close, children, same, isClose, inside⟩ := interior.exists_inside
        cases ih _ less other filter _ rfl with
        | ended atEnd settled recorded' unended =>
          refine .ended atEnd settled ?_ (unended.function isStart isClose inside)
          rw [recorded', takes.tokens, recorded, same]
          simp
        | closed interior' takes' =>
          exact .closed (.function isStart interior interior') ((step.append takes).append takes')
    · rw [skipQuoted_of_text current notEnd isStop isStart]
      cases ih _ (todo_nextOf_lt going filter) other filter _ rfl with
      | ended atEnd settled recorded' unended =>
        refine .ended atEnd settled ?_ (unended.text isStop isStart)
        rw [recorded', recorded]
        simp
      | closed interior takes =>
        exact .closed (.text isStop isStart interior) (step.append takes)

/-- The inside of a block is passed over where its steps are taken. -/
theorem skipQuoted_of_interior {steps : List Step} (h : Interior stop filter steps)
    (other : stop ≠ .functionStart) (takes : c.Takes steps d) :
    skipQuoted stop filter (c.nextOf filter) = d := by
  induction h generalizing c d with
  | close isStop =>
    obtain ⟨current, -, same⟩ := takes
    rw [skipQuoted_of_stop current isStop]
    exact same
  | text differs plain _ ih =>
    obtain ⟨current, notEnd, rest⟩ := takes
    rw [skipQuoted_of_text current notEnd differs plain]
    exact ih other rest
  | function isStart _ _ ihInner ih =>
    obtain ⟨current, notEnd, rest⟩ := takes
    obtain ⟨e, inner, rest⟩ := takes_append.mp rest
    have passed : skipQuoted .functionEnd [] (Cursor.next _) = e := ihInner (by decide) inner
    rw [skipQuoted_of_start current isStart other, passed]
    exact ih other rest

/-! ## White space -/

/-- Passing over white space takes the steps over it. -/
theorem exists_blank_of_skipRun (c : Cursor) :
    ∃ spaces d, Blank spaces ∧ c.Takes spaces d ∧ c.next.skipRun .whitespace = d.next ∧
      d.next.accepts .whitespace = false := by
  generalize same : c.next = x
  fun_induction Cursor.skipRun .whitespace x generalizing c with
  | case1 x atEnd =>
    subst same
    refine ⟨[], c, by simp [Blank], rfl, rfl, ?_⟩
    obtain ⟨token, current⟩ : ∃ token, c.next.current = some token := ⟨_, rfl⟩
    rw [atEnd_eq current, Token.isEnd, beq_iff_eq] at atEnd
    rw [accepts_eq current, atEnd]
    rfl
  | case2 x notEnd isSpace _ ih =>
    subst same
    obtain ⟨token, current⟩ : ∃ token, c.next.current = some token := ⟨_, rfl⟩
    have kind : token.kind = .whitespace := by simpa [current] using isSpace
    obtain ⟨spaces, d, blank, takes, skipped, stops⟩ := ih c.next rfl
    exact ⟨⟨[], token⟩ :: spaces, d, blank_cons.mpr ⟨⟨rfl, kind⟩, blank⟩,
      ⟨current, Token.isEnd_of_kind kind (by decide), takes⟩, skipped, stops⟩
  | case3 x notEnd notSpace =>
    subst same
    refine ⟨[], c, by simp [Blank], rfl, rfl, ?_⟩
    obtain ⟨token, current⟩ : ∃ token, c.next.current = some token := ⟨_, rfl⟩
    rw [accepts_eq current]
    simpa [current] using notSpace

/-- White space is passed over where the steps over it are taken. -/
theorem skipRun_of_blank {spaces : List Step} (blank : Blank spaces) (takes : c.Takes spaces d)
    (stops : d.next.accepts .whitespace = false) : c.next.skipRun .whitespace = d.next := by
  induction spaces generalizing c with
  | nil =>
    obtain rfl : c = d := takes
    obtain ⟨token, current⟩ : ∃ token, c.next.current = some token := ⟨_, rfl⟩
    rw [accepts_eq current] at stops
    rw [Cursor.skipRun]
    simp [current, stops]
  | cons step rest ih =>
    obtain ⟨⟨any, kind⟩, blank⟩ := blank_cons.mp blank
    obtain ⟨current, notEnd, takes⟩ := takes
    rw [any] at current takes
    change c.next.current = some step.token at current
    rw [Cursor.skipRun, dif_neg (by simp [atEnd_eq current, notEnd]),
      if_pos (by simp [current, kind])]
    exact ih blank takes

theorem expect_eq_ok {kind : TokenKind} (current : c.current = some token) :
    c.expect kind = .ok () ↔ token.kind = kind ∧ token.isEnd = false := by
  simp only [Cursor.expect, current]
  split
  · rename_i both
    simpa using both
  · rename_i notBoth
    simpa using notBoth

private theorem exists_blank_of_expectRun (moved : c.next.expectRun .whitespace = .ok e) :
    ∃ spaces d, Blank spaces ∧ spaces ≠ [] ∧ c.Takes spaces d ∧ e = d.next := by
  obtain ⟨_, expected, made⟩ := bind_eq_ok.mp moved
  obtain rfl := pure_eq_ok.mp made
  obtain ⟨spaces, d, blank, takes, skipped, stops⟩ := exists_blank_of_skipRun c
  refine ⟨spaces, d, blank, ?_, takes, skipped⟩
  rintro rfl
  obtain rfl : c = d := takes
  obtain ⟨kind, -⟩ := (expect_eq_ok rfl).mp expected
  rw [accepts_eq rfl, kind] at stops
  cases stops

private theorem expectRun_of_blank {spaces : List Step} (blank : Blank spaces)
    (nonempty : spaces ≠ [])
    (takes : c.Takes spaces d) (stops : d.next.accepts .whitespace = false) :
    c.next.expectRun .whitespace = .ok d.next := by
  obtain ⟨step, rest, rfl⟩ := List.exists_cons_of_ne_nil nonempty
  obtain ⟨⟨any, kind⟩, -⟩ := blank_cons.mp blank
  obtain ⟨current, notEnd, -⟩ := id takes
  rw [any] at current
  change c.next.current = some step.token at current
  rw [Cursor.expectRun, (expect_eq_ok current).mpr ⟨kind, notEnd⟩,
    skipRun_of_blank blank takes stops]
  rfl

/-- What comes after an operand or a unary operator is the end or white space. -/
theorem followedBySpace_eq_ok :
    followedBySpace c = .ok e ↔
      e = c.next ∧ (c.next.atEnd = true ∨ c.next.accepts .whitespace = true) := by
  obtain ⟨token, current⟩ : ∃ token, c.next.current = some token := ⟨_, rfl⟩
  rw [followedBySpace, accepts_eq current, beq_iff_eq]
  split
  · rename_i atEnd
    rw [Except.ok.injEq, eq_comm]
    simp [atEnd]
  · rename_i notEnd
    have notEnd : token.isEnd = false := by simpa [atEnd_eq current] using notEnd
    rw [bind_eq_ok]
    simp only [expect_eq_ok current, pure_eq_ok, atEnd_eq current, notEnd]
    simp [eq_comm, and_comm]

/-! ## Operands -/

/-- The text has ended inside a block, so that no nodes can be made of what was recorded. -/
structure Halted (c d : Cursor) : Prop where
  atEnd : d.atEnd = true
  settled : d.Settled
  exists_broken : ∃ tokens, d.tokens.toList = c.tokens.toList ++ tokens ∧ Broken tokens

theorem Halted.of_takes {steps : List Step} {whole : Bool} (h : Halted d e)
    (takes : c.Takes steps d) (path : Path whole steps) : Halted c e := by
  obtain ⟨tokens, recorded, broken⟩ := h.exists_broken
  obtain ⟨nodes, row, -⟩ := path.exists_row takes.isRead
  refine ⟨h.atEnd, h.settled, _, ?_, row.broken_append broken⟩
  rw [recorded, takes.tokens, List.append_assoc]

/-- Where the rule of an operand leads. -/
theorem operand_of_ruleFor? (current : c.next.current = some token)
    (mem : token.kind ∈ operandKinds) {rule : Rule} (found : ruleFor? token.kind = some rule)
    (taken : rule c.next = .ok (some e)) :
    (∃ more, Operand token more ∧ c.Takes (⟨[], token⟩ :: more) e) ∨ Halted c e := by
  have accepted : c.next.accepts token.kind = true := by simp [accepts_eq current]
  have notEnd : token.isEnd = false :=
    Token.isEnd_of_kind rfl fun isEnd => absurd (isEnd ▸ mem) (by decide)
  have here : c.Takes [⟨[], token⟩] c.next := takes_nextOf current notEnd
  have recorded : c.next.tokens.toList = c.tokens.toList ++ [token] := by
    rw [Cursor.next, tokens_nextOf current, notEnd]
    rfl
  have value (mem : token.kind ∈ valueKinds) (same : c.next = e) :
      ∃ more, Operand token more ∧ c.Takes (⟨[], token⟩ :: more) e :=
    ⟨[], .value mem, same ▸ here⟩
  have quote (isQuote : token.kind.isQuote = true)
      (moved : skipQuoted token.kind (quoteFilter token.kind)
        (c.next.nextOf (quoteFilter token.kind)) = e) :
      (∃ more, Operand token more ∧ c.Takes (⟨[], token⟩ :: more) e) ∨ Halted c e := by
    have passed :=
      passed_skipQuoted (not_start_of_isQuote isQuote).1 (quoteFilter token.kind) c.next
    rw [moved] at passed
    cases passed with
    | ended atEnd settled recorded' unended =>
      refine .inr ⟨atEnd, settled, _, ?_, unended.broken_quote isQuote⟩
      rw [recorded', recorded, List.append_assoc]
      rfl
    | closed interior takes => exact .inl ⟨_, .quote isQuote interior, here.append takes⟩
  -- Only kinds with a rule are left. A value is one token, a negative number is two, and the
  -- other operands are blocks.
  cases kind : token.kind <;> rw [kind] at found accepted mem <;> cases found
  case singleQuote =>
    simp only [quotedText, accepted, if_true, Except.ok.injEq, Option.some.injEq] at taken
    exact quote (by rw [kind]; rfl) (by rw [kind]; exact taken)
  case doubleQuote =>
    simp only [quotedText, accepted, if_true, Except.ok.injEq, Option.some.injEq] at taken
    exact quote (by rw [kind]; rfl) (by rw [kind]; exact taken)
  case functionStart =>
    rw [functionText_eq accepted, Except.ok.injEq, Option.some.injEq] at taken
    have passed := passed_skipQuoted (by decide : TokenKind.functionEnd ≠ .functionStart) [] c.next
    change Passed .functionEnd [] c.next (skipQuoted .functionEnd [] c.next.next) at passed
    rw [taken] at passed
    cases passed with
    | ended atEnd settled recorded' unended =>
      refine .inr ⟨atEnd, settled, _, ?_, unended.broken_function kind⟩
      rw [recorded', recorded, List.append_assoc]
      rfl
    | closed interior takes => exact .inl ⟨_, .function kind interior, here.append takes⟩
  case numericValue =>
    simp only [single, accepted, if_true, Except.ok.injEq, Option.some.injEq] at taken
    exact .inl (value (by rw [kind]; decide) taken)
  case booleanValue =>
    simp only [single, accepted, if_true, Except.ok.injEq, Option.some.injEq] at taken
    exact .inl (value (by rw [kind]; decide) taken)
  case nullValue =>
    simp only [single, accepted, if_true, Except.ok.injEq, Option.some.injEq] at taken
    exact .inl (value (by rw [kind]; decide) taken)
  case minus =>
    simp only [negativeNumber, accepted, if_true] at taken
    obtain ⟨_, expected, moved⟩ := bind_eq_ok.mp taken
    obtain rfl := Option.some.inj (pure_eq_ok.mp moved)
    obtain ⟨isNumber, notEnd'⟩ := (expect_eq_ok rfl).mp expected
    exact .inl ⟨_, .negative kind isNumber, here.append (takes_nextOf rfl notEnd')⟩
  all_goals exact absurd mem (by decide)

/-- The rule of an operand leads over it where its steps are taken. -/
theorem rule_of_operand {start : Token} {more : List Step} (h : Operand start more)
    (takes : c.Takes (⟨[], start⟩ :: more) d) :
    ∃ rule, ruleFor? start.kind = some rule ∧ rule c.next = .ok (some d) := by
  obtain ⟨current, notEnd, rest⟩ := takes
  change c.next.current = some start at current
  have accepted : c.next.accepts start.kind = true := by simp [accepts_eq current]
  cases h with
  | value mem =>
    obtain rfl : c.next = d := rest
    simp only [valueKinds, List.mem_cons, List.not_mem_nil, or_false] at mem
    rcases mem with kind | kind | kind <;> rw [kind] at accepted <;>
      exact ⟨_, by rw [kind]; rfl, by simp only [single, accepted, if_true]⟩
  | negative isSign isNumber =>
    obtain ⟨current', notEnd', same⟩ := rest
    obtain rfl : c.next.next = d := same
    rw [isSign] at accepted
    refine ⟨_, by rw [isSign]; rfl, ?_⟩
    have expected : c.next.next.expect .numericValue = .ok () :=
      (expect_eq_ok current').mpr ⟨isNumber, notEnd'⟩
    simp only [negativeNumber, accepted, if_true, expected]
    rfl
  | function isStart interior =>
    rw [isStart] at accepted
    refine ⟨_, by rw [isStart]; rfl, ?_⟩
    rw [functionText_eq accepted]
    exact congrArg _ (congrArg _ (skipQuoted_of_interior interior (by decide) rest))
  | quote isQuote interior =>
    have passed := skipQuoted_of_interior interior (not_start_of_isQuote isQuote).1 rest
    refine ⟨quotedText start.kind, ?_, ?_⟩
    · cases kind : start.kind <;> rw [kind] at isQuote <;> first | rfl | cases isQuote
    · simp only [quotedText, accepted, if_true]
      exact congrArg _ (congrArg _ passed)

/-! ## Elements -/

/-- The cursor is after an element of a condition, from where a path can go on. At the end of the
text the white space after an element may be missing, and the operand of an operator as well. -/
inductive Went (c d : Cursor) : Prop where
  | on {steps} : c.Takes steps d →
      (∀ {whole rest}, Path whole rest → Path whole (steps ++ rest)) → Went c d
  | ended {whole steps e} : c.Takes steps e → d = e.next → d.atEnd = true → Path whole steps →
      Went c d
  | halted : Halted c d → Went c d

/-- Where it leads when white space or the end is expected after some steps. -/
theorem went_of_followedBySpace {steps : List Step} (takes : c.Takes steps d)
    (moved : followedBySpace d = .ok e)
    (onward : ∀ {whole rest}, Path whole rest → Spaced rest → Path whole (steps ++ rest)) :
    Went c e := by
  obtain ⟨rfl, atEnd | isSpace⟩ := followedBySpace_eq_ok.mp moved
  · have path : Path true (steps ++ []) := onward (.nil rfl) (by simp [Spaced])
    rw [List.append_nil] at path
    exact .ended takes rfl atEnd path
  · obtain ⟨token, current⟩ : ∃ token, d.next.current = some token := ⟨_, rfl⟩
    rw [accepts_eq current, beq_iff_eq] at isSpace
    have space : d.Takes [⟨[], token⟩] d.next :=
      takes_nextOf current (Token.isEnd_of_kind isSpace (by decide))
    refine .on (takes.append space) fun rest => ?_
    rw [List.append_assoc]
    refine onward (.space isSpace rest) fun step mem => ?_
    obtain rfl := Option.some.inj mem
    exact ⟨rfl, isSpace⟩

/-- The rule of an operator between operands. -/
theorem exists_rule_of_betweenKinds (current : c.current = some token) (read : token.IsRead)
    (mem : token.kind ∈ betweenKinds) :
    ∃ group rule, ruleFor? token.kind = some rule ∧
      rule c = (operatorBefore group ((allowedAfter token).filterMap ruleFor?) c).map some := by
  simp only [betweenKinds, List.mem_cons, List.not_mem_nil, or_false] at mem
  rcases mem with kind | kind
  · obtain ⟨operator, known, -⟩ := ofBinary_of_isRead read kind
    have notEnd := Token.isEnd_of_kind kind (by decide)
    have shown : token.shown = token.text := by rw [Token.shown, notEnd]; rfl
    have allowed : allowedAfter token = rightKinds operator := by
      simp only [allowedAfter, kind, known, Option.map_some, Option.getD_some]
    refine ⟨.binary, _, by rw [kind]; rfl, ?_⟩
    simp only [binaryOperator, accepts_eq current, kind, BEq.rfl, if_true, token_eq current, shown,
      binaryOperands_eq known, allowed]
    cases operatorBefore .binary ((rightKinds operator).filterMap ruleFor?) c <;> rfl
  · have allowed : allowedAfter token = operandKinds.filter (· ≠ .minus) := by
      simp only [allowedAfter, kind]
    refine ⟨.logical, _, by rw [kind]; rfl, ?_⟩
    simp only [logicalOperator, accepts_eq current, kind, BEq.rfl, if_true, logicalOperands_eq,
      allowed]
    cases operatorBefore .logical ((operandKinds.filter (· ≠ .minus)).filterMap ruleFor?) c <;> rfl

/-- Where an operator with its operand leads. -/
theorem went_of_operatorBefore {group : OperatorGroup} (current : c.next.current = some token)
    (notEnd : token.isEnd = false) (mem : token.kind ∈ betweenKinds)
    (moved : operatorBefore group ((allowedAfter token).filterMap ruleFor?) c.next = .ok e) :
    Went c e := by
  obtain ⟨s, skipped, moved⟩ := bind_eq_ok.mp moved
  obtain ⟨spaces, d, blank, nonempty, takes, rfl⟩ := exists_blank_of_expectRun skipped
  have toOperand : c.Takes (⟨[], token⟩ :: spaces) d := ⟨current, notEnd, takes⟩
  have bare : Path false (⟨[], token⟩ :: spaces) := .bare rfl mem blank nonempty
  by_cases atEnd : d.next.atEnd = true
  · rw [if_pos atEnd] at moved
    cases moved
    exact .ended toOperand rfl atEnd bare
  rw [if_neg atEnd] at moved
  obtain ⟨result, taken, moved⟩ := bind_eq_ok.mp moved
  cases result with
  | none => cases moved
  | some f =>
    obtain ⟨start, atStart⟩ : ∃ start, d.next.current = some start := ⟨_, rfl⟩
    obtain ⟨rule, allowed, found, taken⟩ := ruleFor?_of_firstOf atStart taken
    rcases operand_of_ruleFor? atStart (mem_operandKinds_of_allowedAfter allowed) found taken with
      ⟨more, operand, takes'⟩ | halted
    · refine went_of_followedBySpace (toOperand.append takes') moved fun rest spaced => ?_
      rw [List.append_assoc]
      exact .between mem blank nonempty allowed operand spaced rest
    · -- At the end the white space after the operand is not looked for any more.
      obtain rfl := eq_next_of_followedBySpace moved
      have stays : f.next = f := halted.settled halted.atEnd []
      rw [stays]
      exact .halted (halted.of_takes toOperand bare)

/-- An operator leads over its operand where the steps are taken. -/
theorem operatorBefore_of_operand {group : OperatorGroup} {spaces more : List Step} {start : Token}
    {s f : Cursor} (blank : Blank spaces) (nonempty : spaces ≠ []) (takes : c.Takes spaces s)
    (allowed : start.kind ∈ allowedAfter token) (operand : Operand start more)
    (takes' : s.Takes (⟨[], start⟩ :: more) f) (followed : followedBySpace f = .ok e) :
    operatorBefore group ((allowedAfter token).filterMap ruleFor?) c = .ok e := by
  obtain ⟨current, notEnd, -⟩ := id takes'
  change s.next.current = some start at current
  obtain ⟨rule, found, taken⟩ := rule_of_operand operand takes'
  have stops : s.next.accepts .whitespace = false := by
    rw [accepts_eq current, beq_eq_false_iff_ne]
    rintro isSpace
    have mem := operand.mem_operandKinds
    rw [isSpace] at mem
    exact absurd mem (by decide)
  have going : ¬s.next.atEnd = true := by simp [atEnd_eq current, notEnd]
  have first : firstOf ((allowedAfter token).filterMap ruleFor?) s.next = .ok (some f) := by
    rw [firstOf_eq current, found]
    exact (if_pos allowed).trans taken
  simp only [operatorBefore, expectRun_of_blank blank nonempty takes stops, bind, Except.bind,
    if_neg going, first]
  exact followed

/-- Where an element of a condition leads. -/
theorem went_of_firstOf (going : c.next.atEnd = false)
    (taken : firstOf elements c.next = .ok (some e)) : Went c e := by
  obtain ⟨token, current⟩ : ∃ token, c.next.current = some token := ⟨_, rfl⟩
  have notEnd : token.isEnd = false := (atEnd_eq current).symm.trans going
  have accepted : c.next.accepts token.kind = true := by simp [accepts_eq current]
  have here : c.Takes [⟨[], token⟩] c.next := takes_nextOf current notEnd
  rw [firstOf_elements current] at taken
  obtain ⟨rule, found⟩ : ∃ rule, ruleFor? token.kind = some rule := by
    cases found : ruleFor? token.kind with
    | none => simp [found] at taken
    | some rule => exact ⟨rule, rfl⟩
  simp only [found] at taken
  have operand (mem : token.kind ∈ operandKinds) : Went c e := by
    rcases operand_of_ruleFor? current mem found taken with ⟨more, operand, takes⟩ | halted
    · exact .on takes fun rest => .operand operand rest
    · exact .halted halted
  have between (mem : token.kind ∈ betweenKinds) : Went c e := by
    obtain ⟨group, rule', found', same⟩ :=
      exists_rule_of_betweenKinds current (isRead_nextOf current notEnd) mem
    obtain rfl : rule = rule' := Option.some.inj (found.symm.trans found')
    rw [same] at taken
    obtain ⟨d, moved, made⟩ := map_eq_ok.mp taken
    obtain rfl := Option.some.inj made
    exact went_of_operatorBefore current notEnd mem moved
  cases kind : token.kind <;> rw [kind] at found accepted operand between <;> cases found
  case unaryOperator =>
    simp only [unaryOperator, accepted, if_true] at taken
    obtain ⟨d, moved, made⟩ := bind_eq_ok.mp taken
    obtain rfl := Option.some.inj (pure_eq_ok.mp made)
    exact went_of_followedBySpace here moved fun rest spaced => .unary kind spaced rest
  case whitespace =>
    simp only [single, accepted, if_true, Except.ok.injEq, Option.some.injEq] at taken
    exact .on (taken ▸ here) fun rest => .space kind rest
  case binaryOperator => exact between (by decide)
  case logicalOperator => exact between (by decide)
  all_goals exact operand (by decide)

/-! ## Whole conditions -/

theorem run_of_atEnd (h : c.atEnd = true) : run c = .ok c := by
  rw [run, dif_pos h]

theorem run_of_firstOf (notEnd : c.atEnd = false) (taken : firstOf elements c = .ok (some d)) :
    run c = run d.next := by
  rw [run, dif_neg (by simp [notEnd])]
  split
  · rename_i found
    rw [taken] at found
    cases found
  · rename_i found
    rw [taken] at found
    cases found
  · rename_i found
    rw [taken] at found
    cases found
    rfl

/-- The rule of the current token is taken first. -/
theorem run_of_rule {rule : Rule} (current : c.current = some token) (notEnd : token.isEnd = false)
    (found : ruleFor? token.kind = some rule) (taken : rule c = .ok (some d)) :
    run c = run d.next := by
  apply run_of_firstOf ((atEnd_eq current).trans notEnd)
  rw [firstOf_elements current, found]
  exact taken

/-- A cursor at the end stays there when the walk goes on. -/
theorem run_next_of_atEnd (settled : c.Settled) (atEnd : c.atEnd = true) : run c.next = .ok c := by
  have stays : c.next = c := settled atEnd []
  rw [stays, run_of_atEnd atEnd]

/-- A walk that succeeds takes a path, or comes to the end inside a block. -/
theorem exists_path_of_run (walked : run c.next = .ok d) :
    (∃ whole steps e, Path whole steps ∧ c.Takes steps e ∧ d = e.next) ∨ Halted c d := by
  generalize same : c.next = x at walked
  fun_induction run x generalizing c with
  | case1 x atEnd =>
    cases walked
    exact .inl ⟨true, [], c, .nil rfl, rfl, same.symm⟩
  | case2 => cases walked
  | case3 => cases walked
  | case4 x notEnd e found _ ih =>
    subst same
    cases went_of_firstOf (by simpa using notEnd) found with
    | on takes onward =>
      rcases ih rfl walked with ⟨whole, steps, f, path, takes', rfl⟩ | halted
      · exact .inl ⟨whole, _, f, onward path, takes.append takes', rfl⟩
      · exact .inr (halted.of_takes takes (by simpa using onward (.nil rfl : Path true [])))
    | ended takes isNext atEnd path =>
      -- Nothing comes after the end, so the walk is over here.
      rw [run_next_of_atEnd (isNext ▸ settled_next _) atEnd] at walked
      cases walked
      exact .inl ⟨_, _, _, path, takes, isNext⟩
    | halted halted =>
      rw [run_next_of_atEnd halted.settled halted.atEnd] at walked
      cases walked
      exact .inr halted

/-- White space is passed over. -/
theorem run_of_space (current : c.current = some token) (isSpace : token.kind = .whitespace) :
    run c = run c.next := by
  refine run_of_rule current (Token.isEnd_of_kind isSpace (by decide)) (by rw [isSpace]; rfl) ?_
  simp only [single, accepts_eq current, isSpace, BEq.rfl, if_true]

/-- What is expected after an element is there when a path goes on after it, and the walk goes on
in the same way before and after it. -/
theorem followedBySpace_of_spaced {rest : List Step} (spaced : Spaced rest)
    (takes : c.Takes rest d) (atEnd : d.next.atEnd = true) :
    followedBySpace c = .ok c.next ∧ run c.next.next = run c.next := by
  cases rest with
  | nil =>
    obtain rfl : c = d := takes
    refine ⟨followedBySpace_eq_ok.mpr ⟨rfl, .inl atEnd⟩, ?_⟩
    rw [run_next_of_atEnd c.settled_next atEnd, run_of_atEnd atEnd]
  | cons step rest =>
    obtain ⟨any, isSpace⟩ := spaced step rfl
    obtain ⟨current, -, -⟩ := takes
    rw [any] at current
    change c.next.current = some step.token at current
    refine ⟨followedBySpace_eq_ok.mpr ⟨rfl, .inr ?_⟩, (run_of_space current isSpace).symm⟩
    rw [accepts_eq current, isSpace]
    rfl

/-- A walk succeeds where a path leads to the end of the text. -/
theorem run_of_path {whole : Bool} {steps : List Step} (h : Path whole steps)
    (takes : c.Takes steps d) (atEnd : d.next.atEnd = true) : run c.next = .ok d.next := by
  induction h generalizing c with
  | nil =>
    obtain rfl : c = d := takes
    exact run_of_atEnd atEnd
  | space isSpace _ ih =>
    obtain ⟨current, -, rest⟩ := takes
    exact (run_of_space current isSpace).trans (ih rest)
  | operand operand _ ih =>
    obtain ⟨e, takes, rest⟩ := takes_append.mp takes
    obtain ⟨current, notEnd, -⟩ := id takes
    obtain ⟨rule, found, taken⟩ := rule_of_operand operand takes
    exact (run_of_rule current notEnd found taken).trans (ih rest)
  | unary kind spaced _ ih =>
    obtain ⟨current, notEnd, rest⟩ := takes
    obtain ⟨followed, goesOn⟩ := followedBySpace_of_spaced spaced rest atEnd
    refine (run_of_rule current notEnd (by rw [kind]; rfl) ?_).trans (goesOn.trans (ih rest))
    simp only [unaryOperator, accepts_eq current, kind, BEq.rfl, if_true]
    exact congrArg (· >>= fun d => pure (some d)) followed
  | between mem blank nonempty allowed operand spaced _ ih =>
    obtain ⟨e, takes, rest⟩ := takes_append.mp takes
    obtain ⟨f, takes', rest⟩ := takes_append.mp rest
    obtain ⟨current, notEnd, takes⟩ := takes
    obtain ⟨followed, goesOn⟩ := followedBySpace_of_spaced spaced rest atEnd
    obtain ⟨group, rule, found, same⟩ :=
      exists_rule_of_betweenKinds current (isRead_nextOf current notEnd) mem
    refine (run_of_rule current notEnd found ?_).trans (goesOn.trans (ih rest))
    rw [same, operatorBefore_of_operand blank nonempty takes allowed operand takes' followed]
    rfl
  | bare _ mem blank nonempty =>
    obtain ⟨current, notEnd, takes⟩ := takes
    obtain ⟨group, rule, found, same⟩ :=
      exists_rule_of_betweenKinds current (isRead_nextOf current notEnd) mem
    have stops : d.next.accepts .whitespace = false := by
      obtain ⟨token, current⟩ : ∃ token, d.next.current = some token := ⟨_, rfl⟩
      rw [atEnd_eq current, Token.isEnd, beq_iff_eq] at atEnd
      rw [accepts_eq current, atEnd]
      rfl
    refine (run_of_rule current notEnd found ?_).trans (run_next_of_atEnd d.settled_next atEnd)
    rw [same]
    simp only [operatorBefore, expectRun_of_blank blank nonempty takes stops, bind, Except.bind,
      if_pos atEnd]
    rfl

/-- A walk that succeeds reads on to the end. -/
theorem before_of_run (h : run c = .ok d) : c.Before d ∧ d.atEnd = true := by
  fun_induction run c with
  | case1 c atEnd =>
    cases h
    exact ⟨.refl _, atEnd⟩
  | case2 => cases h
  | case3 => cases h
  | case4 c _ e found _ ih =>
    obtain ⟨onward, atEnd⟩ := ih h
    have toElement : c.Before e := forward_firstOf forward_elements found
    exact ⟨(toElement.trans e.before_next).trans onward, atEnd⟩

/-! ## Tokens -/

section tokens

variable {escapes : Bool} {text : String}

/-- The tokens of a condition are those of a path to the end of its text, or no nodes can be made
of them. -/
theorem exists_path_of_tokens {found : List Token} (h : tokens escapes text = .ok found) :
    (∃ whole steps d, Path whole steps ∧ (Cursor.start escapes text).Takes steps d ∧
        d.next.atEnd = true ∧ found = steps.map Step.token) ∨
      Broken found := by
  obtain ⟨d, walked, made⟩ := bind_eq_ok.mp h
  obtain rfl := pure_eq_ok.mp made
  rcases exists_path_of_run walked with ⟨whole, steps, e, path, takes, rfl⟩ | halted
  · have atEnd := (before_of_run walked).2
    refine .inl ⟨whole, steps, e, path, takes, atEnd, ?_⟩
    rw [tokens_next_of_atEnd atEnd, takes.tokens]
    rfl
  · obtain ⟨tokens, recorded, broken⟩ := halted.exists_broken
    rw [recorded]
    exact .inr broken

/-- The tokens of a path to the end of a text are those of the condition. -/
theorem tokens_of_path {whole : Bool} {steps : List Step} (path : Path whole steps)
    (takes : (Cursor.start escapes text).Takes steps d) (atEnd : d.next.atEnd = true) :
    tokens escapes text = .ok (steps.map Step.token) := by
  rw [tokens, run_of_path path takes atEnd]
  refine congrArg Except.ok ?_
  rw [tokens_next_of_atEnd atEnd, takes.tokens]
  rfl

/-- The tokens of a condition are a row, or no nodes can be made of them. -/
theorem seatedRow_of_tokens {found : List Token} (h : tokens escapes text = .ok found) :
    (∃ nodes, Row found nodes ∧ Seated nodes) ∨ Broken found := by
  rcases exists_path_of_tokens h with ⟨whole, steps, d, path, takes, -, rfl⟩ | broken
  · obtain ⟨nodes, row, seated, -⟩ := path.exists_row takes.isRead
    exact .inl ⟨nodes, row, seated⟩
  · exact .inr broken

/-- In the row of a condition no two logical operators stand side by side. -/
theorem row_of_tokens {found : List Token} (h : tokens escapes text = .ok found) :
    (∃ nodes, Row found nodes ∧ Apart nodes) ∨ Broken found := by
  rcases seatedRow_of_tokens h with ⟨nodes, row, seated⟩ | broken
  · exact .inl ⟨nodes, row, seated.apart⟩
  · exact .inr broken

end tokens

end Condition

end MessageExpr
