import Mathlib.Data.List.Basic
import Mathlib.Data.List.Induction
import MessageExpr.Proofs.Condition.Meant

/-!
# What is open after some tokens

Whether a function or a quote is open after some tokens can be read off the tokens themselves. A
function is open when from some place on more functions start than end, so that an end without a
start counts for nothing. A quote is open when a token outside of functions opened it, while no
other quote was open, and no token of its kind outside of functions came after it. Pruning keeps
track of just this: it leaves out a token exactly when it is white space and nothing is open.

## Main definitions

* `MoreOpen`, `InFunction` — functions that are open after some tokens
* `IsQuoted` — the quote that is open after some tokens
* `IsOpen` — a function or a quote is open after some tokens

## Main results

* `isOutside_iff` — what comes after the tokens is outside of blocks when nothing is open
* `prune_concat` — one more token is kept unless it is white space and nothing is open
* `prune_eq_filter` — pruning as a filter of places
* `prune_prune` — pruning again changes nothing
-/

namespace MessageExpr.Condition

/-! ## What is open -/

/-- More than `n` functions are open after the tokens: from some place on, more than `n` more of
them start than end. -/
def MoreOpen (n : Nat) (tokens : List Token) : Prop :=
  ∃ earlier later, tokens = earlier ++ later ∧
    later.countP (·.kind = .functionEnd) + n < later.countP (·.kind = .functionStart)

/-- A function is open after the tokens. -/
def InFunction (tokens : List Token) : Prop := MoreOpen 0 tokens

/-- A quote of a kind is open after the tokens: one of them opened it, outside of functions and of
quotes, and none after it that is outside of functions is of the kind. -/
def IsQuoted (kind : TokenKind) (tokens : List Token) : Prop :=
  ∃ earlier start later, ∃ _ : tokens = earlier ++ start :: later,
    start.kind = kind ∧ kind.isQuote = true ∧
    ¬InFunction earlier ∧ (∀ other, ¬IsQuoted other earlier) ∧
    ∀ before close after, later = before ++ close :: after → close.kind = kind →
      InFunction (earlier ++ start :: before)
termination_by tokens.length
decreasing_by
  subst tokens
  simp

/-- A function or a quote is open after the tokens. -/
def IsOpen (tokens : List Token) : Prop := InFunction tokens ∨ ∃ kind, IsQuoted kind tokens

variable {tokens front : List Token} {token : Token} {kind : TokenKind} {n : Nat}

/-! ## One more token -/

private theorem concat_eq_append_cons_iff {α : Type} {l front back : List α} {x y : α} :
    l ++ [x] = front ++ y :: back ↔
      (l = front ∧ x = y ∧ back = []) ∨ ∃ more, back = more ++ [x] ∧ l = front ++ y :: more := by
  constructor
  · intro same
    rcases List.eq_nil_or_concat' back with rfl | ⟨more, z, rfl⟩
    · obtain ⟨rfl, last⟩ := List.append_inj' same rfl
      exact .inl ⟨rfl, List.singleton_inj.mp last, rfl⟩
    · have same : l ++ [x] = (front ++ y :: more) ++ [z] := by simpa using same
      obtain ⟨rfl, last⟩ := List.append_inj' same rfl
      exact .inr ⟨more, by rw [List.singleton_inj.mp last], rfl⟩
  · rintro (⟨rfl, rfl, rfl⟩ | ⟨more, rfl, rfl⟩)
    · rfl
    · simp

theorem moreOpen_concat : MoreOpen n (front ++ [token]) ↔
    ∃ earlier later, front = earlier ++ later ∧
      (later ++ [token]).countP (·.kind = .functionEnd) + n <
        (later ++ [token]).countP (·.kind = .functionStart) := by
  constructor
  · rintro ⟨earlier, later, same, more⟩
    rcases List.eq_nil_or_concat' later with rfl | ⟨later, last, rfl⟩
    · cases more
    · rw [← List.append_assoc] at same
      obtain ⟨rfl, same'⟩ := List.append_inj' same rfl
      obtain rfl := List.singleton_inj.mp same'
      exact ⟨earlier, later, rfl, more⟩
  · rintro ⟨earlier, later, rfl, more⟩
    exact ⟨earlier, later ++ [token], List.append_assoc .., more⟩

/-- A function that starts is open in addition to those that are open. -/
theorem moreOpen_concat_start (isStart : token.kind = .functionStart) :
    MoreOpen n (front ++ [token]) ↔ n = 0 ∨ MoreOpen (n - 1) front := by
  rw [moreOpen_concat]
  simp only [List.countP_append, List.countP_singleton, isStart, reduceCtorEq, decide_true,
    decide_false, if_true, Bool.false_eq_true, if_false, Nat.add_zero]
  constructor
  · rintro ⟨earlier, later, same, more⟩
    rcases Nat.eq_zero_or_pos n with rfl | positive
    · exact .inl rfl
    · exact .inr ⟨earlier, later, same, by omega⟩
  · rintro (rfl | ⟨earlier, later, same, more⟩)
    -- The function that starts last is open from its own place on.
    · exact ⟨front, [], by simp, by simp⟩
    · exact ⟨earlier, later, same, by omega⟩

/-- The end of a function ends one of those that are open, if any is. -/
theorem moreOpen_concat_end (isEnd : token.kind = .functionEnd) :
    MoreOpen n (front ++ [token]) ↔ MoreOpen (n + 1) front := by
  rw [moreOpen_concat, MoreOpen]
  simp [List.countP_append, isEnd, Nat.add_assoc, Nat.add_comm 1]

private theorem moreOpen_concat_other (start : token.kind ≠ .functionStart)
    (stop : token.kind ≠ .functionEnd) : MoreOpen n (front ++ [token]) ↔ MoreOpen n front := by
  rw [moreOpen_concat, MoreOpen]
  simp [List.countP_append, start, stop]

theorem IsQuoted.isQuote (h : IsQuoted kind tokens) : kind.isQuote = true := by
  rw [IsQuoted] at h
  obtain ⟨_, _, _, _, _, isQuote, _⟩ := h
  exact isQuote

/-- One more token opens a quote, or leaves it open unless it closes it. -/
theorem isQuoted_concat : IsQuoted kind (front ++ [token]) ↔
    (token.kind = kind ∧ kind.isQuote = true ∧ ¬InFunction front ∧ ∀ other, ¬IsQuoted other front) ∨
      (IsQuoted kind front ∧ (token.kind = kind → InFunction front)) := by
  rw [IsQuoted, IsQuoted.eq_1 kind front]
  constructor
  · rintro ⟨earlier, start, later, split, isKind, isQuote, outside, unquoted, still⟩
    -- The last token opened the quote, or it comes after the one that did.
    rcases concat_eq_append_cons_iff.mp split with ⟨rfl, rfl, rfl⟩ | ⟨more, rfl, rfl⟩
    · exact .inl ⟨isKind, isQuote, outside, unquoted⟩
    · refine .inr ⟨⟨earlier, start, more, rfl, isKind, isQuote, outside, unquoted, ?_⟩, ?_⟩
      · rintro before close after rfl same
        exact still before close (after ++ [token]) (by simp) same
      · exact still more token [] rfl
  · rintro (⟨isKind, isQuote, outside, unquoted⟩ | ⟨⟨earlier, start, later, rfl, isKind, isQuote,
      outside, unquoted, still⟩, last⟩)
    · exact ⟨front, token, [], rfl, isKind, isQuote, outside, unquoted, by simp⟩
    · refine ⟨earlier, start, later ++ [token], by simp, isKind, isQuote, outside, unquoted, ?_⟩
      intro before close after split same
      rcases concat_eq_append_cons_iff.mp split with ⟨rfl, rfl, rfl⟩ | ⟨more, rfl, rfl⟩
      · exact last same
      · exact still before close more rfl same

/-- Inside a function no quote is opened or closed. -/
theorem isQuoted_concat_inside (inside : InFunction front) :
    IsQuoted kind (front ++ [token]) ↔ IsQuoted kind front := by
  simp [isQuoted_concat, inside]

theorem isQuoted_concat_other (plain : token.kind.isQuote = false) :
    IsQuoted kind (front ++ [token]) ↔ IsQuoted kind front := by
  rw [isQuoted_concat]
  constructor
  · rintro (⟨rfl, isQuote, _⟩ | ⟨quoted, _⟩)
    · rw [plain] at isQuote
      cases isQuote
    · exact quoted
  · intro quoted
    refine .inr ⟨quoted, ?_⟩
    rintro rfl
    have isQuote := quoted.isQuote
    rw [plain] at isQuote
    cases isQuote

/-- Outside of functions a quote opens a quote, or closes the one of its kind. -/
theorem isQuoted_concat_quote (isQuote : token.kind.isQuote = true) (outside : ¬InFunction front) :
    IsQuoted kind (front ++ [token]) ↔
      (token.kind = kind ∧ ∀ other, ¬IsQuoted other front) ∨
        (IsQuoted kind front ∧ token.kind ≠ kind) := by
  rw [isQuoted_concat]
  constructor
  · rintro (⟨isKind, -, -, unquoted⟩ | ⟨quoted, still⟩)
    · exact .inl ⟨isKind, unquoted⟩
    · exact .inr ⟨quoted, fun same => outside (still same)⟩
  · rintro (⟨rfl, unquoted⟩ | ⟨quoted, other⟩)
    · exact .inl ⟨rfl, isQuote, outside, unquoted⟩
    · exact .inr ⟨quoted, fun same => absurd same other⟩

/-! ## Blocks that are open -/

/-- The functions and the quote that are open, as what will close them. -/
structure Stack (tokens : List Token) (depth : Nat) (quote : Option TokenKind) : Prop where
  opened : opensAfterAll [] tokens = List.replicate depth .functionEnd ++ quote.toList
  functions : ∀ n, MoreOpen n tokens ↔ n < depth
  quotes : ∀ kind, IsQuoted kind tokens ↔ quote = some kind

namespace Stack

variable {depth : Nat} {quote : Option TokenKind}

theorem inFunction (h : Stack tokens depth quote) : InFunction tokens ↔ 0 < depth := h.functions 0

private theorem nil : Stack [] 0 none where
  opened := rfl
  functions n := by simp [MoreOpen]
  quotes kind := by
    rw [IsQuoted]
    simp

private theorem start (h : Stack front depth quote) (isStart : token.kind = .functionStart) :
    Stack (front ++ [token]) (depth + 1) quote where
  opened := by
    rw [opensAfterAll_concat, h.opened, isStart, opensAfter_start, List.replicate_succ,
      List.cons_append]
  functions n := by
    rw [moreOpen_concat_start isStart, h.functions]
    omega
  quotes kind := by rw [isQuoted_concat_other (by rw [isStart]; rfl), h.quotes]

private theorem stop (h : Stack front (depth + 1) quote) (isEnd : token.kind = .functionEnd) :
    Stack (front ++ [token]) depth quote where
  opened := by
    rw [opensAfterAll_concat, h.opened, isEnd, List.replicate_succ, List.cons_append,
      opensAfter_stop (by decide)]
  functions n := by
    rw [moreOpen_concat_end isEnd, h.functions]
    omega
  quotes kind := by rw [isQuoted_concat_other (by rw [isEnd]; rfl), h.quotes]

private theorem inside (h : Stack front (depth + 1) quote) (start : token.kind ≠ .functionStart)
    (stop : token.kind ≠ .functionEnd) : Stack (front ++ [token]) (depth + 1) quote where
  opened := by
    rw [opensAfterAll_concat, h.opened, List.replicate_succ, List.cons_append,
      opensAfter_text stop start]
  functions n := by rw [moreOpen_concat_other start stop, h.functions]
  quotes kind := by
    rw [isQuoted_concat_inside (h.inFunction.mpr (Nat.succ_pos depth)), h.quotes]

/-- The end of a function that did not start ends nothing. -/
theorem functions_concat (h : Stack front 0 quote) (start : token.kind ≠ .functionStart) (n : Nat) :
    MoreOpen n (front ++ [token]) ↔ n < 0 := by
  by_cases stop : token.kind = .functionEnd
  · rw [moreOpen_concat_end stop, h.functions]
    omega
  · rw [moreOpen_concat_other start stop, h.functions]

theorem outside (h : Stack front 0 quote) : ¬InFunction front := by
  rw [h.inFunction]
  exact Nat.lt_irrefl 0

private theorem opens (h : Stack front 0 none) (isQuote : token.kind.isQuote = true) :
    Stack (front ++ [token]) 0 (some token.kind) where
  opened := by
    rw [opensAfterAll_concat, h.opened]
    exact opensAfter_quote isQuote
  functions := h.functions_concat (not_start_of_isQuote isQuote).1
  quotes kind := by simp [isQuoted_concat_quote isQuote h.outside, h.quotes]

private theorem closes (h : Stack front 0 (some token.kind)) : Stack (front ++ [token]) 0 none := by
  have isQuote : token.kind.isQuote = true := ((h.quotes token.kind).mpr rfl).isQuote
  have plain := (not_start_of_isQuote isQuote).1
  exact {
    opened := by
      rw [opensAfterAll_concat, h.opened]
      exact opensAfter_stop plain []
    functions := h.functions_concat plain
    quotes := fun kind => by simp [isQuoted_concat_quote isQuote h.outside, h.quotes] }

private theorem quoted (h : Stack front 0 (some kind)) (start : token.kind ≠ .functionStart)
    (other : token.kind ≠ kind) : Stack (front ++ [token]) 0 (some kind) where
  opened := by
    rw [opensAfterAll_concat, h.opened]
    exact opensAfter_text other start []
  functions := h.functions_concat start
  quotes kind' := by
    -- A quote of another kind neither closes the one that is open nor opens one inside it.
    by_cases isQuote : token.kind.isQuote = true
    · rw [isQuoted_concat_quote isQuote h.outside, h.quotes]
      have opened : ¬∀ other, ¬IsQuoted other front := fun none =>
        none kind ((h.quotes kind).mpr rfl)
      simp only [opened, and_false, false_or, Option.some.injEq, and_iff_left_iff_imp]
      rintro rfl
      exact other
    · rw [isQuoted_concat_other (by simpa using isQuote), h.quotes]

private theorem plain (h : Stack front 0 none) (start : token.kind ≠ .functionStart)
    (notQuote : token.kind.isQuote = false) : Stack (front ++ [token]) 0 none where
  opened := by
    rw [opensAfterAll_concat, h.opened]
    exact opensAfter_plain start notQuote
  functions := h.functions_concat start
  quotes kind := by rw [isQuoted_concat_other notQuote, h.quotes]

/-- After one more token there is a stack again. -/
theorem exists_concat (h : Stack front depth quote) (token : Token) :
    ∃ depth quote, Stack (front ++ [token]) depth quote := by
  by_cases isStart : token.kind = .functionStart
  · exact ⟨_, _, h.start isStart⟩
  cases depth with
  | succ depth =>
    by_cases isEnd : token.kind = .functionEnd
    · exact ⟨_, _, h.stop isEnd⟩
    · exact ⟨_, _, h.inside isStart isEnd⟩
  | zero =>
    cases quote with
    | none =>
      by_cases isQuote : token.kind.isQuote = true
      · exact ⟨_, _, h.opens isQuote⟩
      · exact ⟨_, _, h.plain isStart (by simpa using isQuote)⟩
    | some kind =>
      by_cases same : token.kind = kind
      · subst same
        exact ⟨_, _, h.closes⟩
      · exact ⟨_, _, h.quoted isStart same⟩

end Stack

private theorem exists_stack (tokens : List Token) : ∃ depth quote, Stack tokens depth quote := by
  induction tokens using List.reverseRecOn with
  | nil => exact ⟨0, none, .nil⟩
  | append_singleton front token ih =>
    obtain ⟨depth, quote, h⟩ := ih
    exact h.exists_concat token

/-- What comes after the tokens is outside of blocks when nothing is open. -/
theorem isOutside_iff : IsOutside tokens ↔ ¬IsOpen tokens := by
  obtain ⟨depth, quote, h⟩ := exists_stack tokens
  rw [IsOutside, h.opened, IsOpen, h.inFunction]
  simp only [h.quotes]
  cases depth <;> cases quote <;> simp [List.replicate_succ]

instance (tokens : List Token) : Decidable (IsOpen tokens) :=
  decidable_of_iff (¬IsOutside tokens) (by rw [isOutside_iff, not_not])

/-! ## Pruning -/

/-- One more token is kept unless it is white space and nothing is open before it. -/
theorem prune_concat (front : List Token) (token : Token) :
    prune (front ++ [token]) =
      prune front ++ if token.kind = .whitespace ∧ ¬IsOpen front then [] else [token] := by
  simp only [prune_eq_meant, meant_append, meant, ← isOutside_iff, IsOutside, and_comm]

/-- Pruning keeps the tokens at the places where they are not white space, or something is open. -/
theorem prune_eq_filter (tokens : List Token) :
    prune tokens = (tokens.zipIdx.filter fun placed =>
      placed.1.kind ≠ .whitespace ∨ IsOpen (tokens.take placed.2)).map (·.1) := by
  induction tokens using List.reverseRecOn with
  | nil => rfl
  | append_singleton front token ih =>
    have earlier : (front.zipIdx.filter fun placed =>
          placed.1.kind ≠ .whitespace ∨ IsOpen ((front ++ [token]).take placed.2)) =
        front.zipIdx.filter fun placed =>
          placed.1.kind ≠ .whitespace ∨ IsOpen (front.take placed.2) := by
      refine List.filter_congr fun placed mem => ?_
      have within : placed.2 < front.length := by
        simpa using List.snd_lt_of_mem_zipIdx mem
      rw [List.take_append_of_le_length (Nat.le_of_lt within)]
    rw [List.zipIdx_append, List.filter_append, List.map_append, earlier, ← ih, prune_concat]
    congr 1
    -- The tokens before the last one are all the others.
    rw [List.zipIdx_singleton, Nat.zero_add, List.filter_singleton, List.take_left]
    by_cases space : token.kind = .whitespace <;> by_cases opened : IsOpen front <;>
      simp [space, opened]

theorem prune_sublist (tokens : List Token) : (prune tokens).Sublist tokens := by
  induction tokens using List.reverseRecOn with
  | nil => exact .slnil
  | append_singleton front token ih =>
    rw [prune_concat]
    refine ih.append ?_
    split_ifs
    · exact List.nil_sublist _
    · exact List.Sublist.refl _

/-- Pruning keeps all that is not white space. -/
theorem filter_prune (tokens : List Token) :
    (prune tokens).filter (·.kind ≠ .whitespace) = tokens.filter (·.kind ≠ .whitespace) := by
  induction tokens using List.reverseRecOn with
  | nil => rfl
  | append_singleton front token ih =>
    rw [prune_concat, List.filter_append, List.filter_append, ih]
    split_ifs with pruned
    · simp [pruned.1]
    · rfl

private theorem meant_meant (opened : List TokenKind) (tokens : List Token) :
    meant opened (meant opened tokens) = meant opened tokens := by
  induction tokens generalizing opened with
  | nil => rfl
  | cons token rest ih =>
    rw [meant]
    split_ifs with dropped
    · exact ih opened
    · rw [meant, if_neg dropped, ih]

/-- Pruning again changes nothing. -/
theorem prune_prune (tokens : List Token) : prune (prune tokens) = prune tokens := by
  simp only [prune_eq_meant, meant_meant]

end MessageExpr.Condition
