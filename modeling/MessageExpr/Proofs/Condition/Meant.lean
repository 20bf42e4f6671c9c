import MessageExpr.Proofs.Condition.Row

/-!
# Tokens that have a meaning

White space has a meaning inside of quotes and functions only. Which blocks are open after some
tokens can be said by what will close them, and pruning leaves out just the white space that stands
where no block is open.

## Main definitions

* `opensAfter`, `opensAfterAll` — which blocks are open after a token, and after several
* `meant` — the tokens that have a meaning
* `IsOutside` — no block is open after the tokens

## Main results

* `prune_eq_meant` — pruning leaves the tokens that have a meaning
* `meant_spaced` — white space outside of blocks has none
-/

namespace MessageExpr.Condition

/-! ## Open blocks -/

/-- What will close the blocks that are open after a token, innermost first. A function opens
anywhere, and a quote only outside of blocks. -/
def opensAfter (opened : List TokenKind) (kind : TokenKind) : List TokenKind :=
  if kind = .functionStart then .functionEnd :: opened
  else
    match opened with
    | [] => if kind.isQuote then [kind] else []
    | stop :: outer => if kind = stop then outer else stop :: outer

/-- What will close the blocks that are open after some tokens, innermost first. -/
def opensAfterAll (opened : List TokenKind) (tokens : List Token) : List TokenKind :=
  tokens.foldl (fun opened token => opensAfter opened token.kind) opened

/-- What comes after the tokens is outside of blocks. -/
def IsOutside (tokens : List Token) : Prop := opensAfterAll [] tokens = []

instance (tokens : List Token) : Decidable (IsOutside tokens) :=
  inferInstanceAs (Decidable (opensAfterAll [] tokens = []))

theorem opensAfter_start (opened : List TokenKind) :
    opensAfter opened .functionStart = .functionEnd :: opened := rfl

/-- Outside of blocks a token that opens none leaves it so. -/
theorem opensAfter_plain {kind : TokenKind} (plain : kind ≠ .functionStart)
    (quote : kind.isQuote = false) : opensAfter [] kind = [] := by
  rw [opensAfter, if_neg plain]
  simp [quote]

theorem opensAfter_quote {kind : TokenKind} (h : kind.isQuote = true) :
    opensAfter [] kind = [kind] := by
  rw [opensAfter, if_neg (not_start_of_isQuote h).1]
  simp [h]

theorem opensAfter_stop {stop : TokenKind} (plain : stop ≠ .functionStart)
    (opened : List TokenKind) : opensAfter (stop :: opened) stop = opened := by
  rw [opensAfter, if_neg plain]
  simp

theorem opensAfter_text {stop kind : TokenKind} (other : kind ≠ stop)
    (plain : kind ≠ .functionStart) (opened : List TokenKind) :
    opensAfter (stop :: opened) kind = stop :: opened := by
  rw [opensAfter, if_neg plain]
  simp [other]

theorem opensAfterAll_cons (opened : List TokenKind) (token : Token) (rest : List Token) :
    opensAfterAll opened (token :: rest) = opensAfterAll (opensAfter opened token.kind) rest := rfl

theorem opensAfterAll_append (opened : List TokenKind) (front back : List Token) :
    opensAfterAll opened (front ++ back) = opensAfterAll (opensAfterAll opened front) back :=
  List.foldl_append

theorem opensAfterAll_concat (opened : List TokenKind) (front : List Token) (token : Token) :
    opensAfterAll opened (front ++ [token]) =
      opensAfter (opensAfterAll opened front) token.kind :=
  opensAfterAll_append opened front [token]

/-! ## Tokens that have a meaning -/

/-- The tokens without the white space outside of blocks. -/
def meant (opened : List TokenKind) : List Token → List Token
  | [] => []
  | token :: rest =>
    if opened = [] ∧ token.kind = .whitespace then meant opened rest
    else token :: meant (opensAfter opened token.kind) rest

theorem meant_space {token : Token} (h : token.kind = .whitespace) (rest : List Token) :
    meant [] (token :: rest) = meant [] rest := by
  rw [meant, if_pos ⟨rfl, h⟩]

theorem meant_start {token : Token} (h : token.kind = .functionStart) (opened : List TokenKind)
    (rest : List Token) :
    meant opened (token :: rest) = token :: meant (.functionEnd :: opened) rest := by
  rw [meant, if_neg (by simp [h]), h, opensAfter_start]

/-- Outside of blocks a token that opens none leaves it so. -/
theorem meant_plain {token : Token} (space : token.kind ≠ .whitespace)
    (plain : token.kind ≠ .functionStart) (quote : token.kind.isQuote = false)
    (rest : List Token) : meant [] (token :: rest) = token :: meant [] rest := by
  rw [meant, if_neg (by simp [space]), opensAfter_plain plain quote]

theorem ne_whitespace_of_isQuote {kind : TokenKind} (h : kind.isQuote = true) :
    kind ≠ .whitespace := by
  rintro rfl
  cases h

theorem meant_quote {token : Token} (h : token.kind.isQuote = true) (rest : List Token) :
    meant [] (token :: rest) = token :: meant [token.kind] rest := by
  rw [meant, if_neg (by simp [ne_whitespace_of_isQuote h]), opensAfter_quote h]

theorem meant_stop {stop : TokenKind} {token : Token} (h : token.kind = stop)
    (plain : stop ≠ .functionStart) (opened : List TokenKind) (rest : List Token) :
    meant (stop :: opened) (token :: rest) = token :: meant opened rest := by
  rw [meant, if_neg (by simp), h, opensAfter_stop plain]

private theorem meant_text {stop : TokenKind} {token : Token} (other : token.kind ≠ stop)
    (plain : token.kind ≠ .functionStart) (opened : List TokenKind) (rest : List Token) :
    meant (stop :: opened) (token :: rest) = token :: meant (stop :: opened) rest := by
  rw [meant, if_neg (by simp), opensAfter_text other plain]

/-- All tokens inside a block have a meaning. -/
theorem Inside.meant_append {stop : TokenKind} {tokens : List Token} {nodes : List Node}
    (h : Inside stop tokens nodes) (opened : List TokenKind) (rest : List Token) :
    meant (stop :: opened) (tokens ++ rest) = tokens ++ meant (stop :: opened) rest := by
  induction h generalizing opened rest with
  | nil => rfl
  | text other plain _ ih => rw [List.cons_append, meant_text other plain, ih, List.cons_append]
  | function start close _ _ ihInner ih =>
    simp only [List.cons_append, List.append_assoc]
    rw [meant_start start, ihInner, meant_stop close (by decide), ih]

theorem meant_append (opened : List TokenKind) (front back : List Token) :
    meant opened (front ++ back) =
      meant opened front ++ meant (opensAfterAll opened front) back := by
  induction front generalizing opened with
  | nil => rfl
  | cons token rest ih =>
    rw [List.cons_append, meant, meant, opensAfterAll_cons]
    split
    · rename_i both
      obtain ⟨rfl, space⟩ := both
      rw [ih, space]
      rfl
    · rw [ih, List.cons_append]

/-- White space outside of blocks has no meaning. -/
theorem meant_spaced {front spaces : List Token} (outside : IsOutside front)
    (blank : ∀ token ∈ spaces, token.kind = .whitespace) (back : List Token) :
    meant [] (front ++ spaces ++ back) = meant [] front ++ meant [] back := by
  rw [List.append_assoc, meant_append, outside]
  congr 1
  induction spaces with
  | nil => rfl
  | cons token rest ih =>
    obtain ⟨space, blank⟩ := List.forall_mem_cons.mp blank
    rw [List.cons_append, meant_space space, ih blank]

/-! ## Pruning -/

/-- Pruning keeps count of the blocks that are open: of functions, and of the quote around them. -/
theorem pruneAfter_eq_meant (functions : Nat) {quote : Option TokenKind}
    (isQuote : ∀ kind ∈ quote, kind.isQuote = true) (tokens : List Token) :
    pruneAfter quote functions tokens =
      meant (List.replicate functions .functionEnd ++ quote.toList) tokens := by
  induction tokens generalizing functions quote with
  | nil => rfl
  | cons token rest ih =>
    by_cases isStart : token.kind = .functionStart
    · rw [pruneAfter_start isStart, meant_start isStart, ih _ isQuote, List.replicate_succ,
        List.cons_append]
    cases functions with
    | succ functions =>
      have opened : List.replicate (functions + 1) TokenKind.functionEnd ++ quote.toList =
          .functionEnd :: (List.replicate functions .functionEnd ++ quote.toList) := rfl
      by_cases isEnd : token.kind = .functionEnd
      · rw [pruneAfter_end isEnd, opened, meant_stop isEnd (by decide), ih _ isQuote,
          Nat.add_sub_cancel]
      · rw [Kept.function.pruneAfter_text isEnd isStart, opened, meant_text isEnd isStart, ← opened,
          ih _ isQuote]
    | zero =>
      cases quote with
      | some stop =>
        have isStop : stop.isQuote = true := isQuote stop rfl
        by_cases same : token.kind = stop
        · rw [pruneAfter_unquote isStop same, prune, ih 0 (by simp)]
          exact (meant_stop same (not_start_of_isQuote isStop).1 [] rest).symm
        · rw [(Kept.quote isStop).pruneAfter_text same isStart, ih 0 isQuote]
          exact (meant_text same isStart [] rest).symm
      | none =>
        by_cases opens : token.kind.isQuote = true
        · rw [← prune, pruneAfter_quote opens, ih 0 (by simpa using opens)]
          exact (meant_quote opens rest).symm
        by_cases space : token.kind = .whitespace
        · rw [← prune, prune_space space, prune, ih 0 isQuote]
          exact (meant_space space rest).symm
        · have quote : token.kind.isQuote = false := by simpa using opens
          have kept : pruneAfter none 0 (token :: rest) = token :: pruneAfter none 0 rest := by
            simp [pruneAfter, quote, isStart, space]
          rw [kept, ih 0 isQuote]
          exact (meant_plain space isStart quote rest).symm

/-- Pruning leaves the tokens that have a meaning. -/
theorem prune_eq_meant (tokens : List Token) : prune tokens = meant [] tokens :=
  pruneAfter_eq_meant 0 (by simp) tokens

end MessageExpr.Condition
