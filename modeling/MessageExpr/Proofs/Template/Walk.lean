import MessageExpr.Proofs.Cursor.Recorded
import MessageExpr.Proofs.Template.Glued
import MessageExpr.Template

/-!
# What a walk over a template records

In a template a cursor reads tokens of every kind, so it goes over the tokens of the text and
nothing else. The walk looks at the functions outside of others only: it stops where the unary
operator after one of them is glued to the next token, and otherwise it records every token.

## Main definitions

* `Cursor.ahead` — the tokens from the current one on
* `Cursor.whole` — what the cursor has recorded, with what it will record

## Main results

* `Template.tokens_eq` — whether a template has tokens, and which
-/

namespace MessageExpr

/-! ## Tokens ahead -/

namespace Cursor

/-- The tokens from the current one on, the end included. -/
def ahead (c : Cursor) : List Token :=
  if c.atEnd then [c.token] else c.token :: tokensFrom c.escapes c.text c.index

/-- The tokens that are recorded, with those that will be when the cursor reads on to the end. -/
def whole (c : Cursor) : List Token := c.tokens.toList ++ c.next.ahead.dropLast

variable {c : Cursor}

theorem ahead_next (c : Cursor) : c.next.ahead = tokensFrom c.escapes c.text c.index := by
  rw [tokensFrom]
  split
  · rename_i inside
    have notEnd := (Token.length_pos_of_readAt c.escapes [] inside).2
    rw [ahead, if_neg (by rw [next, atEnd_eq rfl, notEnd]; decide)]
    rfl
  · rename_i outside
    have ended : Token.readAt c.escapes [] c.text c.index = Token.endOfLine c.index :=
      Token.readAt_of_length_le (Nat.le_of_not_lt outside)
    rw [ahead, if_pos (by rw [next, atEnd_eq rfl, ended]; rfl), next, token_eq rfl, ended]

theorem ahead_of_atEnd (h : c.atEnd = true) : c.ahead = [c.token] := if_pos h

theorem ahead_of_not_atEnd (h : ¬c.atEnd = true) : c.ahead = c.token :: c.next.ahead := by
  rw [ahead, if_neg h, ahead_next]

theorem exists_ahead_eq_cons (c : Cursor) : ∃ rest, c.ahead = c.token :: rest := by
  unfold ahead
  split <;> exact ⟨_, rfl⟩

theorem HasRead.next_of_atEnd (h : c.HasRead) (atEnd : c.atEnd = true) : c.next = c :=
  h.settled atEnd []

theorem HasRead.whole_of_atEnd (h : c.HasRead) (atEnd : c.atEnd = true) :
    c.whole = c.tokens.toList := by
  rw [whole, h.next_of_atEnd atEnd, ahead_of_atEnd atEnd]
  exact List.append_nil _

/-- A move records the token that was ahead. -/
theorem whole_next (c : Cursor) : c.next.whole = c.whole := by
  by_cases atEnd : c.next.atEnd = true
  · rw [c.hasRead_next.whole_of_atEnd atEnd, whole, ahead_of_atEnd atEnd,
      tokens_next_of_atEnd atEnd]
    exact (List.append_nil _).symm
  · have notEnd : c.next.token.isEnd = false := by
      simpa [atEnd_eq c.hasRead_next.current] using atEnd
    have recorded : c.next.tokens.toList = _ := tokens_nextOf c.hasRead_next.current
    obtain ⟨rest, ahead⟩ := c.next.next.exists_ahead_eq_cons
    rw [whole, recorded, notEnd, whole, ahead_of_not_atEnd atEnd, ahead, List.dropLast_cons_cons,
      List.append_assoc]
    rfl

private theorem whole_skipTo (c : Cursor) (depth : Nat) : (c.skipTo depth).whole = c.whole := by
  fun_induction Cursor.skipTo depth c with
  | case1 => rfl
  | case2 => rfl
  | case3 c _ _ _ _ ih => rw [ih, whole_next]
  | case4 _ c _ _ _ _ ih => rw [ih, whole_next]
  | case5 _ c _ _ _ _ ih => rw [ih, whole_next]

end Cursor

namespace Template

/-! ## The walk -/

variable {c : Cursor}

theorem firstGlued?_ahead_of_atEnd (h : c.atEnd = true) (depth : Nat) :
    firstGlued? depth c.ahead = none := by
  rw [Cursor.ahead_of_atEnd h]
  rfl

/-- Nothing inside a function is looked at. -/
theorem firstGlued?_skipTo (h : c.HasRead) (depth : Nat) :
    firstGlued? 1 (c.skipTo depth).ahead = firstGlued? (depth + 1) c.ahead := by
  fun_induction Cursor.skipTo depth c with
  | case1 depth c atEnd =>
    rw [firstGlued?_ahead_of_atEnd atEnd, firstGlued?_ahead_of_atEnd atEnd]
  | case2 => rfl
  | case3 c atEnd _ isEnd inner ih =>
    rw [ih c.hasRead_next, Cursor.ahead_of_not_atEnd atEnd, firstGlued?_cons (.inl (by simp)),
      depthAfter, h.accepts_iff.mp isEnd]
    rfl
  | case4 depth c atEnd _ notEnd isStart ih =>
    rw [ih c.hasRead_next, Cursor.ahead_of_not_atEnd atEnd,
      firstGlued?_cons (.inr (mt h.accepts_iff.mpr notEnd)), depthAfter, h.accepts_iff.mp isStart]
  | case5 depth c atEnd _ notEnd notStart ih =>
    have other : c.token.kind ≠ .functionEnd := mt h.accepts_iff.mpr notEnd
    have plain : c.token.kind ≠ .functionStart := mt h.accepts_iff.mpr notStart
    rw [ih c.hasRead_next, Cursor.ahead_of_not_atEnd atEnd, firstGlued?_cons (.inr other),
      depthAfter_text other plain]

/-- Where a function has been passed over, the text has ended or the function has. -/
theorem accepts_skipTo (h : c.HasRead) (depth : Nat) :
    (c.skipTo depth).atEnd = true ∨ (c.skipTo depth).token.kind = .functionEnd := by
  fun_induction Cursor.skipTo depth c with
  | case1 depth c atEnd => exact .inl atEnd
  | case2 c _ _ isEnd => exact .inr (h.accepts_iff.mp isEnd)
  | case3 c _ _ _ _ ih => exact ih c.hasRead_next
  | case4 _ c _ _ _ _ ih => exact ih c.hasRead_next
  | case5 _ c _ _ _ _ ih => exact ih c.hasRead_next

/-- After an operator there is white space, or the end. -/
theorem afterFunction_operator (h : c.HasRead) (notEnd : ¬c.atEnd = true)
    (isOperator : c.token.kind = .unaryOperator) :
    afterFunction c =
      if c.next.token.kind = .whitespace ∨ c.next.token.isEnd = true then .ok c.next
      else .error ⟨.expected .whitespace c.next.token, c.next.token.index⟩ := by
  have accepts : c.accepts .unaryOperator = true := h.accepts_iff.mpr isOperator
  have atEnd : c.next.atEnd = c.next.token.isEnd := Cursor.atEnd_eq rfl
  rw [afterFunction, if_neg (by simp [notEnd, accepts]), atEnd, c.hasRead_next.expect_eq]
  by_cases ended : c.next.token.isEnd = true
  · rw [if_pos ended, if_pos (.inr ended)]
  · rw [if_neg ended]
    by_cases isSpace : c.next.token.kind = .whitespace
    · rw [if_pos ⟨isSpace, by simpa using ended⟩, if_pos (.inl isSpace)]
      rfl
    · rw [if_neg (by simp [isSpace]), if_neg (by simp [isSpace, ended])]
      rfl

/-- What follows the end of a function is glued to an operator, or the walk goes on. -/
theorem afterFunction_eq {token : Token} (isEnd : token.kind = .functionEnd) (h : c.HasRead) :
    (∃ found, gluedHere? 1 token c.ahead = some found ∧
        afterFunction c = .error ⟨.expected .whitespace found, found.index⟩) ∨
      gluedHere? 1 token c.ahead = none ∧ ∃ e : Cursor, afterFunction c = .ok e ∧ e.HasRead ∧
        e.whole = c.whole ∧ firstGlued? 0 e.ahead = firstGlued? 0 c.ahead := by
  by_cases atEnd : c.atEnd = true
  · refine .inr ⟨?_, c, by simp [afterFunction, atEnd], h, rfl, rfl⟩
    rw [Cursor.ahead_of_atEnd atEnd]
    rfl
  · obtain ⟨rest, ahead⟩ := c.next.exists_ahead_eq_cons
    rw [Cursor.ahead_of_not_atEnd atEnd]
    by_cases isOperator : c.token.kind = .unaryOperator
    · rw [afterFunction_operator h atEnd isOperator, ahead]
      by_cases free : c.next.token.kind = .whitespace ∨ c.next.token.isEnd = true
      · rw [if_pos free]
        refine .inr ⟨if_neg ?_, c.next, rfl, c.hasRead_next, c.whole_next, ?_⟩
        · rintro ⟨-, -, -, notSpace, notEnd⟩
          exact free.elim notSpace (by simp [notEnd])
        · rw [← ahead, firstGlued?_cons (.inl (by decide)), depthAfter, isOperator]
      · obtain ⟨notSpace, notEnd⟩ := not_or.mp free
        rw [if_neg free]
        exact .inl ⟨_, if_pos ⟨rfl, isEnd, isOperator, notSpace, by simpa using notEnd⟩, rfl⟩
    · refine .inr ⟨?_, c, ?_, h, rfl, by rw [Cursor.ahead_of_not_atEnd atEnd]⟩
      · rw [ahead]
        exact if_neg fun found => isOperator found.2.2.1
      · simp [afterFunction, mt h.accepts_iff.mp isOperator]

/-- Passing over a function, and where this leads. -/
theorem skipFunction_eq {d : Cursor} (h : c.HasRead) (atEnd : ¬c.atEnd = true)
    (skipped : c.skipFunction? = some d) :
    d.HasRead ∧ (d.atEnd = true ∨ d.token.kind = .functionEnd) ∧ d.whole = c.whole ∧
      firstGlued? 1 d.ahead = firstGlued? 0 c.ahead := by
  obtain ⟨isStart, same⟩ := Option.ite_none_right_eq_some.mp skipped
  obtain rfl := Option.some.inj same
  refine ⟨c.hasRead_next.skipTo 0, accepts_skipTo c.hasRead_next 0, ?_, ?_⟩
  · rw [Cursor.whole_skipTo, Cursor.whole_next]
  · rw [firstGlued?_skipTo c.hasRead_next, Cursor.ahead_of_not_atEnd atEnd,
      firstGlued?_cons (.inl (by decide)), depthAfter, h.accepts_iff.mp isStart]

/-- After a function that has been passed over, something is glued to an operator, or the walk goes
on. -/
theorem afterFunction_next {d : Cursor} (h : d.HasRead)
    (stopped : d.atEnd = true ∨ d.token.kind = .functionEnd) :
    (∃ found, firstGlued? 1 d.ahead = some found ∧
        afterFunction d.next = .error ⟨.expected .whitespace found, found.index⟩) ∨
      ∃ e : Cursor, afterFunction d.next = .ok e ∧ e.HasRead ∧ e.whole = d.whole ∧
        firstGlued? 0 e.ahead = firstGlued? 1 d.ahead := by
  by_cases atEnd : d.atEnd = true
  · -- At the end of the text a move stays where it is, and nothing can be glued.
    rw [h.next_of_atEnd atEnd, firstGlued?_ahead_of_atEnd atEnd]
    exact .inr ⟨d, by simp [afterFunction, atEnd], h, rfl, firstGlued?_ahead_of_atEnd atEnd 0⟩
  · -- The function has ended, so the functions outside of others are none again.
    have isEnd := stopped.resolve_left atEnd
    have stays : depthAfter 1 d.token = 0 := by rw [depthAfter, isEnd]
    rw [Cursor.ahead_of_not_atEnd atEnd, firstGlued?, stays]
    rcases afterFunction_eq isEnd d.hasRead_next with
      ⟨found, here, failed⟩ | ⟨notHere, e, moved, read, whole, onward⟩
    · rw [here]
      exact .inl ⟨found, rfl, failed⟩
    · rw [notHere]
      exact .inr ⟨e, moved, read, whole.trans d.whole_next, onward⟩

/-- A walk stops where something is glued to an operator, and otherwise records every token. -/
theorem run_eq (h : c.HasRead) :
    match firstGlued? 0 c.ahead with
    | some found => run c = .error ⟨.expected .whitespace found, found.index⟩
    | none => ∃ d, run c = .ok d ∧ d.tokens.toList = c.whole := by
  -- Neither what will have been recorded at the end nor the first glued token changes on the way.
  fun_induction run c with
  | case1 c atEnd =>
    rw [firstGlued?_ahead_of_atEnd atEnd]
    exact ⟨c, rfl, (h.whole_of_atEnd atEnd).symm⟩
  | case2 c atEnd d skipped problem after =>
    obtain ⟨read, stopped, -, same⟩ := skipFunction_eq h atEnd skipped
    rw [← same]
    rcases afterFunction_next read stopped with ⟨found, first, failed⟩ | ⟨e, moved, -⟩
    · rw [first]
      exact after.symm.trans failed
    · cases after.symm.trans moved
  | case3 c atEnd d skipped e after _ ih =>
    obtain ⟨read, stopped, whole, same⟩ := skipFunction_eq h atEnd skipped
    rcases afterFunction_next read stopped with
      ⟨found, -, failed⟩ | ⟨e', moved, read', whole', onward⟩
    · cases after.symm.trans failed
    · obtain rfl : e = e' := Except.ok.inj (after.symm.trans moved)
      rw [← same, ← onward, ← whole, ← whole']
      exact ih read'
  | case4 c atEnd notSkipped _ ih =>
    have plain : c.token.kind ≠ .functionStart := by
      intro isStart
      simp [Cursor.skipFunction?, h.accepts_iff.mpr isStart] at notSkipped
    have stays : depthAfter 0 c.token = 0 := by
      unfold depthAfter
      split
      · exact absurd ‹_› plain
      · rfl
      · rfl
    rw [Cursor.ahead_of_not_atEnd atEnd, firstGlued?_cons (.inl (by decide)), stays,
      ← Cursor.whole_next]
    exact ih c.hasRead_next

/-- The tokens of a template are those of its text without the end, unless one of them is glued to
an operator. -/
theorem tokens_eq (escapes : Bool) (text : String) :
    tokens escapes text =
      match firstGlued? 0 (tokenize escapes text) with
      | some found => .error ⟨.expected .whitespace found, found.index⟩
      | none => .ok (tokenize escapes text).dropLast := by
  have ahead : (Cursor.start escapes text).next.ahead = tokenize escapes text :=
    Cursor.ahead_next _
  have whole : (Cursor.start escapes text).next.whole = (tokenize escapes text).dropLast := by
    rw [Cursor.whole_next, Cursor.whole, ahead]
    rfl
  have walked := run_eq (Cursor.start escapes text).hasRead_next
  rw [ahead, whole] at walked
  split at walked
  · rw [tokens, walked]
    rfl
  · obtain ⟨d, walked, recorded⟩ := walked
    rw [tokens, walked]
    exact congrArg Except.ok recorded

end Template

end MessageExpr
