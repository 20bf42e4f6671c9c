import MessageExpr.Proofs.Template.Walk

/-!
# The end that matches a function start

A function is passed over by a loop that counts the functions inside it. It stops at the first
function end where as many functions have ended as have started, or at the end of the text, and it
has recorded what it went over. That the loop may as well call itself for each function inside is
`Condition.functionText_eq`.

## Main definitions

* `Closes` — a function end that leaves no function open
* `MatchesAt` — where the functions in a row of tokens are closed for the first time
* `Cursor.past` — a cursor after reading several tokens

## Main results

* `Cursor.exists_past_skipTo` — where the loop stops, at every depth
* `Cursor.skipFunction_matches` — where the cursor stands after a function
-/

namespace MessageExpr

/-! ## Matching ends -/

/-- With the functions that are open before them, the tokens start as many as they end. -/
def Balanced (opened : Nat) (tokens : List Token) : Prop :=
  opened + tokens.countP (·.kind == .functionStart) = tokens.countP (·.kind == .functionEnd)

instance (opened : Nat) (tokens : List Token) : Decidable (Balanced opened tokens) :=
  inferInstanceAs (Decidable (_ = _))

/-- The token after others ends a function and leaves none open. -/
def Closes (opened : Nat) (inside : List Token) (token : Token) : Prop :=
  token.kind = .functionEnd ∧ Balanced opened (inside ++ [token])

instance (opened : Nat) (inside : List Token) (token : Token) :
    Decidable (Closes opened inside token) :=
  inferInstanceAs (Decidable (_ ∧ _))

/-- Of some tokens, the one after `inside` is the first that leaves no function open, or it is the
end of the text when none does. -/
structure MatchesAt (opened : Nat) (tokens inside : List Token) (last : Token)
    (after : List Token) : Prop where
  split : tokens = inside ++ last :: after
  stops : Closes opened inside last ∨ last.isEnd = true ∧ after = []
  first : ∀ earlier token later, inside = earlier ++ token :: later → ¬Closes opened earlier token

section matching

variable {opened : Nat} {token last : Token} {inside tokens after : List Token}

theorem closes_nil (isEnd : token.kind = .functionEnd) : Closes opened [] token ↔ opened = 1 := by
  simp [Closes, Balanced, isEnd]

/-- A token that leaves a function open can be counted first. -/
theorem balanced_cons (h : token.kind = .functionEnd → 1 < opened) :
    Balanced opened (token :: tokens) ↔ Balanced (Template.depthAfter opened token) tokens := by
  unfold Balanced
  rw [List.countP_cons, List.countP_cons]
  by_cases isStart : token.kind = .functionStart
  · have deeper : Template.depthAfter opened token = opened + 1 := by
      rw [Template.depthAfter, isStart]
    simp [deeper, isStart]
    omega
  by_cases isEnd : token.kind = .functionEnd
  · have shallower : Template.depthAfter opened token = opened - 1 := by
      rw [Template.depthAfter, isEnd]
    have := h isEnd
    simp [shallower, isEnd]
    omega
  · simp [Template.depthAfter_text isEnd isStart, isStart, isEnd]

theorem closes_cons (h : token.kind = .functionEnd → 1 < opened) :
    Closes opened (token :: inside) last ↔
      Closes (Template.depthAfter opened token) inside last :=
  and_congr_right fun _ => balanced_cons h

theorem depthAfter_succ {depth : Nat} (h : token.kind = .functionEnd → 0 < depth) :
    Template.depthAfter (depth + 1) token = Template.depthAfter depth token + 1 := by
  unfold Template.depthAfter
  split
  · rfl
  · have := h ‹_›
    omega
  · rfl

/-- A scan that stops at once. -/
theorem MatchesAt.here (stops : Closes opened [] last ∨ last.isEnd = true ∧ after = []) :
    MatchesAt opened (last :: after) [] last after where
  split := rfl
  stops := stops
  first earlier token later same := by simp at same

/-- A scan that goes on after a token that leaves a function open. -/
theorem MatchesAt.cons (h : token.kind = .functionEnd → 1 < opened)
    (more : MatchesAt (Template.depthAfter opened token) tokens inside last after) :
    MatchesAt opened (token :: tokens) (token :: inside) last after where
  split := by rw [more.split, List.cons_append]
  stops := more.stops.imp_left (closes_cons h).mpr
  first earlier found later same closes := by
    cases earlier with
    | nil =>
      -- Only one open function would be closed by the first token.
      obtain ⟨rfl, -⟩ := List.cons.inj same
      have outermost := (closes_nil closes.1).mp closes
      exact absurd (h closes.1) (by omega)
    | cons other earlier =>
      obtain ⟨rfl, rest⟩ := List.cons.inj same
      exact more.first earlier found later rest ((closes_cons h).mp closes)

end matching

/-! ## Cursors -/

namespace Cursor

variable {c : Cursor} {depth : Nat}

/-- The cursor after reading some tokens and a last one, which is not recorded if it is the end. -/
def past (c : Cursor) (inside : List Token) (last : Token) : Cursor :=
  { c with
    tokens := c.tokens ++ (if last.isEnd then inside else inside ++ [last])
    current := some last
    previousIndex := last.index
    index := last.index + last.length }

theorem index_token_next (c : Cursor) : c.next.token.index = c.index :=
  Token.index_read _ _ _ _ _

theorem next_eq_past (c : Cursor) : c.next = c.past [] c.next.token := by
  have index := c.index_token_next
  rw [past, index]
  simp only [next, nextOf, token, Option.getD_some]
  split <;> rename_i isEnd <;> simp [isEnd]

/-- Reading on after a token that is recorded. -/
theorem past_next (notEnd : c.next.token.isEnd = false) (inside : List Token) (last : Token) :
    c.next.past inside last = c.past (c.next.token :: inside) last := by
  have recorded : c.next.tokens = c.tokens.push c.next.token :=
    if_neg (Bool.eq_false_iff.mp notEnd)
  have same : c.next.text = c.text ∧ c.next.escapes = c.escapes := ⟨rfl, rfl⟩
  rw [past, past, recorded]
  split <;> simp [same]

/-- One step of the loop: it stays where the function ends and otherwise counts the token. -/
theorem skipTo_eq (h : c.HasRead) (depth : Nat) :
    c.skipTo depth =
      if c.atEnd = true ∨ depth = 0 ∧ c.token.kind = .functionEnd then c
      else c.next.skipTo (Template.depthAfter depth c.token) := by
  by_cases atEnd : c.atEnd = true
  · rw [skipTo_of_atEnd atEnd, if_pos (.inl atEnd)]
  by_cases isEnd : c.token.kind = .functionEnd
  · rw [skipTo_of_end atEnd (h.accepts_iff.mpr isEnd), Template.depthAfter, isEnd]
    cases depth with
    | zero => rw [if_pos (.inr ⟨rfl, rfl⟩)]
    | succ inner => rw [if_neg (by simp [atEnd])]; rfl
  rw [if_neg (by simp [atEnd, isEnd])]
  have other : ¬c.accepts .functionEnd = true := mt h.accepts_iff.mp isEnd
  by_cases isStart : c.token.kind = .functionStart
  · rw [skipTo_of_start atEnd other (h.accepts_iff.mpr isStart), Template.depthAfter, isStart]
  · rw [skipTo_of_text atEnd other (mt h.accepts_iff.mp isStart),
      Template.depthAfter_text isEnd isStart]

/-- The loop stops at the token that closes the functions that are open. -/
theorem exists_past_skipTo (c : Cursor) (depth : Nat) :
    ∃ inside last after, c.next.skipTo depth = c.past inside last ∧
      MatchesAt (depth + 1) (tokensFrom c.escapes c.text c.index) inside last after := by
  rw [← ahead_next]
  -- The tokens ahead are used up one by one.
  generalize same : c.next.ahead = tokens
  induction tokens generalizing c depth with
  | nil =>
    obtain ⟨rest, ahead⟩ := c.next.exists_ahead_eq_cons
    rw [ahead] at same
    cases same
  | cons token rest ih =>
    obtain ⟨more, ahead⟩ := c.next.exists_ahead_eq_cons
    obtain ⟨rfl, rfl⟩ := List.cons.inj (ahead.symm.trans same)
    rw [skipTo_eq c.hasRead_next]
    split
    case isTrue stops =>
      refine ⟨[], c.next.token, more, c.next_eq_past, .here ?_⟩
      rcases stops with atEnd | ⟨rfl, isEnd⟩
      · rw [ahead_of_atEnd atEnd] at ahead
        have isEnd := (atEnd_eq c.hasRead_next.current).symm.trans atEnd
        exact .inr ⟨isEnd, (List.cons.inj ahead).2.symm⟩
      · exact .inl ((closes_nil isEnd).mpr rfl)
    case isFalse goesOn =>
      obtain ⟨notEnd, deep⟩ := not_or.mp goesOn
      rw [ahead_of_not_atEnd notEnd] at ahead
      obtain ⟨inside, last, after, moved, found⟩ := ih c.next _ (List.cons.inj ahead).2
      have inner : c.next.token.kind = .functionEnd → 0 < depth :=
        fun isEnd => Nat.pos_of_ne_zero fun zero => deep ⟨zero, isEnd⟩
      refine ⟨c.next.token :: inside, last, after, ?_, .cons ?_ ?_⟩
      · rw [moved, past_next (by simpa [atEnd_eq c.hasRead_next.current] using notEnd)]
      · exact fun isEnd => Nat.succ_lt_succ (inner isEnd)
      · rw [depthAfter_succ inner]
        exact found

/-- From a function start on, the function is passed over up to the first function end where the
starts and the ends balance, or to the end of the text where they never do. What lies between is
recorded, and nothing else. -/
theorem skipFunction_matches {c : Cursor} {start : Token} (current : c.current = some start)
    (isStart : start.kind = .functionStart) :
    ∃ inside last after, c.skipFunction? = some (c.past inside last) ∧
      MatchesAt 0 (start :: tokensFrom c.escapes c.text c.index) (start :: inside) last after := by
  have accepts : c.accepts .functionStart = true := by simp [accepts_eq current, isStart]
  have opened : Template.depthAfter 0 start = 1 := by rw [Template.depthAfter, isStart]
  have notEnd : start.kind = .functionEnd → 1 < 0 := by simp [isStart]
  obtain ⟨inside, last, after, moved, found⟩ := c.exists_past_skipTo 0
  refine ⟨inside, last, after, ?_, .cons notEnd ?_⟩
  · rw [skipFunction?, if_pos accepts, moved]
  · rw [opened]
    exact found

/-- A function inside is passed over with the one around it. -/
theorem skipFunction_matches_nested :
    (start true "$\x7ba$\x7bb\x7dc\x7dd").next.current = some ⟨.functionStart, "$\x7b", 0, 2⟩ ∧
      ∃ inside last after,
        (start true "$\x7ba$\x7bb\x7dc\x7dd").next.skipFunction? =
          some ((start true "$\x7ba$\x7bb\x7dc\x7dd").next.past inside last) ∧
        MatchesAt 0
          (⟨.functionStart, "$\x7b", 0, 2⟩ :: tokensFrom true "$\x7ba$\x7bb\x7dc\x7dd".toList 2)
          (⟨.functionStart, "$\x7b", 0, 2⟩ :: inside) last after ∧
        last = ⟨.functionEnd, "\x7d", 8, 1⟩ := by
  have current : (start true "$\x7ba$\x7bb\x7dc\x7dd").next.current =
      some ⟨.functionStart, "$\x7b", 0, 2⟩ := by decide +kernel
  obtain ⟨inside, last, after, skipped, found⟩ := skipFunction_matches current rfl
  refine ⟨current, inside, last, after, skipped, found, ?_⟩
  have stopped : (start true "$\x7ba$\x7bb\x7dc\x7dd").next.skipFunction?.bind Cursor.current =
      some ⟨.functionEnd, "\x7d", 8, 1⟩ := by decide +kernel
  rw [skipped] at stopped
  exact Option.some.inj stopped

/-- Where the function around it does not end, the end of the text is reached. -/
example : ((start true "$\x7ba$\x7bb\x7dc").next.skipFunction?.map (·.atEnd)) = some true := by
  decide +kernel

end Cursor

end MessageExpr
