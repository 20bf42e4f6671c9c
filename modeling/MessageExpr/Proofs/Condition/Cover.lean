import MessageExpr.Proofs.Condition.Walk
import MessageExpr.Proofs.Token.Cover

/-!
# The tokens of a condition cover its text

A cursor records what it passes, and nothing but reading on moves it. So whatever way the grammar
takes, the recorded tokens stand one after the other, and at the end they cover the text.

## Main results

* `Cursor.covers_of_before` — what is recorded stands before what is still to be read
* `Cursor.index_le_of_before` — a cursor never goes past the end of its text
* `Condition.covers_of_tokens` — the tokens of a condition cover its text
-/

namespace MessageExpr

namespace Cursor

variable {escapes : Bool} {text : String} {c : Cursor}

/-- At the end of the text a move neither records anything nor goes on. -/
theorem nextOf_of_length_le (outside : c.text.length ≤ c.index) (filter : List TokenKind) :
    c.nextOf filter = { c with
      current := some (Token.endOfLine c.index), previousIndex := c.index } := by
  rw [nextOf, Token.readAt_of_length_le outside]
  rfl

/-- What is recorded stands one after the other before some of the characters that are still to be
read. -/
theorem covers_take_of_before (h : Before (start escapes text) c) {k : Nat} {more : List Token}
    (rest : Covers escapes c.index ((text.toList.drop c.index).take k) more) :
    Covers escapes 0 (text.toList.take (c.index + k)) (c.tokens.toList ++ more) := by
  induction h generalizing k more with
  | refl =>
    rw [show (start escapes text).index = 0 from rfl, Nat.zero_add]
    exact rest
  | @nextOf d before filter ih =>
    have text' : d.text = text.toList := before.text_eq
    have escapes' : d.escapes = escapes := before.escapes_eq
    rcases Nat.lt_or_ge d.index d.text.length with inside | outside
    · have notEnd := (Token.length_pos_of_readAt d.escapes filter inside).2
      have index := (Token.stands_readAt d.escapes filter inside).1
      have stands := Token.stands_readAt_take d.escapes filter inside k
      have tokens : (d.nextOf filter).tokens.toList ++ more =
          d.tokens.toList ++ Token.readAt d.escapes filter d.text d.index :: more := by
        simp [nextOf, notEnd]
      rw [tokens, nextOf, Nat.add_assoc]
      apply ih
      rw [text', escapes'] at stands index
      rw [text', escapes']
      refine .cons index stands ?_
      rw [nextOf, text', escapes'] at rest
      exact rest
    · -- At the end nothing is recorded, and there is nothing to be read from there on.
      rw [nextOf_of_length_le outside] at rest ⊢
      exact ih rest

/-- What is recorded stands one after the other before what is still to be read. -/
theorem covers_of_before (h : Before (start escapes text) c) {more : List Token}
    (rest : Covers escapes c.index (text.toList.drop c.index) more) :
    Covers escapes 0 text.toList (c.tokens.toList ++ more) := by
  rw [← List.take_of_length_le (Nat.le_refl (text.toList.drop c.index).length)] at rest
  have covers := covers_take_of_before h rest
  rwa [List.take_of_length_le (by rw [List.length_drop]; omega)] at covers

/-- A cursor never goes past the end of its text. -/
theorem index_le_of_before (h : Before (start escapes text) c) :
    c.index ≤ text.toList.length := by
  induction h with
  | refl => exact Nat.zero_le _
  | @nextOf d before filter ih =>
    have text' : d.text = text.toList := before.text_eq
    rcases Nat.lt_or_ge d.index d.text.length with inside | outside
    · have fits := (Token.stands_readAt d.escapes filter inside).2.length_le
      rw [List.length_drop] at fits
      rw [nextOf, ← text']
      show d.index + _ ≤ _
      omega
    · rw [nextOf_of_length_le outside]
      exact ih

/-- A cursor that has read the end has nothing left to read. -/
theorem drop_of_atEnd (h : Before (start escapes text) c) (atEnd : c.atEnd = true) :
    text.toList.drop c.index = [] := by
  cases h with
  | refl => cases atEnd
  | @nextOf d before filter =>
    have text' : d.text = text.toList := before.text_eq
    apply List.drop_of_length_le
    rw [← text']
    rcases Nat.lt_or_ge d.index d.text.length with inside | outside
    · rw [atEnd_eq rfl, (Token.length_pos_of_readAt d.escapes filter inside).2] at atEnd
      cases atEnd
    · exact Nat.le_trans outside (d.before_nextOf filter).index_le

/-- What is recorded was read. -/
theorem isRead_of_before (h : Before (start escapes text) c) :
    ∀ token ∈ c.tokens.toList, token.IsRead := by
  induction h with
  | refl => simp [start]
  | @nextOf d _ filter ih =>
    intro t mem
    rw [tokens_nextOf rfl] at mem
    rcases List.mem_append.mp mem with old | new
    · exact ih t old
    · split at new
      · cases new
      · rename_i notEnd
        rw [List.mem_singleton.mp new]
        exact isRead_nextOf rfl (by simpa using notEnd)

end Cursor

namespace Condition

/-- The tokens of a condition cover its text. -/
theorem covers_of_tokens {escapes : Bool} {text : String} {found : List Token}
    (h : tokens escapes text = .ok found) :
    Covers escapes 0 text.toList found ∧ ∀ token ∈ found, token.IsRead := by
  rw [tokens] at h
  obtain ⟨d, walked, made⟩ := bind_eq_ok.mp h
  obtain rfl := pure_eq_ok.mp made
  obtain ⟨onward, atEnd⟩ := before_of_run walked
  have reached := (Cursor.start escapes text).before_next.trans onward
  refine ⟨?_, Cursor.isRead_of_before reached⟩
  have rest : Covers escapes d.index (text.toList.drop d.index) [] := by
    rw [Cursor.drop_of_atEnd reached atEnd]
    exact .nil
  simpa using Cursor.covers_of_before reached rest

end Condition

end MessageExpr
