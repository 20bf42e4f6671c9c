import MessageExpr.Proofs.Condition.Cover
import MessageExpr.Proofs.Node.Traced

/-!
# What a cursor has recorded

A cursor that has read a token has recorded it, unless the text has ended. So a check fails at a
recorded token, or it says that the text has ended and is right. Reading on, a cursor does not
forget what it has recorded.

## Main definitions

* `Problem.Placed` — a problem at a recorded token, or at the end of the text if it says so
* `ReadFrom` — a text with the tokens that were recorded when it was read or refused

## Main results

* `ReadFrom.of_tokens` — reading a text in two steps
* `Cursor.Before.mem_tokens` — what is recorded stays recorded
* `Cursor.index_lt_of_before` — recorded tokens start inside the text
* `Cursor.HasRead.placed_of_expect` — where a check fails
-/

namespace MessageExpr

/-- Whether a problem is at one of some tokens or, if it is that the text has ended, at the end of
the text. -/
def Problem.Placed (tokens : List Token) (length : Nat) (p : Problem) : Prop :=
  p.fault.reachesEnd = true ∧ p.index = length ∨ p.IsAt (· ∈ tokens)

/-- A text that was read or refused, with the tokens that were recorded until then. -/
structure ReadFrom (recorded : List Token) (text : String) (parsed : Except Problem (List Node)) :
    Prop where
  inside : ∀ token ∈ recorded, token.index < text.length
  placed : ∀ p, parsed = .error p → p.Placed recorded text.length
  made : ∀ nodes, parsed = .ok nodes → ∀ n ∈ nodes, n.MadeFrom (· ∈ recorded)

/-- A text is read in two steps: first its tokens, and then what they become. -/
theorem ReadFrom.of_tokens {recorded : List Token} {text : String}
    {tokens : Except Problem (List Token)} {read : List Token → Except Problem (List Node)}
    (inside : ∀ token ∈ recorded, token.index < text.length)
    (refused : ∀ p, tokens = .error p → p.Placed recorded text.length)
    (all : ∀ found, tokens = .ok found → recorded = found)
    (traced : ∀ found, Traced (· ∈ found) (fun nodes => ∀ n ∈ nodes, n.MadeFrom (· ∈ found))
      (read found)) :
    ReadFrom recorded text (tokens >>= read) where
  inside := inside
  placed p h := by
    rcases bind_eq_error.mp h with failed | ⟨found, walked, failed⟩
    · exact refused p failed
    · rw [all found walked]
      exact .inr ((traced found).of_error failed)
  made nodes h := by
    obtain ⟨found, walked, linked⟩ := bind_eq_ok.mp h
    rw [all found walked]
    exact (traced found).of_ok linked

namespace Cursor

variable {c d : Cursor}

/-- What is recorded stays recorded. -/
theorem Before.mem_tokens (h : Before c d) :
    ∀ token ∈ c.tokens.toList, token ∈ d.tokens.toList := by
  induction h with
  | refl => exact fun _ mem => mem
  | nextOf _ filter ih =>
    intro token mem
    rw [tokens_nextOf rfl]
    exact List.mem_append_left _ (ih token mem)

theorem HasRead.previousIndex (h : c.HasRead) : c.previousIndex = c.token.index := by
  obtain ⟨b, rfl⟩ := h
  exact (Token.index_read _ _ _ _ _).symm

/-- A check fails at the token that was read. -/
theorem HasRead.expect_eq (h : c.HasRead) (kind : TokenKind) :
    c.expect kind =
      if c.token.kind = kind ∧ c.token.isEnd = false then .ok ()
      else .error ⟨.expected kind c.token, c.token.index⟩ := by
  simp only [expect, h.current, h.previousIndex, Bool.and_eq_true, beq_iff_eq, Bool.not_eq_true']

theorem HasRead.atEnd_eq (h : c.HasRead) : c.atEnd = c.token.isEnd := Cursor.atEnd_eq h.current

/-- The token that was read is recorded. -/
theorem HasRead.mem_tokens (h : c.HasRead) (notEnd : c.atEnd = false) :
    c.token ∈ c.tokens.toList := by
  rw [h.atEnd_eq] at notEnd
  obtain ⟨b, rfl⟩ := h
  rw [next, tokens_nextOf rfl]
  refine List.mem_append_right _ ?_
  change (Token.readAt b.escapes [] b.text b.index).isEnd = false at notEnd
  rw [if_neg (by simp [notEnd])]
  exact List.mem_singleton_self _

variable {escapes : Bool} {text : String}

/-- Recorded tokens start inside the text. -/
theorem index_lt_of_before (h : Before (start escapes text) c) :
    ∀ token ∈ c.tokens.toList, token.index < text.length := by
  induction h with
  | refl => exact nofun
  | @nextOf d before filter ih =>
    intro token mem
    rw [tokens_nextOf rfl] at mem
    rcases List.mem_append.mp mem with old | new
    · exact ih token old
    · have text' : d.text = text.toList := before.text_eq
      rcases Nat.lt_or_ge d.index d.text.length with inside | outside
      · split at new
        · cases new
        · obtain rfl := List.mem_singleton.mp new
          rw [(Token.stands_readAt d.escapes filter inside).1, ← String.length_toList, ← text']
          exact inside
      · rw [Token.readAt_of_length_le outside] at new
        cases new

/-- A cursor that has read the end of the text is there. -/
theorem HasRead.index_of_atEnd (h : c.HasRead) (reached : Before (start escapes text) c)
    (atEnd : c.atEnd = true) : c.token.index = text.length := by
  obtain ⟨b, rfl⟩ := h
  have text' : b.text = text.toList := reached.text_eq
  have inside := index_le_of_before reached
  rcases Nat.lt_or_ge b.index b.text.length with before | outside
  · rw [next, Cursor.atEnd_eq rfl, (Token.length_pos_of_readAt b.escapes [] before).2] at atEnd
    cases atEnd
  · rw [next, nextOf_of_length_le outside] at inside ⊢
    rw [text', String.length_toList] at outside
    rw [String.length_toList] at inside
    exact Nat.le_antisymm inside outside

/-- A check fails at a recorded token, or at the end of the text and says so. -/
theorem HasRead.placed_of_expect (h : c.HasRead) (reached : Before (start escapes text) c)
    {kind : TokenKind} {p : Problem} (failed : c.expect kind = .error p) :
    p.Placed c.tokens.toList text.length := by
  rw [h.expect_eq] at failed
  split at failed
  · cases failed
  · obtain rfl := Except.error.inj failed
    cases atEnd : c.atEnd with
    | true => exact .inl ⟨h.atEnd_eq.symm.trans atEnd, h.index_of_atEnd reached atEnd⟩
    | false => exact .inr ⟨h.atEnd_eq.symm.trans atEnd, c.token, h.mem_tokens atEnd, rfl⟩

end Cursor

end MessageExpr
