import MessageExpr.Proofs.Template.Errors

/-!
# Escaped text as a template

Escaped text has neither functions nor operators after them, so that as a template it is read as a
single literal of the text, or as nothing at all when the text is empty.

## Main results

* `tokensFrom_escaped` — the tokens of escaped text are text
* `Template.parse_escaped` — escaped text is read as the literal of the text
-/

namespace MessageExpr

/-- The tokens of escaped text are text, and together they are what was escaped. -/
theorem tokensFrom_escaped (front s : List Char) :
    ∃ tokens place, tokensFrom true (front ++ escaped s) front.length =
        tokens ++ [Token.endOfLine place] ∧
      (∀ t ∈ tokens, t.kind.isText = true) ∧
      String.join (tokens.map Token.text) = String.ofList s ∧ (tokens = [] ↔ s = []) := by
  induction length : s.length using Nat.strongRecOn generalizing s front with
  | ind n ih =>
    subst length
    by_cases empty : s = []
    · subst empty
      refine ⟨[], front.length, ?_, by simp, rfl, by simp⟩
      rw [tokensFrom, dif_neg (by simp [escaped])]
      rfl
    -- One token takes a part of the text that is not empty, and the rest is left to the induction.
    obtain ⟨word, back, kind, rfl, nonempty, read, isText⟩ :=
      exists_read_escaped [] (if front.length = 0 then none else
        (front ++ escaped s)[front.length - 1]?) front.length empty [] (by simp)
    have shorter : back.length < (word ++ back).length := by
      have := List.length_pos_iff.mpr nonempty
      simpa using this
    obtain ⟨tokens, place, same, text, joined, -⟩ := ih _ shorter (front ++ escaped word) back rfl
    have read : Token.readAt true [] (front ++ escaped (word ++ back)) front.length =
        ⟨kind, String.ofList word, front.length, (escaped word).length⟩ := by
      rw [Token.readAt, List.drop_left, ← List.append_nil (escaped (word ++ back))]
      simpa using read
    have inside : front.length < (front ++ escaped (word ++ back)).length := by
      refine Nat.lt_of_not_le fun outside => ?_
      have ended := congrArg Token.kind (read.symm.trans (Token.readAt_of_length_le outside))
      obtain rfl : kind = .endOfLine := ended
      cases isText
    refine ⟨⟨kind, String.ofList word, front.length, (escaped word).length⟩ :: tokens, place, ?_,
      by simpa [isText] using text, ?_, by simp [nonempty]⟩
    · rw [tokensFrom, dif_pos inside]
      simp only [read, List.cons_append, List.cons.injEq, true_and]
      rw [escaped_append, ← List.append_assoc, ← List.length_append]
      exact same
    · rw [List.map_cons, String.join_cons, joined, ← String.ofList_append]

namespace Template

open Condition (ofTexts joinText_ofTexts)

/-- Where no token closes a function nothing is glued to an operator after one. -/
theorem not_gluedAt_texts {tokens : List Token} (text : ∀ t ∈ tokens, t.kind.isText = true)
    (end_ place : Nat) (found : Token) :
    ¬GluedAt [] (tokens ++ [Token.endOfLine end_]) place found := by
  intro glued
  obtain ⟨closing, mem, isEnd⟩ := Option.map_eq_some_iff.mp glued.closes
  rcases List.mem_append.mp (List.mem_of_getElem? mem) with mem | mem
  · have isText := text closing mem
    rw [isEnd] at isText
    cases isText
  · rw [List.mem_singleton.mp mem] at isEnd
    cases isEnd

/-- The nodes of tokens that are text are their literal. -/
theorem Row.eq_ofTexts {tokens : List Token} {nodes : List Node} (row : Row false tokens nodes)
    (text : ∀ t ∈ tokens, t.kind.isText = true) : nodes = ofTexts tokens := by
  generalize isFalse : false = closed at row
  induction row with
  | nil => rfl
  | @text _ token tokens _ _ _ ih =>
    rw [ih (List.forall_mem_cons.mp text).2 rfl]
    simpa using @joinText_ofTexts token tokens [] (by simp)
  | unary => cases isFalse
  | @function _ start _ _ _ _ _ isStart =>
    have isText := text start (by simp)
    rw [isStart] at isText
    cases isText

/-- Escaped text is read as the literal of the text. -/
theorem parse_escaped (s : List Char) :
    ∃ token, parse true (String.ofList (escaped s)) =
      .ok (if s = [] then [] else [.literal token (String.ofList s)]) := by
  obtain ⟨tokens, place, same, text, joined, empty⟩ := tokensFrom_escaped [] s
  have all : tokenize true (String.ofList (escaped s)) = tokens ++ [Token.endOfLine place] := by
    rw [tokenize, String.toList_ofList]
    exact same
  have apart : firstGlued? 0 (tokenize true (String.ofList (escaped s))) = none := by
    rw [all]
    exact (@firstGlued?_eq_none_iff [] _).mpr (not_gluedAt_texts text place)
  have closed : openAfter [] (tokenize true (String.ofList (escaped s))) = [] := by
    rw [← openAfter_dropLast, all, List.dropLast_concat]
    exact openAfter_texts text []
  obtain ⟨flat, nodes, row, linked, parsed⟩ := exists_row_of_apart apart closed
  rw [all, List.dropLast_concat] at row
  obtain rfl := row.eq_ofTexts text
  cases tokens with
  | nil =>
    obtain rfl : [] = nodes := Except.ok.inj linked
    exact ⟨Token.endOfLine 0, by rw [parsed, if_pos (empty.mp rfl)]⟩
  | cons first rest =>
    have nonempty : s ≠ [] := fun none => absurd (empty.mpr none) (by simp)
    obtain rfl : [Node.literal first _] = nodes := Except.ok.inj linked
    exact ⟨first, by rw [parsed, if_neg nonempty, joined]⟩

end Template

end MessageExpr
