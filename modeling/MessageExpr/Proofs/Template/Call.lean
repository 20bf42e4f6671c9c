import MessageExpr.Proofs.Condition.Facing
import MessageExpr.Proofs.Template.Errors
import MessageExpr.Proofs.Token.Inner

/-!
# A single function as a template

A text that may stand inside a function as it is comes back from the tokens of the function as one
literal, whatever was read in it.

## Main results

* `Template.parse_call` — a single function is read as a block with its text
-/

namespace MessageExpr

/-- The text of a function with a text inside. -/
def callText (t : List Char) : String := String.ofList ('$' :: '\x7b' :: (t ++ ['\x7d']))

namespace Condition

/-- The literal of some tokens has their texts, and is no function. -/
theorem texts_ofTexts (tokens : List Token) :
    Node.hasFunctions (ofTexts tokens) = false ∧
      Node.literalTexts (ofTexts tokens) = String.join (tokens.map Token.text) := by
  cases tokens with
  | nil => exact ⟨rfl, rfl⟩
  | cons first rest => exact ⟨rfl, by simp [ofTexts, Node.literalTexts, Node.literalText]⟩

end Condition

namespace Template

open Condition (Inside ofTexts)

/-- Inside a function nothing is glued to an operator. -/
theorem firstGlued?_append_of_isInner {tokens : List Token}
    (inner : ∀ token ∈ tokens, token.kind.IsInner) (depth : Nat) (rest : List Token) :
    firstGlued? depth (tokens ++ rest) = firstGlued? depth rest := by
  induction tokens with
  | nil => rfl
  | cons token tokens ih =>
    obtain ⟨⟨notEnd, notStart, -⟩, inner⟩ := List.forall_mem_cons.mp inner
    rw [List.cons_append, firstGlued?_cons (.inr notEnd), depthAfter_text notEnd notStart, ih inner]

/-- A function with nothing but text inside is read as a block that holds the text. -/
theorem parse_call {t : List Char} (inner : IsInner t) (escapes : Bool) :
    ∃ start tokens, parse escapes (callText t) =
        .ok [.block .function .function start (ofTexts tokens)] ∧
      String.join (tokens.map Token.text) = String.ofList t := by
  obtain ⟨start, tokens, close, place, same, isStart, isEnd, inner, joined⟩ :=
    inner.exists_tokenize escapes
  have apart : firstGlued? 0 (tokenize escapes (callText t)) = none := by
    have opened : depthAfter 0 start = 1 := by rw [depthAfter, isStart]
    rw [callText, same, List.cons_append, firstGlued?_cons (.inl (by decide)), opened,
      firstGlued?_append_of_isInner inner]
    -- The end of the text follows the end of the function.
    rfl
  have inside : Inside .functionEnd tokens (ofTexts tokens) := by
    have texts := Inside.texts (fun token mem => ⟨(inner token mem).1, (inner token mem).2.1⟩)
      Inside.nil (by simp)
    rwa [List.append_nil, List.append_nil] at texts
  have row : Row false (tokenize escapes (callText t)).dropLast
      [.block .function .function start (ofTexts tokens)] := by
    have last : start :: tokens ++ [close, Token.endOfLine place] =
        start :: tokens ++ [close] ++ [Token.endOfLine place] := by simp
    rw [callText, same, last, List.dropLast_concat]
    exact .function isStart isEnd inside .nil
  obtain ⟨nodes, linked, parsed⟩ := exists_parse_of_row apart row
  obtain rfl : [Node.block .function .function start (ofTexts tokens)] = nodes :=
    Except.ok.inj linked
  exact ⟨start, tokens, parsed, joined⟩

end Template

end MessageExpr
