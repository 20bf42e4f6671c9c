import MessageExpr.Proofs.Condition.Cover
import MessageExpr.Proofs.Condition.Meant
import MessageExpr.Proofs.Condition.Stages
import MessageExpr.Proofs.Condition.WellFormed
import MessageExpr.Proofs.Node.InOrder

/-!
# Nothing of a condition is lost

The nodes of a condition, in the order in which they were written, give back the tokens of its
text without the white space outside of blocks: no token is lost, repeated or moved on the way
through pruning, gathering literals, nesting blocks and linking operators.

## Main definitions

* `onlyText?` — the text of the tokens of a kind that is spelled in one way only

## Main results

* `Row.inOrderAll_eq` — before linking, nodes have the text of the tokens that have a meaning
* `inOrderAll_of_parse` — so have the nodes of a condition
-/

namespace MessageExpr.Condition

/-! ## Texts of blocks and values -/

/-- The text of the tokens of a kind that is spelled in one way only. -/
def onlyText? : TokenKind → Option String
  | .functionEnd => some "\x7d"
  | .singleQuote => some "'"
  | .doubleQuote => some "\""
  | .minus => some "-"
  | _ => none

private theorem onlyText?_of_mem_spellings : ∀ s ∈ spellings,
    ∀ text ∈ onlyText? s.kind, String.ofList s.text = text := by
  decide

theorem text_of_onlyText? {token : Token} (h : token.IsRead) {text : String}
    (only : onlyText? token.kind = some text) : token.text = text := by
  obtain ⟨s, mem, same, spelled⟩ := h.exists_spelling
    (fun kind => by rw [kind] at only; cases only) (fun kind => by rw [kind] at only; cases only)
  rw [spelled]
  exact onlyText?_of_mem_spellings s mem text (same ▸ only)

/-- A quote is closed with the text that its block ends with. -/
theorem onlyText?_quote {kind : TokenKind} (h : kind.isQuote = true) (start : Token) :
    onlyText? kind = some (Node.blockMarks start (quoteKind kind)).2 := by
  cases kind <;> simp [TokenKind.isQuote] at h <;> rfl

theorem inOrderAll_joinText (token : Token) (nodes : List Node) :
    Node.inOrderAll (Node.joinText token nodes) = token.text ++ Node.inOrderAll nodes := by
  unfold Node.joinText
  split
  · simp only [Node.inOrderAll, Node.inOrder, String.append_assoc]
  · simp only [Node.inOrderAll, Node.inOrder]

/-- The children of a block have the text of the tokens inside it. -/
theorem Inside.inOrderAll_eq {stop : TokenKind} {tokens : List Token} {nodes : List Node}
    (h : Inside stop tokens nodes) (read : ∀ token ∈ tokens, token.IsRead) :
    Node.inOrderAll nodes = Token.texts tokens := by
  induction h with
  | nil => rfl
  | text _ _ _ ih =>
    rw [inOrderAll_joinText, ih (List.forall_mem_cons.mp read).2, Token.texts]
  | @function _ start inner _ close tokens _ _ isEnd _ _ ihInner ih =>
    have inner' := ihInner fun t mem => read t (by simp [mem])
    have outer := ih fun t mem => read t (by simp [mem])
    have close' : close.text = (Node.blockMarks start .function).2 :=
      text_of_onlyText? (read close (by simp)) (by rw [isEnd]; rfl)
    simp only [Node.inOrderAll, Node.inOrder, inner', outer, Token.texts_append, Token.texts,
      close', String.append_assoc]

private theorem inOrder_ofNumber {token : Token} {negative : Bool} {node : Node}
    (h : Node.ofNumber token negative = .ok node) :
    node.inOrder = (if negative then "-" else "") ++ token.text := by
  obtain ⟨value, rfl⟩ := exists_number_of_ofNumber h
  rfl

theorem Leaf.inOrder_eq {token : Token} {node : Node} (h : Leaf token node) :
    node.inOrder = token.text := by
  rcases h.forms with
    ⟨-, rfl⟩ | ⟨-, rfl⟩ | ⟨-, _, rfl⟩ | ⟨-, _, rfl⟩ | ⟨-, _, rfl⟩ | ⟨-, _, rfl⟩ <;>
    simp [Node.inOrder, Node.inOrderOperand]

theorem Leaf.meant {token : Token} {node : Node} (h : Leaf token node) (rest : List Token) :
    meant [] (token :: rest) = token :: meant [] rest := by
  rcases h.forms with ⟨kind, -⟩ | ⟨kind, -⟩ | ⟨kind, -⟩ | ⟨kind, -⟩ | ⟨kind, -⟩ | ⟨kind, -⟩ <;>
    exact meant_plain (by simp [kind]) (by simp [kind]) (by rw [kind]; rfl) rest

/-! ## Rows -/

/-- Before linking, nodes have the text of the tokens that have a meaning. -/
theorem Row.inOrderAll_eq {tokens : List Token} {nodes : List Node} (h : Row tokens nodes)
    (read : ∀ token ∈ tokens, token.IsRead) :
    Node.inOrderAll nodes = Token.texts (meant [] tokens) := by
  induction h with
  | nil => rfl
  | space kind _ ih => rw [meant_space kind, ih (List.forall_mem_cons.mp read).2]
  | leaf leaf _ ih =>
    rw [leaf.meant, Node.inOrderAll, Token.texts, leaf.inOrder_eq,
      ih (List.forall_mem_cons.mp read).2]
  | @negative sign token node tokens nodes isSign isNumber made _ ih =>
    have sign' : sign.text = "-" := text_of_onlyText? (read sign (by simp)) (by rw [isSign]; rfl)
    rw [meant_plain (by simp [isSign]) (by simp [isSign]) (by rw [isSign]; rfl),
      meant_plain (by simp [isNumber]) (by simp [isNumber]) (by rw [isNumber]; rfl),
      Node.inOrderAll, Token.texts, Token.texts, inOrder_ofNumber made, sign',
      ih fun t mem => read t (by simp [mem]), if_pos rfl, String.append_assoc]
  | @function start inner children close tokens nodes isStart isEnd inside _ ih =>
    have inner' := inside.inOrderAll_eq fun t mem => read t (by simp [mem])
    have outer := ih fun t mem => read t (by simp [mem])
    have close' : close.text = (Node.blockMarks start .function).2 :=
      text_of_onlyText? (read close (by simp)) (by rw [isEnd]; rfl)
    rw [List.cons_append, meant_start isStart, inside.meant_append, meant_stop isEnd (by decide)]
    simp only [Node.inOrderAll, Node.inOrder, inner', outer, Token.texts_append, Token.texts,
      close', String.append_assoc]
  | @quote start inner children close tokens nodes isQuote same inside _ ih =>
    have inner' := inside.inOrderAll_eq fun t mem => read t (by simp [mem])
    have outer := ih fun t mem => read t (by simp [mem])
    have close' : close.text = (Node.blockMarks start (quoteKind start.kind)).2 :=
      text_of_onlyText? (read close (by simp)) (by rw [same]; exact onlyText?_quote isQuote start)
    rw [List.cons_append, meant_quote isQuote, inside.meant_append,
      meant_stop same (not_start_of_isQuote isQuote).1]
    simp only [Node.inOrderAll, Node.inOrder, inner', outer, Token.texts_append, Token.texts,
      close', String.append_assoc]

/-! ## Conditions -/

/-- Linking the operators of a row changes nothing of what is read off its nodes in order. -/
theorem flatMap_of_linkOperators {α : Type} {f : Node → List α} (inOrder : Node.ReadsInOrder f)
    {tokens : List Token} {flat nodes : List Node} (row : Row tokens flat) (apart : Apart flat)
    (h : linkOperators flat = .ok nodes) : nodes.flatMap f = flat.flatMap f := by
  obtain ⟨unary, binary, linkedUnary, linkedBinary, linkedLogical⟩ := linkOperators_eq_ok.mp h
  have readyUnary := wellFormed_of_linkUnaryAfter (by simp) row.isReady linkedUnary
  have apartUnary := apart_of_linkUnary apart linkedUnary
  have readyBinary := wellFormed_of_linkBinary readyUnary apartUnary linkedBinary
  calc nodes.flatMap f
      = binary.flatMap f := flatMap_of_linkLogical inOrder readyBinary linkedLogical
    _ = unary.flatMap f := flatMap_of_linkBinary inOrder readyUnary linkedBinary
    _ = flat.flatMap f := flatMap_of_linkUnary inOrder linkedUnary

/-- The tokens of a condition stand one after the other from the start of its text to the end, and
their texts are what the text means. The nodes that are read, in order, have the texts of all these
tokens but the white space outside of blocks. -/
theorem inOrderAll_of_parse {escapes : Bool} {text : String} {nodes : List Node}
    (h : parse escapes text = .ok nodes) :
    ∃ found, tokens escapes text = .ok found ∧ Covers escapes 0 text.toList found ∧
      (Token.texts found).toList = meaning escapes text.toList ∧
      Node.inOrderAll nodes = Token.texts (meant [] found) := by
  obtain ⟨found, flat, walked, row, apart, linked⟩ := exists_row_of_parse h
  obtain ⟨covers, read⟩ := covers_of_tokens walked
  have inOrder : Node.inOrderAll nodes = Token.texts (meant [] found) :=
    (Node.inOrderAll_congr (flatMap_of_linkOperators Node.readsInOrder_inOrder row apart
      linked)).trans (row.inOrderAll_eq read)
  exact ⟨found, walked, covers, covers.texts_eq, inOrder⟩

theorem inOrderAll_of_parse_comparison :
    ∃ nodes, parse true "$\x7ba\x7d ++ > -5 && '\\' b' == null" = .ok nodes ∧
      Node.inOrderAll nodes = "$\x7ba\x7d++>-5&&'' b'==null" := by
  have isOk : (parse true "$\x7ba\x7d ++ > -5 && '\\' b' == null").isOk = true := by
    decide +kernel
  have texts : (tokens true "$\x7ba\x7d ++ > -5 && '\\' b' == null").map
      (fun found => Token.texts (meant [] found)) = .ok "$\x7ba\x7d++>-5&&'' b'==null" := by
    decide +kernel
  obtain ⟨nodes, parsed⟩ := exists_of_isOk isOk
  obtain ⟨found, walked, -, -, inOrder⟩ := inOrderAll_of_parse parsed
  rw [walked] at texts
  exact ⟨nodes, parsed, inOrder.trans (Except.ok.inj texts)⟩

end MessageExpr.Condition
