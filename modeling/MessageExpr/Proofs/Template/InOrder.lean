import MessageExpr.Proofs.Template.Errors

/-!
# Nothing of a template is lost

The nodes of a template, in the order in which they were written, have the text that the template
means: no token is lost, repeated or moved. And the nodes are as few as they can be: what stands
between functions and operators is one literal, and there is none where nothing stands.

## Main definitions

* `LiteralsApart` — nodes with no two literals side by side
* `Node.Tidy` — a node with no superfluous literals, whose operators stand after functions

## Main results

* `Row.inOrderAll_eq` — before linking, nodes have the text of the tokens
* `Template.meaning_of_parse` — the nodes of a template have its text, and are tidy
-/

namespace MessageExpr

open Condition (Inside inOrderAll_joinText)

/-! ## Tidy nodes -/

/-- Whether a node is a literal. -/
def Node.isLiteral : Node → Bool
  | literal _ _ => true
  | _ => false

/-- No two literals stand side by side. -/
def LiteralsApart (nodes : List Node) : Prop :=
  nodes.IsChain fun node after => node.isLiteral = true → after.isLiteral = false

/-- A literal has a text, no two literals of a function stand side by side, and the operand of an
operator is a function. -/
inductive Node.Tidy : Node → Prop where
  | literal {token text} : text ≠ "" → Tidy (.literal token text)
  | function {token children} : (∀ c ∈ children, Tidy c) → LiteralsApart children →
      Tidy (.block .function .function token children)
  | unary {operator token left} : left.isFunction = true → Tidy left →
      Tidy (.unary operator token (some left))

theorem LiteralsApart.cons {node : Node} {nodes : List Node} (h : LiteralsApart nodes)
    (other : node.isLiteral = false) : LiteralsApart (node :: nodes) := by
  refine List.IsChain.cons h fun after _ isLiteral => ?_
  rw [other] at isLiteral
  cases isLiteral

/-- Text that is put in front of nodes keeps literals apart. -/
theorem LiteralsApart.joinText {nodes : List Node} (h : LiteralsApart nodes) (token : Token) :
    LiteralsApart (Node.joinText token nodes) := by
  unfold Node.joinText
  split
  · rename_i first text rest
    exact List.IsChain.cons h.tail fun after mem _ => List.IsChain.rel_head? h mem rfl
  · rename_i other
    refine List.IsChain.cons h fun after mem _ => ?_
    cases after with
    | literal first text =>
      obtain ⟨rest, rfl⟩ := List.head?_eq_some_iff.mp mem
      exact absurd rfl (other first text rest)
    | _ => rfl

/-- Text that is put in front of nodes is not empty when its token is not. -/
theorem forall_joinText {P : Node → Prop} {token : Token} (text : token.text ≠ "")
    (literal : ∀ {first : Token} {text}, text ≠ "" → P (.literal first text)) {nodes : List Node}
    (h : ∀ n ∈ nodes, P n) : ∀ n ∈ Node.joinText token nodes, P n := by
  unfold Node.joinText
  split
  · refine List.forall_mem_cons.mpr ⟨literal ?_, (List.forall_mem_cons.mp h).2⟩
    simp [text]
  · exact List.forall_mem_cons.mpr ⟨literal text, h⟩

/-- The children of a function are tidy. -/
theorem Node.tidy_of_inside {tokens : List Token} {nodes : List Node} {stop : TokenKind}
    (h : Inside stop tokens nodes) (read : ∀ token ∈ tokens, token.IsRead) :
    (∀ n ∈ nodes, n.Tidy) ∧ LiteralsApart nodes := by
  induction h with
  | nil => exact ⟨by simp, .nil⟩
  | text _ _ _ ih =>
    obtain ⟨head, read⟩ := List.forall_mem_cons.mp read
    obtain ⟨tidy, apart⟩ := ih read
    exact ⟨forall_joinText head.text_ne .literal tidy, apart.joinText _⟩
  | function _ _ _ _ ihInner ih =>
    obtain ⟨tidyInner, apartInner⟩ := ihInner fun t mem => read t (by simp [mem])
    obtain ⟨tidy, apart⟩ := ih fun t mem => read t (by simp [mem])
    exact ⟨List.forall_mem_cons.mpr ⟨.function tidyInner apartInner, tidy⟩, apart.cons rfl⟩

/-- Linking the unary operators of nodes that are tidy otherwise makes them tidy. -/
theorem tidy_of_linkUnaryAfter {done rest nodes : List Node} (before : ∀ n ∈ done, n.Tidy)
    (after : ∀ n ∈ rest, n.Tidy ∨ n.IsBare [.unary])
    (linked : linkUnaryAfter done rest = .ok nodes) : ∀ n ∈ nodes, n.Tidy := by
  fun_induction linkUnaryAfter done rest with
  | case1 done =>
    cases linked
    simpa using before
  | case2 => cases linked
  | case3 operator token rest left done isFunction ih =>
    obtain ⟨head, before⟩ := List.forall_mem_cons.mp before
    exact ih (List.forall_mem_cons.mpr ⟨.unary isFunction head, before⟩)
      (List.forall_mem_cons.mp after).2 linked
  | case4 => cases linked
  | case5 done node rest notBare ih =>
    obtain ⟨head, after⟩ := List.forall_mem_cons.mp after
    -- An operator that has no operand yet is no other node.
    refine ih (List.forall_mem_cons.mpr ⟨?_, before⟩) after linked
    refine head.resolve_right fun bare => ?_
    cases bare with
    | unary => exact notBare _ _ rfl
    | binary mem => exact absurd mem (by decide)
    | logical mem => exact absurd mem (by decide)

namespace Template

/-! ## Rows -/

variable {closed : Bool} {tokens : List Token} {nodes : List Node}

/-- Before linking, nodes have the text of the tokens. -/
theorem Row.inOrderAll_eq (h : Row closed tokens nodes) (read : ∀ token ∈ tokens, token.IsRead) :
    Node.inOrderAll nodes = Token.texts tokens := by
  induction h with
  | nil => rfl
  | text _ _ ih =>
    rw [inOrderAll_joinText, ih (List.forall_mem_cons.mp read).2]
    rfl
  | unary _ _ _ ih =>
    rw [Node.inOrderAll, ih (List.forall_mem_cons.mp read).2, Node.inOrder, Node.inOrderOperand,
      String.empty_append]
    rfl
  | @function _ start inner children close tokens nodes _ isEnd inside _ ih =>
    have inner' := inside.inOrderAll_eq fun t mem => read t (by simp [mem])
    have outer := ih fun t mem => read t (by simp [mem])
    have close' : close.text = (Node.blockMarks start .function).2 :=
      Condition.text_of_onlyText? (read close (by simp)) (by rw [isEnd]; rfl)
    simp only [Node.inOrderAll, Node.inOrder, inner', outer, Token.texts_append, Token.texts,
      close', String.append_assoc, List.cons_append]

/-- Before linking, nodes are tidy but for the operators that have no operand yet. -/
theorem Row.tidy (h : Row closed tokens nodes) (read : ∀ token ∈ tokens, token.IsRead) :
    (∀ n ∈ nodes, n.Tidy ∨ n.IsBare [.unary]) ∧ LiteralsApart nodes := by
  induction h with
  | nil => exact ⟨by simp, .nil⟩
  | text _ _ ih =>
    obtain ⟨head, read⟩ := List.forall_mem_cons.mp read
    obtain ⟨tidy, apart⟩ := ih read
    exact ⟨forall_joinText head.text_ne (fun text => .inl (.literal text)) tidy, apart.joinText _⟩
  | unary _ _ _ ih =>
    obtain ⟨tidy, apart⟩ := ih (List.forall_mem_cons.mp read).2
    exact ⟨List.forall_mem_cons.mpr ⟨.inr (.unary (by simp)), tidy⟩, apart.cons rfl⟩
  | function _ _ inside _ ih =>
    obtain ⟨tidyInner, apartInner⟩ :=
      Node.tidy_of_inside inside fun t mem => read t (by simp [mem])
    obtain ⟨tidy, apart⟩ := ih fun t mem => read t (by simp [mem])
    exact ⟨List.forall_mem_cons.mpr ⟨.inl (.function tidyInner apartInner), tidy⟩, apart.cons rfl⟩

/-! ## Templates -/

/-- The nodes of a template, in order, have the text that the template means. Every literal of them
has a text, no two literals stand side by side, and the operand of an operator is a function. -/
theorem meaning_of_parse {escapes : Bool} {text : String} {nodes : List Node}
    (h : parse escapes text = .ok nodes) :
    (Node.inOrderAll nodes).toList = meaning escapes text.toList ∧ (∀ n ∈ nodes, n.Tidy) ∧
      LiteralsApart nodes := by
  obtain ⟨found, place, same, covers, read⟩ := exists_tokensFrom_eq escapes text.toList 0
  obtain ⟨flat, row, linked⟩ := row_of_parse h
  rw [tokenize, same, List.dropLast_concat] at row
  obtain ⟨tidy, apart⟩ := row.tidy read
  refine ⟨?_, tidy_of_linkUnaryAfter (by simp) tidy linked, ?_⟩
  · rw [inOrderAll_of_linkUnary linked, row.inOrderAll_eq read, covers.texts_eq, List.drop_zero]
  · exact isChain_of_linkUnary (p := Node.isLiteral) (fun _ _ _ => rfl) apart linked

/-- Braces outside of functions are text, and an escape sequence is read before they are looked
for. -/
theorem meaning_of_parse_braces :
    ∃ nodes, parse true "\\\x7b $\x7ba$\x7bb\x7d\x7d++ \x7d--" = .ok nodes ∧
      (Node.inOrderAll nodes).toList = "\x7b $\x7ba$\x7bb\x7d\x7d++ \x7d--".toList ∧
      (∀ n ∈ nodes, n.Tidy) ∧ LiteralsApart nodes := by
  have isOk : (parse true "\\\x7b $\x7ba$\x7bb\x7d\x7d++ \x7d--").isOk = true := by
    decide +kernel
  obtain ⟨nodes, parsed⟩ := exists_of_isOk isOk
  obtain ⟨means, tidy, apart⟩ := meaning_of_parse parsed
  exact ⟨nodes, parsed, means.trans (by decide +kernel), tidy, apart⟩

end Template

end MessageExpr
