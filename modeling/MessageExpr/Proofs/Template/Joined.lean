import MessageExpr.Proofs.Condition.Relocated
import MessageExpr.Proofs.Node.Spread
import MessageExpr.Proofs.Template.Errors
import MessageExpr.Proofs.Token.Seam

/-!
# Templates with a space between them

Two templates with a space between them are a template again. Its nodes are those of the first one,
the space and those of the second one, but that the literals at the seam are one.

## Main results

* `Template.Row.append` — rows one after the other
* `Template.exists_parse_joined` — the nodes of two templates with a space between them
-/

namespace MessageExpr

namespace Token

theorem IsPlain.noStart {token : Token} (h : token.IsPlain) : token.kind ≠ .functionStart := by
  intro isStart
  have isText := h.1
  rw [isStart] at isText
  cases isText

theorem IsPlain.noEnd {token : Token} (h : token.IsPlain) : token.kind ≠ .functionEnd := by
  intro isEnd
  have isText := h.1
  rw [isEnd] at isText
  cases isText

theorem IsPlain.isEnd_eq {token : Token} (h : token.IsPlain) : token.isEnd = false := by
  have isText := h.1
  cases kind : token.kind <;> simp_all [isEnd, TokenKind.isText]

end Token

namespace Template

open Node

/-! ## Rows -/

/-- A row that does not begin with an operator is a row after a function, too. -/
theorem Row.of_head {tokens : List Token} {nodes : List Node} (h : Row false tokens nodes)
    (head : ∀ t ∈ tokens.head?, t.kind ≠ .unaryOperator) (closed : Bool) :
    Row closed tokens nodes := by
  cases h with
  | nil => exact .nil
  | text isText row =>
    exact .text ⟨isText.noStart, isText.noEnd, fun isOperator => absurd isOperator (head _ rfl)⟩ row
  | function isStart isEnd inside row => exact .function isStart isEnd inside row

/-- Rows one after the other are a row, where the literals between them may become one. -/
theorem Row.append {closed : Bool} {front back : List Token} {nodes nodes' : List Node}
    (h : Row closed front nodes) (h' : Row false back nodes')
    (head : ∀ t ∈ back.head?, t.kind ≠ .unaryOperator) :
    ∃ both, Row closed (front ++ back) both ∧
      both.flatMap spread = nodes.flatMap spread ++ nodes'.flatMap spread := by
  induction h with
  | nil => exact ⟨nodes', h'.of_head head _, rfl⟩
  | text isText _ ih =>
    obtain ⟨both, row, same⟩ := ih
    refine ⟨_, .text isText row, ?_⟩
    rw [spread_joinText, spread_joinText, same, List.append_assoc]
  | unary isOperator made _ ih =>
    obtain ⟨both, row, same⟩ := ih
    refine ⟨_, .unary isOperator made row, ?_⟩
    rw [List.flatMap_cons, List.flatMap_cons, same, List.append_assoc]
  | function isStart isEnd inside _ ih =>
    obtain ⟨both, row, same⟩ := ih
    refine ⟨_, by simpa using Row.function isStart isEnd inside row, ?_⟩
    rw [List.flatMap_cons, List.flatMap_cons, same, List.append_assoc]

/-- Plain tokens in front of a row add their texts. -/
theorem Row.exists_texts {texts : List Token} (plain : ∀ t ∈ texts, t.IsPlain) {rest : List Token}
    {nodes : List Node} (h : Row false rest nodes) :
    ∃ both, Row false (texts ++ rest) both ∧
      both.flatMap spread = letters (Token.texts texts) ++ nodes.flatMap spread := by
  induction texts with
  | nil => exact ⟨nodes, h, rfl⟩
  | cons t texts ih =>
    obtain ⟨head, plain⟩ := List.forall_mem_cons.mp plain
    obtain ⟨both, row, same⟩ := ih plain
    refine ⟨_, .text ⟨head.noStart, fun isEnd => absurd isEnd head.noEnd, fun _ _ => rfl⟩ row, ?_⟩
    rw [spread_joinText, same, Token.texts, letters_append, List.append_assoc]

/-- The nodes of a row are determined by its tokens. -/
theorem Row.unique {closed : Bool} {tokens : List Token} {nodes nodes' : List Node}
    (h : Row closed tokens nodes) (h' : Row closed tokens nodes') : nodes = nodes' := by
  obtain ⟨front, made, linked⟩ := h.blocks
  obtain ⟨front', made', linked'⟩ := h'.blocks
  obtain rfl : front = front' := Except.ok.inj (made.symm.trans made')
  exact Except.ok.inj (linked.symm.trans linked')

/-- A row at other places has the same nodes there. -/
theorem Row.relocated {closed : Bool} {tokens : List Token} {nodes : List Node}
    (h : Row closed tokens nodes) (place : Nat → Nat) :
    Row closed (tokens.map (Token.relocated place)) (nodes.map (Node.relocated place)) := by
  induction h with
  | nil => exact .nil
  | @text _ token _ _ isText _ ih =>
    rw [List.map_cons, ← Condition.joinText_relocated]
    exact .text ⟨isText.noStart, isText.noEnd, isText.noOperator⟩ ih
  | unary isOperator made _ ih =>
    exact .unary isOperator (Condition.ofUnary_relocated place made) ih
  | @function _ start _ _ close _ _ isStart isEnd inside _ ih =>
    have isStart' : (start.relocated place).kind = .functionStart := isStart
    have isEnd' : (close.relocated place).kind = .functionEnd := isEnd
    simpa [Node.relocated, Node.relocatedAll_eq] using
      Row.function isStart' isEnd' (inside.relocated place) ih

/-! ## The seam -/

/-- Plain tokens do not glue what follows them to an operator. -/
theorem firstGlued?_texts {texts : List Token} (plain : ∀ t ∈ texts, t.IsPlain)
    (rest : List Token) : firstGlued? 0 (texts ++ rest) = firstGlued? 0 rest := by
  induction texts with
  | nil => rfl
  | cons t texts ih =>
    obtain ⟨head, plain⟩ := List.forall_mem_cons.mp plain
    rw [List.cons_append, firstGlued?_cons (.inl (by decide)),
      depthAfter_text head.noEnd head.noStart, ih plain]

private theorem exists_tokenize_eq (escapes : Bool) (text : String) :
    ∃ place, tokenize escapes text =
      (tokenize escapes text).dropLast ++ [Token.endOfLine place] := by
  obtain ⟨found, place, same, -⟩ := exists_tokensFrom_eq escapes text.toList 0
  exact ⟨place, by rw [tokenize, same, List.dropLast_concat]⟩

/-- Linking leaves literals alone. -/
theorem linkUnary_letters (text : String) : linkUnary (letters text) = .ok (letters text) := by
  have literals : ∀ n ∈ letters text, n.isBareUnary = false := by
    intro n mem
    obtain ⟨c, -, rfl⟩ := List.mem_map.mp mem
    rfl
  have linked := linkUnaryAfter_of_not_bare literals [] []
  rw [List.append_nil, List.append_nil] at linked
  rw [linkUnary, linked, linkUnaryAfter, List.reverse_reverse]

section seam

variable {offset : Nat} {front back both : List Token} (seam : Seam offset front back both)
  (closed : openAfter [] front = [])

include seam closed

/-- Where nothing is glued to an operator in two texts, nothing is in both together. -/
theorem firstGlued?_seam {place place' : Nat}
    (apart : firstGlued? 0 (front ++ [Token.endOfLine place]) = none)
    (apart' : firstGlued? 0 (back ++ [Token.endOfLine place']) = none) (later : Nat) :
    firstGlued? 0 (both ++ [Token.endOfLine later]) = none := by
  obtain ⟨kept, last, joint, first, rest, rfl, rfl, rfl, plain, plainLast, plainFirst, -, free⟩ :=
    seam
  rw [openAfter, List.foldl_append] at closed
  rw [List.append_assoc, firstGlued?_texts plainFirst] at apart'
  have same : (rest ++ [Token.endOfLine place']).map Token.kind =
      (rest.map (Token.shifted offset) ++ [Token.endOfLine later]).map Token.kind := by
    simp [Token.kind_shifted, Function.comp_def, Token.endOfLine]
  rw [List.append_assoc] at apart ⊢
  refine @firstGlued?_append [] _ _ _ _ apart
    ((openAfter_texts (fun t mem => (plainLast t mem).1) _).symm.trans closed) ?_ plain.2 ?_
  · rw [← List.singleton_append, firstGlued?_texts (by simpa using plain)]
    exact firstGlued?_of_kinds same apart'
  · refine free.imp_right ?_
    rintro ⟨t, head, notSpace⟩
    refine ⟨t, ?_, notSpace, ?_⟩
    · rw [List.head?_append, head]
      rfl
    · exact (plainLast t (List.mem_of_mem_head? head)).isEnd_eq

/-- Two texts together have the row of both with the space between them, where literals are taken
apart. -/
theorem exists_row_seam (read : ∀ t ∈ front, t.IsRead) (read' : ∀ t ∈ back, t.IsRead)
    (closed' : openAfter [] back = []) {flat flat' : List Node} (row : Row false front flat)
    (row' : Row false back flat') :
    ∃ flatBoth, Row false both flatBoth ∧
      flatBoth.flatMap spread = flat.flatMap spread ++ letters " " ++ flat'.flatMap spread := by
  obtain ⟨kept, last, joint, first, rest, rfl, rfl, rfl, plain, plainLast, plainFirst, texts, -⟩ :=
    seam
  -- The two parts that stay are rows, as what goes into the joint neither opens nor closes.
  rw [openAfter, List.foldl_append] at closed closed'
  have closedKept : openAfter [] kept = [] :=
    (openAfter_texts (fun t mem => (plainLast t mem).1) _).symm.trans closed
  have closedRest : openAfter [] rest = [] := by
    rwa [← openAfter, ← openAfter, openAfter_texts fun t mem => (plainFirst t mem).1] at closed'
  obtain ⟨flatKept, rowKept⟩ := exists_row (fun t mem => read t (by simp [mem])) closedKept false
  obtain ⟨flatRest, rowRest⟩ := exists_row (fun t mem => read' t (by simp [mem])) closedRest false
  obtain ⟨flatLast, rowLast, sameLast⟩ := Row.exists_texts plainLast .nil
  obtain ⟨flatFirst, rowFirst, sameFirst⟩ := Row.exists_texts plainFirst rowRest
  obtain ⟨flatJoint, rowJoint, sameJoint⟩ :=
    Row.exists_texts (List.forall_mem_singleton.mpr plain) (rowRest.relocated (· + offset))
  rw [List.append_nil] at rowLast
  obtain ⟨flatFront, rowFront, sameFront⟩ := rowKept.append rowLast fun t head =>
    (plainLast t (List.mem_of_mem_head? head)).2
  obtain ⟨flatBoth, rowBoth, sameBoth⟩ := rowKept.append rowJoint fun t head => by
    obtain rfl : joint = t := by simpa using head
    exact plain.2
  obtain rfl := row.unique rowFront
  obtain rfl := row'.unique rowFirst
  refine ⟨flatBoth, rowBoth, ?_⟩
  have joined : Token.texts [joint] = Token.texts last ++ " " ++ Token.texts first := by
    rw [texts, Token.texts, Token.texts, String.append_empty]
  rw [sameBoth, sameFront, sameJoint, sameLast, sameFirst, joined, flatMap_spread_relocated]
  simp [letters_append]

end seam

section joined

variable {escapes : Bool} {text text' : String} {nodes nodes' : List Node}

/-- Two templates with a space between them are a template, with the nodes of the first one, a space
and the nodes of the second one, where literals are taken apart. -/
theorem exists_parse_joined (h : parse escapes text = .ok nodes)
    (h' : parse escapes text' = .ok nodes') :
    ∃ both, parse escapes (text ++ " " ++ text') = .ok both ∧
      both.flatMap spread = nodes.flatMap spread ++ letters " " ++ nodes'.flatMap spread := by
  obtain ⟨apart, closed⟩ := apart_of_parse h
  obtain ⟨apart', closed'⟩ := apart_of_parse h'
  obtain ⟨flat, row, linked⟩ := row_of_parse h
  obtain ⟨flat', row', linked'⟩ := row_of_parse h'
  rw [← openAfter_dropLast] at closed closed'
  have seam := exists_seam escapes text'.toList (Nat.zero_le text.toList.length)
  have between : text.toList ++ ' ' :: text'.toList = (text ++ " " ++ text').toList := by simp
  rw [between] at seam
  obtain ⟨flatBoth, rowBoth, same⟩ := exists_row_seam seam closed isRead_of_mem_dropLast
    isRead_of_mem_dropLast closed' row row'
  have apartBoth : firstGlued? 0 (tokenize escapes (text ++ " " ++ text')) = none := by
    obtain ⟨place, front⟩ := exists_tokenize_eq escapes text
    obtain ⟨place', back⟩ := exists_tokenize_eq escapes text'
    obtain ⟨later, all⟩ := exists_tokenize_eq escapes (text ++ " " ++ text')
    rw [front] at apart
    rw [back] at apart'
    rw [all]
    exact firstGlued?_seam seam closed apart apart' later
  obtain ⟨both, linkedBoth, parsed⟩ := exists_parse_of_row apartBoth rowBoth
  refine ⟨both, parsed, ?_⟩
  have apartLinked := linkUnary_append
    (linkUnary_append (linkUnary_spread linked) (linkUnary_letters " ")) (linkUnary_spread linked')
  rw [← same, linkUnary_spread linkedBoth] at apartLinked
  exact Except.ok.inj apartLinked

end joined

end Template

end MessageExpr
