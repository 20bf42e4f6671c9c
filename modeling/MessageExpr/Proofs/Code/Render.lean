import MessageExpr.Proofs.Code.Piece
import MessageExpr.Proofs.Decimal.Shown
import MessageExpr.Proofs.Except

/-!
# The pieces of nodes

Writing a node with marks and writing it without them fail in the same way or give the two codes
of one piece. So what is known of pieces is known of the code of every list of nodes, whatever
their texts are.

## Main definitions

* `texts`, `templateTexts`, `clausesTexts` — the texts in the code of nodes, in order
* `Renders` — two results are the two codes of one piece

## Main results

* `renders_value` — the code of a node
* `renders_template`, `renders_clauses` — the code of a list of nodes
-/

namespace MessageExpr.Code

/-! ## Texts -/

/-- The texts in the code of a function: its name, if it has one. -/
def functionTexts : Function → List String
  | .header name | .property name | .environment name => [name]
  | _ => []

/-- The empty text in front, unless a literal comes first. -/
def fillers : List Node → List String
  | .literal _ _ :: _ => []
  | _ => [""]

mutual

/-- The texts in the code of a node: literals, quoted texts and names of headers, properties and
variables. -/
def texts : Node → List String
  | .literal _ text => [text]
  | .block .function _ _ children =>
    ((Function.ofName? (Node.literalTexts children)).map functionTexts).getD []
  | .block .quote _ _ children =>
    if Node.hasFunctions children then fillers children ++ pieceTexts children
    else [Node.literalTexts children]
  | .unary _ _ (some operand) => texts operand
  | .binary _ _ (some left) (some right) => texts left ++ texts right
  | .logical _ _ (some left) (some right) => texts left ++ texts right
  | _ => []

/-- The texts in the pieces of quoted text. Empty literals are left out. -/
def pieceTexts : List Node → List String
  | [] => []
  | .literal _ text :: rest => if text.isEmpty then pieceTexts rest else text :: pieceTexts rest
  | child :: rest => texts child ++ pieceTexts rest

end

/-- The texts in the code of a template. -/
def templateTexts (nodes : List Node) : List String := fillers nodes ++ nodes.flatMap texts

/-- The texts in the code of a row of clauses. -/
def clausesTexts (nodes : List Node) : List String := nodes.flatMap texts

/-! ## Pieces -/

namespace Piece

section

variable (joint : Joint)

/-- Pieces with the same joint between any two of them. -/
def sequence : List Piece → Piece
  | [] => .word "" (by decide)
  | [p] => p
  | p :: q :: rest => .join joint p (sequence (q :: rest))

theorem code_sequence (side : Side) (l : List Piece) :
    (sequence joint l).code side = joint.code.intercalate (l.map (code side)) := by
  induction l using sequence.induct with
  | case1 => cases side <;> rfl
  | case2 p => simp [sequence]
  | case3 p q rest ih => simp [sequence, ih, String.append_assoc]

private theorem texts_sequence (l : List Piece) :
    (sequence joint l).texts = l.flatMap texts := by
  induction l using sequence.induct with
  | case1 => simp [sequence]
  | case2 p => simp [sequence]
  | case3 p q rest ih => simp [sequence, ih]

end

/-- Two arguments. -/
def comma (p q : Piece) : Piece := .join .comma p q

/-- The exchange before another argument. -/
def exchangeWith (p : Piece) : Piece := comma (.word "exchange" (by decide)) p

@[simp] theorem code_comma (side : Side) (p q : Piece) :
    (comma p q).code side = p.code side ++ (", " ++ q.code side) :=
  code_join side .comma p q

@[simp] theorem texts_comma (p q : Piece) : (comma p q).texts = p.texts ++ q.texts := by
  simp [comma]

@[simp] theorem texts_exchangeWith (p : Piece) : p.exchangeWith.texts = p.texts := by
  simp [exchangeWith]

end Piece

/-! ## Functions -/

theorem isWord_className (type : ValueType) : IsWord (type.className ++ ".class") := by
  cases type <;> decide

/-- The call of a function. -/
def callOf : Function → Call
  | .body => ⟨"body", by decide, none⟩
  | .bodyAs type =>
    ⟨"bodyAs", by decide,
      some (.comma (.word "message" (by decide))
        (.word (type.className ++ ".class") (isWord_className type)))⟩
  | .header name =>
    ⟨"header", by decide, some (.comma (.word "message" (by decide)) (.text name))⟩
  | .property name =>
    ⟨"exchangeProperty", by decide, some (.comma (.word "exchange" (by decide)) (.text name))⟩
  | .exchangeId => ⟨"exchange.getExchangeId", by decide, some (.word "" (by decide))⟩
  | .messageId => ⟨"message.getMessageId", by decide, some (.word "" (by decide))⟩
  | .null => ⟨"null", by decide, none⟩
  | .environment name => ⟨"sysenv", by decide, some (.text name)⟩

private theorem code_callOf (side : Side) (f : Function) :
    (callOf f).piece.code side = ofFunction f := by
  cases f with
  | body | null => cases side <;> rfl
  | exchangeId | messageId => cases side <;> decide
  | bodyAs type =>
    have last : ".class" ++ ")" = ".class)" := by decide
    have code : ofFunction (.bodyAs type) = "bodyAs(message, " ++ type.className ++ ".class)" := rfl
    rw [code, ← last]
    simp only [callOf, Call.piece, Piece.code_call, Piece.code_comma, Piece.code_word,
      ← String.append_assoc]
    rfl
  | header name | property name | environment name =>
    simp only [callOf, Call.piece, Piece.code_call, Piece.code_comma, Piece.code_word,
      Piece.code_text, ← String.append_assoc]
    rfl

private theorem texts_callOf (f : Function) : (callOf f).piece.texts = functionTexts f := by
  cases f <;> simp [callOf, Call.piece, functionTexts]

/-! ## Helpers -/

/-- The call of a helper on the exchange and a piece. -/
def helper (name : String) (h : IsWord name) (p : Piece) : Call := ⟨name, h, some p.exchangeWith⟩

section

variable (side : Side) (name : String) (h : IsWord name) (p : Piece)

theorem code_helper :
    (helper name h p).piece.code side = name ++ "(exchange, " ++ p.code side ++ ")" := by
  have front : "(exchange, " = "(" ++ "exchange" ++ ", " := by decide
  rw [front]
  simp only [helper, Call.piece, Piece.exchangeWith, Piece.code_call, Piece.code_comma,
    Piece.code_word, String.append_assoc]

@[simp] theorem texts_helper : (helper name h p).piece.texts = p.texts := by
  simp [helper, Call.piece]

end

private theorem isWord_unaryHelper (operator : UnaryOperator) : IsWord (unaryHelper operator) := by
  cases operator <;> decide

theorem isWord_binaryHelper (operator : BinaryOperator) : IsWord (binaryHelper operator) := by
  cases operator <;> decide

/-- The call of a comparison. -/
def comparison (operator : BinaryOperator) (p q : Piece) : Call :=
  helper (binaryHelper operator) (isWord_binaryHelper operator) (p.comma q)

section

variable (side : Side) (operator : BinaryOperator) (p q : Piece)

theorem code_comparison : (comparison operator p q).piece.code side =
    binaryHelper operator ++ "(exchange, " ++ p.code side ++ ", " ++ q.code side ++ ")" := by
  rw [comparison, code_helper, Piece.code_comma]
  simp only [String.append_assoc]

@[simp] theorem texts_comparison :
    (comparison operator p q).piece.texts = p.texts ++ q.texts := by
  rw [comparison, texts_helper, Piece.texts_comma]

end

theorem isWord_isTrue : IsWord "isTrue" := by decide

/-- The call that tells whether a value is true. -/
def truth (p : Piece) : Call := helper "isTrue" isWord_isTrue p

theorem code_truth (side : Side) (p : Piece) :
    (truth p).piece.code side = "isTrue(exchange, " ++ p.code side ++ ")" := by
  have front : "isTrue" ++ "(exchange, " = "isTrue(exchange, " := by decide
  rw [truth, code_helper, front]

@[simp] theorem texts_truth (p : Piece) : (truth p).piece.texts = p.texts := texts_helper _ _ p

/-- The piece of a node as a condition, from its piece as a value. -/
def conditionPiece : Node → Piece → Piece
  | .binary _ _ _ _, p => p
  | .logical _ _ _ _, p => p
  | .boolean _, p => p
  | _, p => (truth p).piece

/-- The piece of an operand of a logical operator, from its piece as a value. -/
def operandPiece : Node → Piece → Piece
  | .logical _ _ _ _, p => p.group
  | node, p => conditionPiece node p

section

variable (side : Side) (node : Node) (p : Piece)

private theorem code_conditionPiece :
    (conditionPiece node p).code side = asCondition node (p.code side) := by
  cases node with
  | binary | logical | boolean => rfl
  | _ => exact code_truth side p

@[simp] theorem texts_conditionPiece : (conditionPiece node p).texts = p.texts := by
  cases node with
  | binary | logical | boolean => rfl
  | _ => exact texts_truth p

private theorem code_operandPiece :
    (operandPiece node p).code side = asOperand node (p.code side) := by
  cases node with
  | logical => exact (Piece.code_group side p).trans String.append_assoc.symm
  | _ => exact code_conditionPiece side _ p

@[simp] theorem texts_operandPiece : (operandPiece node p).texts = p.texts := by
  cases node with
  | logical => exact Piece.texts_group p
  | _ => exact texts_conditionPiece _ p

end

private theorem isWord_shown (n : Number) : IsWord n.shown := by
  intro c h
  rcases Number.isNumeral_of_mem_shown h with letter | rfl | rfl
  · simp [isWordChar, letter]
  · rfl
  · rfl

theorem isWord_boolShown (b : Bool) : IsWord (boolShown b) := by cases b <;> decide

/-! ## Nodes -/

/-- The two codes of one piece, which holds some texts. -/
def IsPiece (texts : List String) (marked plain : String) : Prop :=
  ∃ p : Piece, p.code .marked = marked ∧ p.code .plain = plain ∧ p.texts = texts

/-- The two codes of some pieces, one after the other, which hold some texts. -/
def ArePieces (texts : List String) (marked plain : List String) : Prop :=
  ∃ l : List Piece, l.map (Piece.code .marked) = marked ∧ l.map (Piece.code .plain) = plain ∧
    l.flatMap Piece.texts = texts

/-- Two results fail in the same way or are the two codes of one piece, which holds some texts. -/
abbrev Renders (marked plain : Except Problem String) (texts : List String) : Prop :=
  Alike (IsPiece texts) marked plain

/-- Two results fail in the same way or are the two codes of some pieces. -/
abbrev RendersAll (marked plain : Except Problem (List String)) (texts : List String) : Prop :=
  Alike (ArePieces texts) marked plain

/-- A function that is written has a name that is known. -/
theorem ofFunctionNode_cases (node : Node) (token : Token) (children : List Node) :
    (∃ e, ofFunctionNode node token children = .error e) ∨
      ∃ f, Function.ofName? (Node.literalTexts children) = some f ∧
        ofFunctionNode node token children = .ok (ofFunction f) := by
  unfold ofFunctionNode
  split
  · exact .inl ⟨_, rfl⟩
  · simp only
    split
    · exact .inr ⟨_, ‹_›, rfl⟩
    · exact .inl ⟨_, rfl⟩

/-- The empty texts in front are written as string literals. -/
theorem textFirst_eq (side : Side) (nodes : List Node) :
    textFirst nodes = ((fillers nodes).map Piece.text).map (Piece.code side) := by
  cases nodes with
  | nil => cases side <;> rfl
  | cons node _ => cases node <;> cases side <;> rfl

private theorem flatMap_texts_fillers (nodes : List Node) :
    ((fillers nodes).map Piece.text).flatMap Piece.texts = fillers nodes := by
  unfold fillers
  split <;> rfl

/-- Pieces of a text, after an empty text where none comes first. -/
theorem ArePieces.plus {texts marked plain : List String} (nodes : List Node)
    (h : ArePieces texts marked plain) :
    IsPiece (fillers nodes ++ texts) (Code.plus (textFirst nodes ++ marked))
      (Code.plus (textFirst nodes ++ plain)) := by
  obtain ⟨l, rfl, rfl, ht⟩ := h
  have code (side : Side) :
      (Piece.sequence .plus ((fillers nodes).map .text ++ l)).code side =
        Code.plus (textFirst nodes ++ l.map (Piece.code side)) := by
    rw [Piece.code_sequence, List.map_append, ← textFirst_eq]
    rfl
  refine ⟨_, code .marked, code .plain, ?_⟩
  rw [Piece.texts_sequence, List.flatMap_append, flatMap_texts_fillers, ht]

theorem IsPiece.cons {text texts plain marked : List String} {a b : String}
    (head : IsPiece text a b) (tail : ArePieces texts marked plain) :
    ArePieces (text ++ texts) (a :: marked) (b :: plain) := by
  obtain ⟨p, rfl, rfl, rfl⟩ := head
  obtain ⟨l, rfl, rfl, rfl⟩ := tail
  exact ⟨p :: l, rfl, rfl, rfl⟩

/-- A child that is no literal is one piece. -/
theorem rendersAll_cons_of_renders {child : Node} {rest : List Node}
    (notLiteral : ∀ token text, child ≠ .literal token text)
    (head : Renders
      ((value marked child).map fun code => if child.isFunction then marked code else code)
      (value id child) (texts child))
    (tail : RendersAll (pieces marked rest) (pieces id rest) (pieceTexts rest)) :
    RendersAll (pieces marked (child :: rest)) (pieces id (child :: rest))
      (pieceTexts (child :: rest)) := by
  -- The marks are put on within the step before the one that reads the other children.
  have moved : pieces marked (child :: rest) =
      ((value marked child).map fun code => if child.isFunction then marked code else code) >>=
        fun code => pieces marked rest >>= fun more => pure (code :: more) := by
    rw [pieces]
    · cases value marked child <;> rfl
    · exact notLiteral
  rw [moved, pieces, pieceTexts]
  · refine head.bind fun a b piece => tail.bind fun marked plain pieces => .ok ?_
    rw [id_eq, ite_self]
    exact piece.cons pieces
  all_goals exact notLiteral

/-- The pieces of quoted text with one more child in front. -/
theorem rendersAll_cons {child : Node} {rest : List Node}
    (head : Renders (value marked child) (value id child) (texts child))
    (tail : RendersAll (pieces marked rest) (pieces id rest) (pieceTexts rest)) :
    RendersAll (pieces marked (child :: rest)) (pieces id (child :: rest))
      (pieceTexts (child :: rest)) := by
  -- Only a function stands between marks, so only there the piece is another one.
  have plainly (other : child.isFunction = false) : Renders
      ((value marked child).map fun code => if child.isFunction then marked code else code)
      (value id child) (texts child) := by
    have unchanged : (value marked child).map (fun code => code) = value marked child :=
      congrFun Except.map_id _
    simpa [other, unchanged] using head
  cases child with
  | literal token text =>
    rw [pieces, pieces, pieceTexts]
    refine tail.bind fun marked plain pieces => .ok ?_
    split
    · exact pieces
    · exact IsPiece.cons ⟨.text text, rfl, rfl, rfl⟩ pieces
  | block form kind token children =>
    refine rendersAll_cons_of_renders nofun ?_ tail
    cases form with
    | quote => exact plainly rfl
    | function =>
      rw [value, value, texts]
      rcases ofFunctionNode_cases (.block .function kind token children) token children with
        ⟨e, failed⟩ | ⟨f, name, done⟩
      · rw [failed]
        exact .error e
      · rw [done, name]
        -- The call is put between marks in the one code and stays as it is in the other one.
        refine .ok ⟨(callOf f).between, ?_, code_callOf .plain f, texts_callOf f⟩
        exact congrArg marked (code_callOf .marked f)
  | _ => exact rendersAll_cons_of_renders nofun (plainly rfl) tail

mutual

theorem renders_value : ∀ node : Node, Renders (value marked node) (value id node) (texts node)
  | .literal _ text => by
    rw [value, value, texts]
    exact .ok ⟨.text text, rfl, rfl, rfl⟩
  | .block .function kind token children => by
    rw [value, value, texts]
    rcases ofFunctionNode_cases (.block .function kind token children) token children with
      ⟨e, failed⟩ | ⟨f, name, done⟩
    · rw [failed]
      exact .error e
    · rw [done, name]
      exact .ok ⟨(callOf f).piece, code_callOf .marked f, code_callOf .plain f, texts_callOf f⟩
  | .block .quote _ _ children => by
    rw [value, value, texts]
    split
    · exact (renders_pieces children).bind fun _ _ pieces => .ok (pieces.plus children)
    · exact .ok ⟨.text (Node.literalTexts children), rfl, rfl, rfl⟩
  | .closing _ _ _ => by
    rw [value, value]
    exact .error _
  | .unary _ _ none => by
    rw [value, value]
    exact .error _
  | .unary operator _ (some operand) => by
    rw [value, value, texts]
    refine (renders_value operand).bind ?_
    rintro _ _ ⟨p, rfl, rfl, ht⟩
    refine .ok ⟨(helper _ (isWord_unaryHelper operator) p).piece, code_helper .marked _ _ p,
      code_helper .plain _ _ p, ?_⟩
    rw [texts_helper, ht]
  | .binary _ _ none _ => by
    rw [value, value]
    exact .error _
  | .binary _ _ (some _) none => by
    rw [value, value]
    exact .error _
  | .binary operator _ (some left) (some right) => by
    rw [value, value, texts]
    refine (renders_value left).bind ?_
    rintro _ _ ⟨p, rfl, rfl, ht⟩
    refine (renders_value right).bind ?_
    rintro _ _ ⟨q, rfl, rfl, ht'⟩
    refine .ok ⟨(comparison operator p q).piece, code_comparison .marked operator p q,
      code_comparison .plain operator p q, ?_⟩
    rw [texts_comparison, ht, ht']
  | .logical _ _ none _ => by
    rw [value, value]
    exact .error _
  | .logical _ _ (some _) none => by
    rw [value, value]
    exact .error _
  | .logical operator _ (some left) (some right) => by
    rw [value, value, texts]
    refine (renders_value left).bind ?_
    rintro _ _ ⟨p, rfl, rfl, ht⟩
    refine (renders_value right).bind ?_
    rintro _ _ ⟨q, rfl, rfl, ht'⟩
    -- Operands that are joined themselves stand between parentheses.
    have code (side : Side) :
        (Piece.join (.logical operator) (operandPiece left p) (operandPiece right q)).code side =
          s!"{asOperand left (p.code side)} {operator.symbol} {asOperand right (q.code side)}" := by
      rw [Piece.code_join, code_operandPiece, code_operandPiece, Joint.logical]
      simp only [← String.append_assoc]
      rfl
    exact .ok ⟨_, code .marked, code .plain, by simp [ht, ht']⟩
  | .number _ n _ => by
    rw [value, value]
    exact .ok ⟨.word n.shown (isWord_shown n), rfl, rfl, Piece.texts_word _ _⟩
  | .boolean token => by
    rw [value, value]
    exact .ok ⟨.word _ (isWord_boolShown (Node.truth token)), rfl, rfl, Piece.texts_word _ _⟩
  | .null _ => by
    rw [value, value]
    exact .ok ⟨.word "null" (by decide), rfl, rfl, rfl⟩

theorem renders_pieces : ∀ nodes : List Node,
    RendersAll (pieces marked nodes) (pieces id nodes) (pieceTexts nodes)
  | [] => by
    rw [pieces, pieces, pieceTexts]
    exact .ok ⟨[], rfl, rfl, rfl⟩
  | child :: rest => rendersAll_cons (renders_value child) (renders_pieces rest)

end

private theorem renders_condition (node : Node) :
    Renders (condition marked node) (condition id node) (texts node) := by
  refine (renders_value node).map ?_
  rintro _ _ ⟨p, rfl, rfl, ht⟩
  refine ⟨conditionPiece node p, code_conditionPiece .marked node p,
    code_conditionPiece .plain node p, ?_⟩
  rw [texts_conditionPiece, ht]

/-! ## Lists of nodes -/

private theorem renders_mapM {f g : Node → Except Problem String}
    (h : ∀ node, Renders (f node) (g node) (texts node)) (nodes : List Node) :
    RendersAll (nodes.mapM f) (nodes.mapM g) (nodes.flatMap texts) := by
  induction nodes with
  | nil => exact .ok ⟨[], rfl, rfl, rfl⟩
  | cons node rest ih =>
    rw [List.mapM_cons, List.mapM_cons, List.flatMap_cons]
    exact (h node).bind fun _ _ piece => ih.bind fun _ _ pieces => .ok (piece.cons pieces)

theorem renders_template (nodes : List Node) :
    Renders (templateCode marked nodes) (templateCode id nodes) (templateTexts nodes) := by
  cases nodes with
  | nil => exact .ok ⟨.text "", rfl, rfl, rfl⟩
  | cons node rest =>
    exact (renders_mapM renders_value _).bind fun _ _ pieces => .ok (pieces.plus (node :: rest))

theorem renders_clauses (nodes : List Node) :
    Renders (clausesCode marked nodes) (clausesCode id nodes) (clausesTexts nodes) := by
  cases nodes with
  | nil => exact .ok ⟨.word "false" (by decide), rfl, rfl, rfl⟩
  | cons node rest =>
    refine (renders_mapM renders_condition (node :: rest)).bind ?_
    rintro _ _ ⟨l, rfl, rfl, ht⟩
    have joint : " && " = (Joint.logical .and).code := by decide
    rw [joint]
    refine .ok ⟨.sequence (.logical .and) l, Piece.code_sequence _ .marked l,
      Piece.code_sequence _ .plain l, ?_⟩
    rw [Piece.texts_sequence, ht]
    rfl

end MessageExpr.Code
