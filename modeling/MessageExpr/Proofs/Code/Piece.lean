import MessageExpr.Proofs.Code.Marks
import MessageExpr.Proofs.Code.Signs

/-!
# Pieces of generated code

A piece is code as it is written first, with marks in it, together with the code that it stands
for and the signs of that code. Pieces are put together the way code is, and every piece carries
the proof that its code is read as its signs, that its parentheses are closed, and that its marks
can be taken out as long as its texts are clean.

## Main definitions

* `IsWord` — code that is one word
* `Joint` — what stands between two values
* `Piece` — code with and without marks, and its signs
* `Piece.word`, `Piece.text`, `Piece.join`, `Piece.call` — the ways in which code is put together
* `Call` — a word, or a word before arguments, which may stand between marks
-/

namespace MessageExpr.Code

/-- Whether a character may stand in a word of code. -/
def isWordChar (c : Char) : Bool := c.isAlphanum || c == '.' || c == '!' || c == '-'

/-- Code that is one word, or empty. -/
def IsWord (code : String) : Prop := ∀ c ∈ code.toList, isWordChar c = true

instance (code : String) : Decidable (IsWord code) := List.decidableBAll _ code.toList

theorem IsWord.notMem {code : String} (h : IsWord code) {c : Char} (hc : isWordChar c = false) :
    c ∉ code.toList := by
  intro mem
  rw [h c mem] at hc
  cases hc

theorem IsWord.reads {code : String} (h : IsWord code) : Reads code (Sign.chars code) :=
  reads_chars (h.notMem rfl) (h.notMem rfl) (h.notMem rfl)

theorem isJoint_opening : IsJoint "(" := by decide

theorem isJoint_closing : IsJoint ")" := by decide

/-! ## Joints -/

/-- What stands between two values. -/
structure Joint where
  code : String
  signs : List Sign
  isJoint : IsJoint code
  reads : Reads code signs
  balanced : Balanced signs
  noTexts : Sign.texts signs = []

namespace Joint

/-- The joint of arguments. -/
def comma : Joint where
  code := ", "
  signs := Sign.chars ", "
  isJoint := by decide
  reads := reads_chars (by decide) (by decide) (by decide)
  balanced := .chars (by decide) (by decide)
  noTexts := Sign.texts_chars _

/-- The joint of the pieces of a text. -/
def plus : Joint where
  code := " + "
  signs := Sign.chars " + "
  isJoint := by decide
  reads := reads_chars (by decide) (by decide) (by decide)
  balanced := .chars (by decide) (by decide)
  noTexts := Sign.texts_chars _

/-- The joint of conditions. -/
def logical (o : LogicalOperator) : Joint where
  code := " " ++ (o.symbol ++ " ")
  signs := [.char ' ', .operator o, .char ' ']
  isJoint := by cases o <;> decide
  reads := by
    have space : Reads " " [.char ' '] := reads_chars (by decide) (by decide) (by decide)
    exact space.append ((reads_operator o).append space)
  balanced := .sign nofun nofun (.sign nofun nofun (.sign nofun nofun .nil))
  noTexts := rfl

end Joint

/-! ## Pieces -/

/-- Whether code is looked at with the marks in it or without them. -/
inductive Side where
  | marked
  | plain

/-- Code with marks, the code it stands for, and the signs of that. -/
structure Piece where
  marked : String
  plain : String
  signs : List Sign
  reads : Reads plain signs
  balanced : Balanced signs
  comesTo : ComesTo marked plain (Sign.texts signs)

namespace Piece

/-- The code of a piece, with marks or without them. -/
def code (side : Side) (p : Piece) : String :=
  match side with
  | .marked => p.marked
  | .plain => p.plain

/-- The texts of the string literals of a piece. -/
def texts (p : Piece) : List String := Sign.texts p.signs

/-- A word. -/
def word (code : String) (h : IsWord code) : Piece where
  marked := code
  plain := code
  signs := Sign.chars code
  reads := h.reads
  balanced := .chars (h.notMem rfl) (h.notMem rfl)
  comesTo := by
    rw [Sign.texts_chars]
    exact .noQuote (h.notMem rfl)

/-- A string literal. -/
def text (t : String) : Piece where
  marked := quoted t
  plain := quoted t
  signs := [.text t]
  reads := reads_quoted t
  balanced := .text t
  comesTo := .quoted t

/-- Two pieces with a joint between them. -/
def join (joint : Joint) (p q : Piece) : Piece where
  marked := p.marked ++ (joint.code ++ q.marked)
  plain := p.plain ++ (joint.code ++ q.plain)
  signs := p.signs ++ (joint.signs ++ q.signs)
  reads := p.reads.append (joint.reads.append q.reads)
  balanced := p.balanced.append (joint.balanced.append q.balanced)
  comesTo := by
    simp only [Sign.texts_append, joint.noTexts, List.nil_append]
    exact p.comesTo.append joint.isJoint q.comesTo

/-- A piece between parentheses. -/
def group (p : Piece) : Piece where
  marked := "(" ++ (p.marked ++ ")")
  plain := "(" ++ (p.plain ++ ")")
  signs := .char '(' :: p.signs ++ [.char ')']
  reads := by
    have opening : Reads "(" [.char '('] := reads_chars (by decide) (by decide) (by decide)
    have closing : Reads ")" [.char ')'] := reads_chars (by decide) (by decide) (by decide)
    exact opening.append (p.reads.append closing)
  balanced := .group p.balanced .nil
  comesTo := by
    simp only [List.cons_append, Sign.texts_char, Sign.texts_append, Sign.texts_nil,
      List.append_nil]
    exact .after isJoint_opening (.before isJoint_closing p.comesTo)

/-- A word before a piece between parentheses. -/
def call (name : String) (h : IsWord name) (p : Piece) : Piece where
  marked := name ++ ("(" ++ (p.marked ++ ")"))
  plain := name ++ ("(" ++ (p.plain ++ ")"))
  signs := Sign.chars name ++ p.group.signs
  reads := (word name h).reads.append p.group.reads
  balanced := (word name h).balanced.append p.group.balanced
  comesTo := by
    have inside : ComesTo (p.marked ++ ")") (p.plain ++ ")") (Sign.texts p.group.signs) := by
      simpa [group] using ComesTo.before isJoint_closing p.comesTo
    rw [Sign.texts_append]
    exact (word name h).comesTo.append isJoint_opening inside

section

variable (side : Side) {name : String} (h : IsWord name) (joint : Joint) (p q : Piece)

@[simp] theorem code_word : (word name h).code side = name := by cases side <;> rfl

@[simp] theorem code_text (t : String) : (text t).code side = quoted t := by cases side <;> rfl

@[simp] theorem code_join :
    (join joint p q).code side = p.code side ++ (joint.code ++ q.code side) := by
  cases side <;> rfl

@[simp] theorem code_group : p.group.code side = "(" ++ (p.code side ++ ")") := by
  cases side <;> rfl

@[simp] theorem code_call : (call name h p).code side = name ++ ("(" ++ (p.code side ++ ")")) := by
  cases side <;> rfl

end

@[simp] theorem texts_word (code : String) (h : IsWord code) : (word code h).texts = [] :=
  Sign.texts_chars code

@[simp] theorem texts_text (t : String) : (text t).texts = [t] := rfl

@[simp] theorem texts_join (joint : Joint) (p q : Piece) :
    (join joint p q).texts = p.texts ++ q.texts := by
  simp [texts, join, joint.noTexts]

@[simp] theorem texts_group (p : Piece) : p.group.texts = p.texts := by
  simp [texts, group]

@[simp] theorem texts_call (name : String) (h : IsWord name) (p : Piece) :
    (call name h p).texts = p.texts := by
  simp [texts, call, group]

end Piece

/-! ## Calls -/

/-- A word, or a word before arguments between parentheses. -/
structure Call where
  name : String
  isWord : IsWord name
  arguments : Option Piece

namespace Call

/-- A call as code. -/
def piece (c : Call) : Piece :=
  match c.arguments with
  | none => .word c.name c.isWord
  | some p => .call c.name c.isWord p

/-- What stands between marks comes to the code of the call. -/
theorem comesTo_marked (c : Call) :
    ComesTo (marked c.piece.marked) c.piece.plain (Sign.texts c.piece.signs) := by
  obtain ⟨name, isWord, _ | p⟩ := c
  · have := ComesTo.marked (a := name) (isWord.notMem rfl) (isWord.notMem rfl)
    simpa [piece, Piece.word] using this
  -- The parentheses are joints, so that each mark has a word of its own on its inner side: the
  -- name, or nothing.
  · have start : ComesTo (markStart ++ name) name [] := .start (isWord.notMem rfl)
    have stop : ComesTo (p.marked ++ (")" ++ ("" ++ markEnd))) (p.plain ++ (")" ++ "")) _ :=
      p.comesTo.append isJoint_closing (.stop (by decide) (by decide))
    have := start.append isJoint_opening stop
    simpa [piece, Piece.call, Piece.group, marked, String.append_assoc] using this

/-- A call between marks. -/
def between (c : Call) : Piece :=
  { c.piece with
    marked := marked c.piece.marked
    comesTo := c.comesTo_marked }

@[simp] theorem texts_between (c : Call) : c.between.texts = c.piece.texts := rfl

end Call

end MessageExpr.Code
