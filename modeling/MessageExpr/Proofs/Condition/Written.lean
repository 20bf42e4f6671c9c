import MessageExpr.Proofs.Condition.Grammar
import MessageExpr.Proofs.Node.Unplaced
import MessageExpr.Proofs.Token.Escaped
import MessageExpr.Value.Basic

/-!
# Conditions as they are written

The conditions that can be written with one space between their elements, as trees of their own
types: what may not be written cannot be built. A tree has a text, and the nodes that the text
stands for. The text can also be seen as a first atom and a list of segments, each after a space.

## Main definitions

* `Content` — the inside of quoted text or of a function
* `Atom`, `Operand`, `Comparison`, `Clause` — the parts of a condition, with `printed` for the text
  and `node` for the node at no place
* `printed` — the text of a list of clauses
* `Segment` — what stands between two spaces, an operator together with the atom after it

## Main results

* `Clause.printed_eq`, `printed_cons` — clauses are an atom with segments
* `Clause.fits` — operators stand before atoms that may follow them
-/

namespace MessageExpr.Written

/-! ## Blocks -/

/-- The quotes around quoted text. -/
inductive QuoteMark where
  | single
  | double

/-- The kind of token that opens and closes the quoted text. -/
def QuoteMark.kind : QuoteMark → TokenKind
  | single => .singleQuote
  | double => .doubleQuote

/-- The quote. -/
def QuoteMark.char : QuoteMark → Char
  | single => '\''
  | double => '"'

/-- The two ways in which a function is opened. -/
inductive CallMark where
  | short
  | long

/-- The text that opens a function. -/
def CallMark.text : CallMark → List Char
  | short => ['$', '\x7b']
  | long => ['$', 's', 'i', 'm', 'p', 'l', 'e', '\x7b']

/-- The inside of a block: texts, any of which may be empty, with one function between two of
them. -/
inductive Content where
  | text (t : List Char)
  | call (t : List Char) (mark : CallMark) (inner rest : Content)

/-- A token of a kind at no place. -/
def tokenOf (kind : TokenKind) (text : List Char) : Token := ⟨kind, String.ofList text, 0, 0⟩

/-- The literal of a text. An empty text has none. -/
def literal (t : List Char) : List Node :=
  if t.isEmpty then [] else [.plainLiteral (String.ofList t)]

namespace Content

/-- The text of the inside of a block. -/
def printed : Content → List Char
  | text t => escaped t
  | call t mark inner rest => escaped t ++ mark.text ++ inner.printed ++ '\x7d' :: rest.printed

/-- The children of the block. -/
def nodes : Content → List Node
  | text t => literal t
  | call t mark inner rest =>
    literal t ++
      .block .function .function (tokenOf .functionStart mark.text) inner.nodes :: rest.nodes

end Content

/-! ## Clauses -/

/-- The integer that digits stand for, after a minus sign or without one. -/
def signed (negative : Bool) (digits : List Char) : Int :=
  if negative then -(Nat.ofDigitChars 10 digits 0 : Int) else Nat.ofDigitChars 10 digits 0

/-- An integer in the range of 64 bits, written as digits that may stand after a minus sign. -/
structure IntegerText where
  negative : Bool
  digits : List Char
  nonempty : digits ≠ []
  isDigit : ∀ c ∈ digits, c.isDigit = true
  inRange : Int64.minValue.toInt ≤ signed negative digits ∧
    signed negative digits ≤ Int64.maxValue.toInt

/-- An operand that no operator is a part of. -/
inductive Atom where
  | quoted (mark : QuoteMark) (content : Content)
  | call (mark : CallMark) (content : Content)
  | integer (n : IntegerText)
  | boolean (b : Bool)
  | null

namespace Atom

/-- The text of an atom. -/
def printed : Atom → List Char
  | quoted mark content => mark.char :: (content.printed ++ [mark.char])
  | call mark content => mark.text ++ (content.printed ++ ['\x7d'])
  | integer n => (if n.negative then ['-'] else []) ++ n.digits
  | boolean b => (boolShown b).toList
  | null => "null".toList

/-- The node of an atom. -/
def node : Atom → Node
  | quoted mark content =>
    .block .quote (Condition.quoteKind mark.kind) (tokenOf mark.kind [mark.char]) content.nodes
  | call mark content =>
    .block .function .function (tokenOf .functionStart mark.text) content.nodes
  | integer n =>
    .number (tokenOf .numericValue n.digits) (.integer (Int64.ofInt (signed n.negative n.digits)))
      n.negative
  | boolean b => .boolean (tokenOf .booleanValue (boolShown b).toList)
  | null => .null (tokenOf .nullValue "null".toList)

/-- Whether an atom is a number after a minus sign. -/
def isNegative : Atom → Bool
  | integer n => n.negative
  | _ => false

end Atom

/-- An operand: an atom, or a function with an operator after it. -/
inductive Operand where
  | atom (a : Atom)
  | unary (mark : CallMark) (content : Content) (operator : UnaryOperator)

namespace Operand

/-- The text of an operand. -/
def printed : Operand → List Char
  | atom a => a.printed
  | unary mark content operator =>
    (Atom.call mark content).printed ++ ' ' :: operator.symbol.toList

/-- The node of an operand. -/
def node : Operand → Node
  | atom a => a.node
  | unary mark content operator =>
    .unary operator (tokenOf .unaryOperator operator.symbol.toList)
      (some (Atom.call mark content).node)

/-- The atom that an operand starts with. -/
def first : Operand → Atom
  | atom a => a
  | unary mark content _ => .call mark content

end Operand

/-- A comparison: an operand, or an operator between a comparison and an operand that the operator
accepts. -/
inductive Comparison where
  | operand (o : Operand)
  | compare (left : Comparison) (operator : BinaryOperator) (right : Operand)
    (accepted : right.node.parameter?.any operator.accepts = true)

namespace Comparison

/-- The text of a comparison. -/
def printed : Comparison → List Char
  | operand o => o.printed
  | compare left operator right _ =>
    left.printed ++ ' ' :: operator.symbol.toList ++ ' ' :: right.printed

/-- The node of a comparison. -/
def node : Comparison → Node
  | operand o => o.node
  | compare left operator right _ =>
    .binary operator (tokenOf .binaryOperator operator.symbol.toList) (some left.node)
      (some right.node)

/-- The atom that a comparison starts with. -/
def first : Comparison → Atom
  | operand o => o.first
  | compare left _ _ _ => left.first

end Comparison

/-- A clause: a comparison, or a logical operator between a clause and a comparison that does not
start with a negative number. -/
inductive Clause where
  | comparison (c : Comparison)
  | joined (left : Clause) (operator : LogicalOperator) (right : Comparison)
    (unsigned : right.first.isNegative = false)

namespace Clause

/-- The text of a clause. -/
def printed : Clause → List Char
  | comparison c => c.printed
  | joined left operator right _ =>
    left.printed ++ ' ' :: operator.symbol.toList ++ ' ' :: right.printed

/-- The node of a clause. -/
def node : Clause → Node
  | comparison c => c.node
  | joined left operator right _ =>
    .logical operator (tokenOf .logicalOperator operator.symbol.toList) (some left.node)
      (some right.node)

/-- The atom that a clause starts with. -/
def first : Clause → Atom
  | comparison c => c.first
  | joined left _ _ _ => left.first

end Clause

/-- The text of a list of clauses, with a space between two of them. -/
def printed (clauses : List Clause) : List Char :=
  List.intercalate [' '] (clauses.map Clause.printed)

/-! ## Segments -/

/-- The kind of token that an atom starts with. -/
def Atom.kind : Atom → TokenKind
  | quoted mark _ => mark.kind
  | call _ _ => .functionStart
  | integer n => if n.negative then .minus else .numericValue
  | boolean _ => .booleanValue
  | null => .nullValue

/-- What stands between two spaces: an atom, an operator after its operand, or an operator with
the atom after it. -/
inductive Segment where
  | atom (a : Atom)
  | unary (operator : UnaryOperator)
  | binary (operator : BinaryOperator) (right : Atom)
  | logical (operator : LogicalOperator) (right : Atom)

namespace Segment

/-- The text of a segment. -/
def printed : Segment → List Char
  | atom a => a.printed
  | unary operator => operator.symbol.toList
  | binary operator right => operator.symbol.toList ++ ' ' :: right.printed
  | logical operator right => operator.symbol.toList ++ ' ' :: right.printed

/-- The nodes of a segment before operators are linked. -/
def nodes : Segment → List Node
  | atom a => [a.node]
  | unary operator => [.unary operator (tokenOf .unaryOperator operator.symbol.toList) none]
  | binary operator right =>
    [.binary operator (tokenOf .binaryOperator operator.symbol.toList) none none, right.node]
  | logical operator right =>
    [.logical operator (tokenOf .logicalOperator operator.symbol.toList) none none, right.node]

/-- Whether the atom after an operator may stand there. -/
def Fits : Segment → Prop
  | binary operator right => right.kind ∈ Condition.rightKinds operator
  | logical _ right => right.isNegative = false
  | _ => True

end Segment

/-- The text of segments, each after a space. -/
def spaced (segments : List Segment) : List Char := segments.flatMap fun s => ' ' :: s.printed

/-- The segments of an operand after its first atom. -/
def Operand.rest : Operand → List Segment
  | atom _ => []
  | unary _ _ operator => [.unary operator]

/-- The segments of a comparison after its first atom. -/
def Comparison.rest : Comparison → List Segment
  | operand o => o.rest
  | compare left operator right _ => left.rest ++ .binary operator right.first :: right.rest

/-- The segments of a clause after its first atom. -/
def Clause.rest : Clause → List Segment
  | comparison c => c.rest
  | joined left operator right _ => left.rest ++ .logical operator right.first :: right.rest

/-- The segments of a list of clauses. -/
def segments (clauses : List Clause) : List Segment :=
  clauses.flatMap fun c => .atom c.first :: c.rest

theorem spaced_append (front back : List Segment) :
    spaced (front ++ back) = spaced front ++ spaced back :=
  List.flatMap_append

theorem spaced_cons (s : Segment) (rest : List Segment) :
    spaced (s :: rest) = ' ' :: s.printed ++ spaced rest :=
  List.flatMap_cons

theorem Operand.printed_eq (o : Operand) : o.printed = o.first.printed ++ spaced o.rest := by
  cases o <;> simp [printed, first, rest, spaced, Segment.printed]

theorem Comparison.printed_eq (c : Comparison) :
    c.printed = c.first.printed ++ spaced c.rest := by
  induction c with
  | operand o => exact o.printed_eq
  | compare left operator right accepted ih =>
    rw [printed, ih, right.printed_eq, rest, first, spaced_append, spaced_cons, Segment.printed]
    simp

/-- A clause is an atom with segments. -/
theorem Clause.printed_eq (c : Clause) : c.printed = c.first.printed ++ spaced c.rest := by
  induction c with
  | comparison c => exact c.printed_eq
  | joined left operator right unsigned ih =>
    rw [printed, ih, right.printed_eq, rest, first, spaced_append, spaced_cons, Segment.printed]
    simp

/-- A list of clauses is an atom with segments, too. -/
theorem printed_cons (c : Clause) (clauses : List Clause) :
    printed (c :: clauses) = c.first.printed ++ spaced (c.rest ++ segments clauses) := by
  induction clauses generalizing c with
  | nil => simp [printed, segments, List.intercalate, c.printed_eq]
  | cons d clauses ih =>
    have step : printed (c :: d :: clauses) = c.printed ++ ' ' :: printed (d :: clauses) := by
      simp [printed, List.intercalate]
    -- The first atom of a clause after others is a segment like any other.
    have split : segments (d :: clauses) = .atom d.first :: (d.rest ++ segments clauses) := by
      simp [segments]
    rw [step, ih, c.printed_eq, split, spaced_append c.rest, spaced_cons, Segment.printed]
    simp

/-! ## Which atoms follow an operator -/

private theorem mem_of_accepts {operator : BinaryOperator} (restricted : operator.supported? ≠ none)
    {p : Parameter} (accepted : operator.accepts p = true) :
    p ∈ [Parameter.literal, .literalWithFunction, .function] := by
  cases operator <;> first | exact absurd rfl restricted | (cases p <;> revert accepted <;> decide)

theorem Atom.kind_mem (a : Atom) : a.kind ∈ Condition.operandKinds := by
  cases a with
  | quoted mark content => cases mark <;> simp [kind, QuoteMark.kind, Condition.operandKinds]
  | integer n =>
    rw [kind]
    split <;> simp [Condition.operandKinds]
  | call | boolean | null => simp [kind, Condition.operandKinds]

theorem Atom.kind_ne (a : Atom) {kind : TokenKind} (other : kind ∉ Condition.operandKinds) :
    a.kind ≠ kind :=
  fun same => other (same ▸ a.kind_mem)

/-- What an operator accepts starts with an atom that may follow the operator. -/
theorem Operand.fits {operator : BinaryOperator} {o : Operand}
    (accepted : o.node.parameter?.any operator.accepts = true) :
    (Segment.binary operator o.first).Fits := by
  rw [Segment.Fits, Condition.rightKinds]
  cases supported : operator.supported? with
  | none => exact o.first.kind_mem
  | some kinds =>
    -- An operator with a list of operands takes blocks only, so no other atom can be accepted.
    have restricted : operator.supported? ≠ none := by simp [supported]
    cases o with
    | unary mark content o => simp [first, Atom.kind]
    | atom a =>
      cases a with
      | quoted mark content => cases mark <;> simp [first, Atom.kind, QuoteMark.kind]
      | call mark content => simp [first, Atom.kind]
      | integer n =>
        have mem := mem_of_accepts restricted accepted
        cases sign : n.negative <;> simp [sign] at mem
      | boolean b => exact absurd (mem_of_accepts restricted accepted) (by decide)
      | null => exact absurd (mem_of_accepts restricted accepted) (by decide)

theorem Operand.rest_fits (o : Operand) : ∀ s ∈ o.rest, s.Fits := by
  cases o <;> simp [rest, Segment.Fits]

theorem Comparison.fits (c : Comparison) : ∀ s ∈ c.rest, s.Fits := by
  induction c with
  | operand o => exact o.rest_fits
  | compare left operator right accepted ih =>
    intro s mem
    rcases List.mem_append.mp mem with mem | mem
    · exact ih s mem
    · rcases List.mem_cons.mp mem with rfl | mem
      · exact Operand.fits accepted
      · exact right.rest_fits s mem

/-- In a clause, operators stand before atoms that may follow them. -/
theorem Clause.fits (c : Clause) : ∀ s ∈ c.rest, s.Fits := by
  induction c with
  | comparison c => exact c.fits
  | joined left operator right unsigned ih =>
    intro s mem
    rcases List.mem_append.mp mem with mem | mem
    · exact ih s mem
    · rcases List.mem_cons.mp mem with rfl | mem
      · exact unsigned
      · exact right.fits s mem

theorem segments_fit (clauses : List Clause) : ∀ s ∈ segments clauses, s.Fits := by
  intro s mem
  obtain ⟨c, -, mem⟩ := List.mem_flatMap.mp mem
  rcases List.mem_cons.mp mem with rfl | mem
  · exact trivial
  · exact c.fits s mem

end MessageExpr.Written
