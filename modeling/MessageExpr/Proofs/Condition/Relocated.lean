import MessageExpr.Proofs.Condition.Path
import MessageExpr.Proofs.Condition.Stages
import MessageExpr.Proofs.Node.Beside

/-!
# Conditions at other places

Where the tokens of a condition stand does not matter to what is made of them. When their places are
mapped to other ones, the places of the nodes are mapped in the same way, and nothing else changes.

## Main definitions

* `Step.relocated` — a step over a token at another place

## Main results

* `Row.relocated` — a row at other places has the same nodes there
* `linkOperators_relocated` — operators get the same operands at other places
* `Path.relocated` — a path leads over the same tokens at other places
-/

namespace MessageExpr.Condition

variable {place : Nat → Nat}

/-! ## Rows -/

theorem joinText_relocated (place : Nat → Nat) (token : Token) (nodes : List Node) :
    Node.joinText (token.relocated place) (nodes.map (Node.relocated place)) =
      (Node.joinText token nodes).map (Node.relocated place) := by
  match nodes with
  | [] => rfl
  | .literal _ _ :: _ => rfl
  | .block _ _ _ _ :: _ | .closing _ _ _ :: _ | .unary _ _ _ :: _ | .binary _ _ _ _ :: _
  | .logical _ _ _ _ :: _ | .number _ _ _ :: _ | .boolean _ :: _ | .null _ :: _ =>
    simp only [List.map_cons, Node.relocated, Node.joinText, Token.text_relocated]

/-- A block at other places has the same children there. -/
theorem Inside.relocated {stop : TokenKind} {tokens : List Token} {nodes : List Node}
    (h : Inside stop tokens nodes) (place : Nat → Nat) :
    Inside stop (tokens.map (Token.relocated place)) (nodes.map (Node.relocated place)) := by
  induction h with
  | nil => exact .nil
  | text other plain _ ih =>
    rw [← joinText_relocated]
    exact .text other plain ih
  | @function _ start _ _ close _ _ isStart isEnd _ _ inner ih =>
    have isStart' : (start.relocated place).kind = .functionStart := isStart
    have isEnd' : (close.relocated place).kind = .functionEnd := isEnd
    simpa [Node.relocated, Node.relocatedAll_eq] using Inside.function isStart' isEnd' inner ih

private theorem ofNumber_relocated (place : Nat → Nat) {token : Token} {negative : Bool}
    {node : Node}
    (made : Node.ofNumber token negative = .ok node) :
    Node.ofNumber (token.relocated place) negative = .ok (node.relocated place) := by
  simp only [Node.ofNumber, Token.text_relocated] at made ⊢
  split at made
  · cases made
    rfl
  · cases made

theorem ofUnary_relocated (place : Nat → Nat) {token : Token} {node : Node}
    (made : Node.ofUnary token = .ok node) :
    Node.ofUnary (token.relocated place) = .ok (node.relocated place) := by
  unfold Node.ofUnary at made ⊢
  rw [Token.text_relocated]
  split at made <;> cases made
  rfl

theorem Leaf.relocated {token : Token} {node : Node} (h : Leaf token node) (place : Nat → Nat) :
    Leaf (token.relocated place) (node.relocated place) := by
  unfold Leaf at h ⊢
  rw [Token.kind_relocated]
  split at h
  · exact congrArg _ h
  · exact congrArg _ h
  · exact ofNumber_relocated place h
  · exact ofUnary_relocated place h
  · unfold Node.ofBinary at h ⊢
    rw [Token.text_relocated]
    split at h <;> cases h
    rfl
  · unfold Node.ofLogical at h ⊢
    rw [Token.text_relocated]
    split at h <;> cases h
    rfl
  · exact h

/-- A row at other places has the same nodes there. -/
theorem Row.relocated {tokens : List Token} {nodes : List Node} (h : Row tokens nodes)
    (place : Nat → Nat) :
    Row (tokens.map (Token.relocated place)) (nodes.map (Node.relocated place)) := by
  induction h with
  | nil => exact .nil
  | space kind _ ih => exact .space kind ih
  | leaf leaf _ ih => exact .leaf (leaf.relocated place) ih
  | negative isSign kind made _ ih =>
    exact .negative isSign kind (ofNumber_relocated place made) ih
  | @function start _ _ close _ _ isStart isEnd inside _ ih =>
    have isStart' : (start.relocated place).kind = .functionStart := isStart
    have isEnd' : (close.relocated place).kind = .functionEnd := isEnd
    simpa [Node.relocated, Node.relocatedAll_eq] using
      Row.function isStart' isEnd' (inside.relocated place) ih
  | @quote start _ _ close _ _ isQuote same inside _ ih =>
    have isQuote' : (start.relocated place).kind.isQuote = true := isQuote
    have same' : (close.relocated place).kind = (start.relocated place).kind := same
    simpa [Node.relocated, Node.relocatedAll_eq] using
      Row.quote isQuote' same' (inside.relocated place) ih

/-- Operators get the same operands at other places. -/
theorem linkOperators_relocated (place : Nat → Nat) {flat nodes : List Node}
    (h : linkOperators flat = .ok nodes) :
    linkOperators (flat.map (Node.relocated place)) = .ok (nodes.map (Node.relocated place)) := by
  obtain ⟨unary, binary, linkedUnary, linkedBinary, linkedLogical⟩ := linkOperators_eq_ok.mp h
  exact linkOperators_eq_ok.mpr ⟨_, _, linkUnary_relocated place linkedUnary,
    linkBinary_relocated place linkedBinary, linkLogical_relocated place linkedLogical⟩

/-! ## Paths -/

/-- The step over the token with its place mapped to another one. -/
def Step.relocated (place : Nat → Nat) (step : Step) : Step :=
  { step with token := step.token.relocated place }

theorem tokens_relocated (place : Nat → Nat) (steps : List Step) :
    (steps.map (Step.relocated place)).map Step.token =
      (steps.map Step.token).map (Token.relocated place) := by
  rw [List.map_map, List.map_map]
  rfl

theorem Interior.relocated {stop : TokenKind} {filter : List TokenKind} {steps : List Step}
    (h : Interior stop filter steps) (place : Nat → Nat) :
    Interior stop filter (steps.map (Step.relocated place)) := by
  induction h with
  | close isStop => exact .close isStop
  | text other plain _ ih => exact .text other plain ih
  | function isStart _ _ ihInner ih =>
    rw [List.map_append]
    exact .function isStart ihInner ih

theorem Operand.relocated {start : Token} {more : List Step} (h : Operand start more)
    (place : Nat → Nat) : Operand (start.relocated place) (more.map (Step.relocated place)) := by
  cases h with
  | value mem => exact .value mem
  | negative isSign isNumber => exact .negative isSign isNumber
  | function isStart interior => exact .function isStart (interior.relocated place)
  | quote isQuote interior => exact .quote isQuote (interior.relocated place)

theorem Blank.relocated {steps : List Step} (h : Blank steps) (place : Nat → Nat) :
    Blank (steps.map (Step.relocated place)) := by
  intro s mem
  obtain ⟨step, memSteps, rfl⟩ := List.mem_map.mp mem
  exact h step memSteps

theorem Spaced.relocated {steps : List Step} (h : Spaced steps) (place : Nat → Nat) :
    Spaced (steps.map (Step.relocated place)) := by
  cases steps with
  | nil => exact h
  | cons step rest =>
    intro s mem
    obtain rfl := Option.some.inj mem
    exact h step rfl

/-- A path leads over the same tokens at other places. -/
theorem Path.relocated {whole : Bool} {steps : List Step} (h : Path whole steps)
    (place : Nat → Nat) : Path whole (steps.map (Step.relocated place)) := by
  induction h with
  | nil isWhole => exact .nil isWhole
  | space isSpace _ ih => exact .space isSpace ih
  | operand operand _ ih =>
    rw [List.map_append]
    exact .operand (operand.relocated place) ih
  | unary kind spaced _ ih => exact .unary kind (spaced.relocated place) ih
  | between mem blank nonempty allowed operand spaced _ ih =>
    rw [List.map_append, List.map_append]
    exact .between mem (blank.relocated place) (by simpa using nonempty) allowed
      (operand.relocated place) (spaced.relocated place) ih
  | bare hangs mem blank nonempty =>
    exact .bare hangs mem (blank.relocated place) (by simpa using nonempty)

end MessageExpr.Condition
