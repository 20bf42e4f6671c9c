import MessageExpr.Node.Basic

/-!
# Flat nodes

Each token of a text becomes a piece: a node of its own, or text that joins its neighbours in a
literal.

## Main definitions

* `Piece` — what a token becomes
* `Piece.gather` — the flat nodes of pieces
-/

namespace MessageExpr

/-- What a token becomes. -/
inductive Piece where
  | text (token : Token)
  | node (node : Node)

namespace Piece

/-- The flat nodes of pieces. Neighbouring texts form one literal, at the token of the first. -/
def gather : List Piece → List Node
  | [] => []
  | .node one :: rest => one :: gather rest
  | .text first :: rest =>
    -- A literal that was not made from the next token stays apart.
    match rest, gather rest with
    | .text _ :: _, .literal _ more :: nodes => .literal first (first.text ++ more) :: nodes
    | _, nodes => .literal first first.text :: nodes

end Piece

end MessageExpr
