import MessageExpr.Node.Basic

/-!
# Linking nodes

Each step maps a list of nodes to a list of nodes. The first step nests what stands between an
opened block and its closing node. The other steps give the operators their operands: a unary
operator takes the node before it, a binary or logical one also the node after it. An operator
that has a left operand already is left alone.

## Main definitions

* `Nest`, `linkBlocks` — nests blocks, with the blocks that are open so far as state
* `linkUnary` — links the operators after their operand
* `Joint`, `linkInfix` — links operators between their operands
* `linkBinary`, `linkLogical` — the two cases of `linkInfix`
-/

namespace MessageExpr

/-- An open block with the children found so far. -/
structure Frame where
  kind : BlockKind
  token : Token
  children : List Node

/-- The state of block linking: the finished nodes, and the open blocks, innermost first. -/
structure Nest where
  done : List Node
  frames : List Frame

namespace Nest

/-- Adds a node to the innermost open block, or to the finished nodes. -/
def add (nest : Nest) (node : Node) : Except Problem Nest :=
  match nest.frames with
  | [] => .ok ⟨nest.done ++ [node], []⟩
  | frame :: outer =>
    if node.isContent then
      .ok ⟨nest.done, { frame with children := frame.children ++ [node] } :: outer⟩
    else .error ⟨.misplaced node.token frame.kind, node.token.index⟩

/-- Opens a block, closes one, or adds a node. -/
def step (nest : Nest) : Node → Except Problem Nest
  | .block _ kind token children => .ok ⟨nest.done, ⟨kind, token, children⟩ :: nest.frames⟩
  | .closing _ kind token =>
    match nest.frames with
    | [] => .error ⟨.unstarted token, token.index⟩
    | frame :: outer =>
      -- The block around, if there is one, gets the finished block as a child.
      if frame.kind = kind then
        add ⟨nest.done, outer⟩ (.block kind.form kind frame.token frame.children)
      else .error ⟨.crossed token frame.kind frame.token.index, token.index⟩
  | node => nest.add node

/-- The finished nodes, when no block is open. -/
def finish (nest : Nest) : Except Problem (List Node) :=
  match nest.frames with
  | [] => .ok nest.done
  | frame :: _ => .error ⟨.unended frame.kind, frame.token.index⟩

end Nest

/-- Nests what stands between opened blocks and their closing nodes. -/
def linkBlocks (nodes : List Node) : Except Problem (List Node) := do
  let nest ← nodes.foldlM Nest.step ⟨[], []⟩
  nest.finish

/-- Links the unary operators of a list that follows the nodes `done`, nearest first. -/
def linkUnaryAfter (done : List Node) : List Node → Except Problem (List Node)
  | [] => .ok done.reverse
  | .unary operator token none :: rest =>
    match done with
    | [] => .error ⟨.noOperand .unary operator.symbol .left, token.index⟩
    | left :: before =>
      if left.isFunction then
        linkUnaryAfter (.unary operator token (some left) :: before) rest
      else .error ⟨.badOperand .unary operator.symbol .left left.shown, token.index⟩
  | node :: rest => linkUnaryAfter (node :: done) rest

/-- Gives each unary operator the function before it. -/
def linkUnary (nodes : List Node) : Except Problem (List Node) := linkUnaryAfter [] nodes

/-- An operator between two operands that it does not have yet. -/
structure Joint where
  group : OperatorGroup
  symbol : String
  index : Nat
  allowsLeft : Node → Bool
  allowsRight : Node → Bool
  join : Node → Node → Node

namespace Joint

/-- The problem of a missing operand. -/
def missing (joint : Joint) (side : Side) : Problem :=
  ⟨.noOperand joint.group joint.symbol side, joint.index⟩

/-- The problem of an operand that is not allowed. -/
def refused (joint : Joint) (side : Side) (operand : Node) : Problem :=
  ⟨.badOperand joint.group joint.symbol side operand.shown, joint.index⟩

end Joint

/-- Links the operators of a list that follows the nodes `done`, nearest first. -/
def linkInfixAfter (joint? : Node → Option Joint) (done : List Node) :
    List Node → Except Problem (List Node)
  | [] => .ok done.reverse
  | node :: rest =>
    match joint? node with
    | none => linkInfixAfter joint? (node :: done) rest
    | some joint =>
      match done with
      | [] => .error (joint.missing .left)
      | left :: before =>
        -- The left operand is judged before the right one is looked for.
        if !joint.allowsLeft left then .error (joint.refused .left left)
        else
          match rest with
          | [] => .error (joint.missing .right)
          | right :: rest =>
            if !joint.allowsRight right then .error (joint.refused .right right)
            else linkInfixAfter joint? (joint.join left right :: before) rest

/-- Gives each operator of a group the nodes on both sides of it, from left to right. -/
def linkInfix (joint? : Node → Option Joint) (nodes : List Node) :
    Except Problem (List Node) :=
  linkInfixAfter joint? [] nodes

namespace Node

/-- Whether a node is a comparison. -/
def isComparison : Node → Bool
  | binary _ _ _ _ => true
  | _ => false

/-- Whether a node closes a block. -/
def isClosing : Node → Bool
  | closing _ _ _ => true
  | _ => false

/-- A binary operator compares a value, or the outcome of a comparison, with a value that the
operator accepts. -/
def binaryJoint? : Node → Option Joint
  | binary operator token none _ => some
    { group := .binary
      symbol := operator.symbol
      index := token.index
      allowsLeft := fun node => node.parameter?.isSome || node.isComparison
      allowsRight := fun node => node.parameter?.any operator.accepts
      join := fun left right => binary operator token (some left) (some right) }
  | _ => none

/-- A logical operator joins anything but closing nodes. -/
def logicalJoint? : Node → Option Joint
  | logical operator token none _ => some
    { group := .logical
      symbol := operator.symbol
      index := token.index
      allowsLeft := fun node => !node.isClosing
      allowsRight := fun node => !node.isClosing
      join := fun left right => logical operator token (some left) (some right) }
  | _ => none

end Node

/-- Gives each binary operator its operands. -/
def linkBinary (nodes : List Node) : Except Problem (List Node) :=
  linkInfix Node.binaryJoint? nodes

/-- Gives each logical operator its operands. -/
def linkLogical (nodes : List Node) : Except Problem (List Node) :=
  linkInfix Node.logicalJoint? nodes

end MessageExpr
