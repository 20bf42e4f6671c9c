import MessageExpr.Node.Flat
import MessageExpr.Node.Link

/-!
# Nested blocks

What block linking makes of a flat list of nodes is a relation between the flat list and the
nested one: an opened block, what stands in it, and its closing node are one nested block.

## Main definitions

* `Nested` — a flat list of nodes and the nested list that it stands for
* `Nest.addAll` — adds nodes to the innermost open block, or to the finished nodes

## Main results

* `linkBlocks_of_nested` — block linking gives the nested list
* `gather_append_node` — literals do not join across a node
-/

namespace MessageExpr

/-- Whether a node opens or closes a block. -/
def Node.isMark : Node → Bool
  | .block _ _ _ _ => true
  | .closing _ _ _ => true
  | _ => false

/-- The flat list stands for the nested one. -/
inductive Nested : List Node → List Node → Prop where
  | nil : Nested [] []
  | node {n flat nested} : n.isMark = false → Nested flat nested →
      Nested (n :: flat) (n :: nested)
  | block {form form' kind token stop inner children flat nested} :
      (∀ c ∈ children, c.isContent = true) → Nested inner children → Nested flat nested →
      Nested (.block form kind token [] :: inner ++ .closing form' kind stop :: flat)
        (.block kind.form kind token children :: nested)

/-! ## Block linking -/

/-- Adds nodes to the innermost open block, or to the finished nodes. -/
def Nest.addAll (nest : Nest) (nodes : List Node) : Nest :=
  match nest.frames with
  | [] => ⟨nest.done ++ nodes, []⟩
  | frame :: outer => ⟨nest.done, { frame with children := frame.children ++ nodes } :: outer⟩

theorem Nest.addAll_nil (nest : Nest) : nest.addAll [] = nest := by
  obtain ⟨done, frames⟩ := nest
  cases frames <;> simp [addAll]

/-- A node can be added where its kind is allowed. -/
theorem Nest.add_eq_ok (nest : Nest) (n : Node)
    (allowed : nest.frames = [] ∨ n.isContent = true) : nest.add n = .ok (nest.addAll [n]) := by
  obtain ⟨done, frames⟩ := nest
  cases frames with
  | nil => rfl
  | cons frame outer => simp [add, addAll, allowed.resolve_left (by simp)]

theorem Nest.addAll_cons (nest : Nest) (n : Node) (nodes : List Node) :
    (nest.addAll [n]).addAll nodes = nest.addAll (n :: nodes) := by
  obtain ⟨done, frames⟩ := nest
  cases frames <;> simp [addAll]

theorem Nest.frames_addAll (nest : Nest) (nodes : List Node) :
    (nest.addAll nodes).frames = [] ↔ nest.frames = [] := by
  obtain ⟨done, frames⟩ := nest
  cases frames <;> simp [addAll]

theorem Nest.step_of_isMark_eq_false (nest : Nest) {n : Node} (h : n.isMark = false) :
    nest.step n = nest.add n := by
  cases n <;> first | rfl | cases h

/-- Going through a flat list adds the nested nodes. -/
theorem foldlM_step_of_nested {flat nested : List Node} (h : Nested flat nested) (nest : Nest)
    (allowed : nest.frames = [] ∨ ∀ n ∈ nested, n.isContent = true) :
    flat.foldlM Nest.step nest = .ok (nest.addAll nested) := by
  induction h generalizing nest with
  | nil =>
    rw [Nest.addAll_nil]
    rfl
  | @node n flat nested plain _ ih =>
    have head : nest.step n = .ok (nest.addAll [n]) := by
      rw [nest.step_of_isMark_eq_false plain]
      exact nest.add_eq_ok n (allowed.imp_right fun all => all n (by simp))
    have rest := ih (nest.addAll [n])
      (by
        rw [Nest.frames_addAll]
        exact allowed.imp_right fun all m mem => all m (by simp [mem]))
    rw [List.foldlM_cons, head]
    exact rest.trans (by rw [Nest.addAll_cons])
  | @block form form' kind token stop inner children flat nested content _ _ ihInner ihFlat =>
    -- The children go into a frame of their own, which the end of the block turns into a node.
    let opened : Nest := ⟨nest.done, ⟨kind, token, []⟩ :: nest.frames⟩
    let closed : Node := .block kind.form kind token children
    have inside := ihInner opened (.inr content)
    have close : (opened.addAll children).step (.closing form' kind stop) =
        .ok (nest.addAll [closed]) := by
      have := nest.add_eq_ok closed
        (allowed.imp_right fun all => all closed (by simp [closed]))
      simpa [opened, closed, Nest.addAll, Nest.step] using this
    have rest := ihFlat (nest.addAll [closed])
      (by
        rw [Nest.frames_addAll]
        exact allowed.imp_right fun all m mem => all m (by simp [mem]))
    have start : nest.step (.block form kind token []) = .ok opened := rfl
    rw [List.cons_append, List.foldlM_cons, start]
    change (inner ++ .closing form' kind stop :: flat).foldlM Nest.step opened = _
    rw [List.foldlM_append, inside]
    change (Node.closing form' kind stop :: flat).foldlM Nest.step (opened.addAll children) = _
    rw [List.foldlM_cons, close]
    exact rest.trans (by rw [Nest.addAll_cons])

/-- Block linking gives the nested list. -/
theorem linkBlocks_of_nested {flat nested : List Node} (h : Nested flat nested) :
    linkBlocks flat = .ok nested := by
  rw [linkBlocks, foldlM_step_of_nested h ⟨[], []⟩ (.inl rfl)]
  simp [bind, Except.bind, Nest.finish, Nest.addAll]

/-! ## Literals -/

/-- Puts the text of a token in front of nodes: it joins a literal that comes first. -/
def Node.joinText (token : Token) : List Node → List Node
  | .literal _ text :: rest => .literal token (token.text ++ text) :: rest
  | nodes => .literal token token.text :: nodes

theorem Nested.joinText {flat nested : List Node} (h : Nested flat nested) (token : Token) :
    Nested (Node.joinText token flat) (Node.joinText token nested) := by
  cases h with
  | nil => exact .node rfl .nil
  | @node n flat nested plain rest =>
    cases n with
    | literal => exact .node rfl rest
    | block | closing => cases plain
    | unary | binary | logical | number | boolean | null => exact .node rfl (.node plain rest)
  | block content inner rest => exact .node rfl (.block content inner rest)

namespace Piece

/-- A text gives a literal at its token. -/
theorem exists_gather_text (first : Token) (rest : List Piece) :
    ∃ text nodes, gather (.text first :: rest) = .literal first text :: nodes := by
  unfold gather
  split <;> exact ⟨_, _, rfl⟩

private theorem gather_text_text (first second : Token) (rest : List Piece) :
    gather (.text first :: .text second :: rest) =
      Node.joinText first (gather (.text second :: rest)) := by
  obtain ⟨text, nodes, literal⟩ := exists_gather_text second rest
  rw [gather.eq_def (.text first :: _)]
  simp only [literal]
  rfl

/-- Literals do not join across a node. -/
theorem gather_append_node (pieces more : List Piece) (n : Node) :
    gather (pieces ++ .node n :: more) = gather pieces ++ n :: gather more := by
  induction pieces with
  | nil => rfl
  | cons piece rest ih =>
    cases piece with
    | node one => simp [gather, ih]
    | text first =>
      cases rest with
      | nil => rfl
      | cons next rest =>
        cases next with
        | node one =>
          simp only [List.cons_append, gather, List.cons.injEq, true_and] at ih ⊢
          exact ih
        | text second =>
          -- The text after the first one has become a literal already.
          obtain ⟨text, nodes, literal⟩ := exists_gather_text second rest
          simp only [List.cons_append] at ih ⊢
          rw [gather_text_text, gather_text_text, ih, literal]
          rfl

/-- A text joins a literal that was made from texts. -/
theorem gather_text (first : Token) (rest : List Piece)
    (h : ∀ token text, rest.head? ≠ some (.node (.literal token text))) :
    gather (.text first :: rest) = Node.joinText first (gather rest) := by
  cases rest with
  | nil => rfl
  | cons next rest =>
    cases next with
    | text second => exact gather_text_text first second rest
    | node one =>
      cases one with
      | literal token text => exact absurd rfl (h token text)
      | _ => rfl

end Piece

end MessageExpr
