import MessageExpr.Node.Flat
import MessageExpr.Proofs.Node.Apart

/-!
# Problems that are traced to tokens

Every problem that is found when tokens are made into nodes and nodes are linked is at a token that
was there before, because nodes keep the tokens that they were made from. This is shown for each
step on its own: from nodes that were made from some tokens it makes nodes of the same kind, or it
fails at one of these tokens.

## Main definitions

* `Problem.IsAt` — a problem that is at one of some tokens
* `Node.MadeFrom` — a node that was made from some tokens
* `Traced` — a step with an outcome as it should be, or with a problem at one of some tokens

## Main results

* `Piece.madeFrom_gather` — putting texts together keeps the tokens
* `traced_linkBlocks`, `traced_linkUnary`, `traced_linkBinary`, `traced_linkLogical` — linking
-/

namespace MessageExpr

/-- Whether a fault is that the text has ended. -/
def Fault.reachesEnd : Fault → Bool
  | .expected _ found => found.isEnd
  | _ => false

/-- Whether a problem is at one of some tokens, and is not that the text has ended. -/
def Problem.IsAt (P : Token → Prop) (p : Problem) : Prop :=
  p.fault.reachesEnd = false ∧ ∃ token, P token ∧ token.index = p.index

/-! ## Steps -/

variable {α β : Type} {P : Token → Prop}

/-- Whether the outcome of a step is as it should be or, when there is a problem, this is at one of
some tokens. -/
def Traced (P : Token → Prop) (good : α → Prop) : Except Problem α → Prop
  | .ok a => good a
  | .error p => p.IsAt P

namespace Traced

variable {good : α → Prop} {good' : β → Prop}

/-- One step after another. -/
theorem bind {step : Except Problem α} {next : α → Except Problem β} (h : Traced P good step)
    (rest : ∀ a, good a → Traced P good' (next a)) : Traced P good' (step >>= next) := by
  cases step with
  | error p => exact h
  | ok a => exact rest a h

theorem map {step : Except Problem α} (h : Traced P good step) {f : α → β}
    (same : ∀ a, good a → good' (f a)) : Traced P good' (step.map f) := by
  cases step with
  | error p => exact h
  | ok a => exact same a h

theorem of_ok {step : Except Problem α} (h : Traced P good step) {a : α} (ok : step = .ok a) :
    good a := by
  subst ok
  exact h

theorem of_error {step : Except Problem α} (h : Traced P good step) {p : Problem}
    (failed : step = .error p) : p.IsAt P := by
  subst failed
  exact h

end Traced

/-! ## Nodes -/

/-- A node that was made from some tokens. -/
inductive Node.MadeFrom (P : Token → Prop) : Node → Prop where
  | literal {token text} : P token → MadeFrom P (.literal token text)
  | block {form kind token children} : P token → (∀ c ∈ children, MadeFrom P c) →
      MadeFrom P (.block form kind token children)
  | closing {form kind token} : P token → MadeFrom P (.closing form kind token)
  | unary {operator token left} : P token → (∀ n, left = some n → MadeFrom P n) →
      MadeFrom P (.unary operator token left)
  | binary {operator token left right} : P token → (∀ n, left = some n → MadeFrom P n) →
      (∀ n, right = some n → MadeFrom P n) → MadeFrom P (.binary operator token left right)
  | logical {operator token left right} : P token → (∀ n, left = some n → MadeFrom P n) →
      (∀ n, right = some n → MadeFrom P n) → MadeFrom P (.logical operator token left right)
  | number {token value negative} : P token → MadeFrom P (.number token value negative)
  | boolean {token} : P token → MadeFrom P (.boolean token)
  | null {token} : P token → MadeFrom P (.null token)

namespace Node

theorem MadeFrom.token {n : Node} (h : n.MadeFrom P) : P n.token := by
  cases h <;> assumption

/-! ### Nodes of single tokens -/

section ofToken

variable {token : Token} (h : P token)

include h

theorem traced_ofUnary : Traced P (MadeFrom P) (ofUnary token) := by
  unfold ofUnary
  split
  · exact MadeFrom.unary h nofun
  · exact ⟨rfl, token, h, rfl⟩

theorem traced_ofBinary : Traced P (MadeFrom P) (ofBinary token) := by
  unfold ofBinary
  split
  · exact MadeFrom.binary h nofun nofun
  · exact ⟨rfl, token, h, rfl⟩

theorem traced_ofLogical : Traced P (MadeFrom P) (ofLogical token) := by
  unfold ofLogical
  split
  · exact MadeFrom.logical h nofun nofun
  · exact ⟨rfl, token, h, rfl⟩

theorem traced_ofNumber (negative : Bool) : Traced P (MadeFrom P) (ofNumber token negative) := by
  unfold ofNumber
  simp only
  split
  · exact MadeFrom.number h
  · exact ⟨rfl, token, h, rfl⟩

end ofToken

end Node

open Node (MadeFrom)

/-! ## Pieces -/

/-- A piece that was made from some tokens. -/
def Piece.MadeFrom (P : Token → Prop) : Piece → Prop
  | .text token => P token
  | .node n => n.MadeFrom P

/-- A piece in front of others. -/
theorem Piece.traced_cons {piece : Piece} {more : Except Problem (List Piece)}
    (made : piece.MadeFrom P) (rest : Traced P (fun l => ∀ p ∈ l, Piece.MadeFrom P p) more) :
    Traced P (fun l => ∀ p ∈ l, Piece.MadeFrom P p) (do pure (piece :: (← more))) :=
  rest.bind fun _ others => List.forall_mem_cons.mpr ⟨made, others⟩

/-- A node in front of others, when it can be made. -/
theorem Piece.traced_cons_node {made : Except Problem Node} {more : Except Problem (List Piece)}
    (node : Traced P (Node.MadeFrom P) made)
    (rest : Traced P (fun l => ∀ p ∈ l, Piece.MadeFrom P p) more) :
    Traced P (fun l => ∀ p ∈ l, Piece.MadeFrom P p)
      (do let node ← made; let more ← more; pure (Piece.node node :: more)) :=
  node.bind fun _ made => Piece.traced_cons made rest

theorem Piece.madeFrom_gather {pieces : List Piece} (h : ∀ piece ∈ pieces, piece.MadeFrom P) :
    ∀ n ∈ gather pieces, n.MadeFrom P := by
  induction pieces with
  | nil => exact nofun
  | cons piece rest ih =>
    obtain ⟨head, others⟩ := List.forall_mem_cons.mp h
    have tail := ih others
    cases piece with
    | node n => exact List.forall_mem_cons.mpr ⟨head, tail⟩
    | text token =>
      rw [gather.eq_def]
      simp only
      split
      · rename_i same
        rw [same] at tail
        exact List.forall_mem_cons.mpr ⟨.literal head, (List.forall_mem_cons.mp tail).2⟩
      · exact List.forall_mem_cons.mpr ⟨.literal head, tail⟩

/-! ## Linking blocks -/

/-- The state of linking blocks that were made from some tokens. -/
structure Nest.MadeFrom (P : Token → Prop) (nest : Nest) : Prop where
  done : ∀ n ∈ nest.done, n.MadeFrom P
  frames : ∀ frame ∈ nest.frames, P frame.token ∧ ∀ n ∈ frame.children, n.MadeFrom P

namespace Nest

variable {nest : Nest} {node : Node}

private theorem traced_add (h : nest.MadeFrom P) (made : node.MadeFrom P) :
    Traced P (Nest.MadeFrom P) (nest.add node) := by
  obtain ⟨done, frames⟩ := nest
  unfold add
  cases frames with
  | nil =>
    refine ⟨fun n mem => ?_, nofun⟩
    rcases List.mem_append.mp mem with mem | mem
    · exact h.done n mem
    · exact List.mem_singleton.mp mem ▸ made
  | cons frame outer =>
    obtain ⟨⟨start, children⟩, others⟩ := List.forall_mem_cons.mp h.frames
    simp only
    split
    · refine ⟨h.done, List.forall_mem_cons.mpr ⟨⟨start, fun n mem => ?_⟩, others⟩⟩
      rcases List.mem_append.mp mem with mem | mem
      · exact children n mem
      · exact List.mem_singleton.mp mem ▸ made
    · exact ⟨rfl, node.token, made.token, rfl⟩

private theorem traced_step (h : nest.MadeFrom P) (made : node.MadeFrom P) :
    Traced P (Nest.MadeFrom P) (nest.step node) := by
  unfold step
  split
  · cases made with
    | block start children =>
      exact ⟨h.done, List.forall_mem_cons.mpr ⟨⟨start, children⟩, h.frames⟩⟩
  · rename_i form kind token
    have start := made.token
    obtain ⟨done, frames⟩ := nest
    cases frames with
    | nil => exact ⟨rfl, token, start, rfl⟩
    | cons frame outer =>
      obtain ⟨⟨opened, children⟩, others⟩ := List.forall_mem_cons.mp h.frames
      simp only
      split
      · exact traced_add ⟨h.done, others⟩ (.block opened children)
      · exact ⟨rfl, token, start, rfl⟩
  · exact traced_add h made

private theorem traced_foldlM {nodes : List Node} (h : nest.MadeFrom P)
    (made : ∀ n ∈ nodes, n.MadeFrom P) :
    Traced P (Nest.MadeFrom P) (nodes.foldlM step nest) := by
  induction nodes generalizing nest with
  | nil => exact h
  | cons node rest ih =>
    obtain ⟨head, others⟩ := List.forall_mem_cons.mp made
    rw [List.foldlM_cons]
    exact (traced_step h head).bind fun next stepped => ih stepped others

private theorem traced_finish (h : nest.MadeFrom P) :
    Traced P (fun nodes => ∀ n ∈ nodes, n.MadeFrom P) nest.finish := by
  obtain ⟨done, frames⟩ := nest
  cases frames with
  | nil => exact h.done
  | cons frame outer =>
    exact ⟨rfl, frame.token, (List.forall_mem_cons.mp h.frames).1.1, rfl⟩

end Nest

variable {nodes : List Node}

theorem traced_linkBlocks (h : ∀ n ∈ nodes, n.MadeFrom P) :
    Traced P (fun linked => ∀ n ∈ linked, n.MadeFrom P) (linkBlocks nodes) :=
  (Nest.traced_foldlM ⟨by simp, by simp⟩ h).bind fun _ => Nest.traced_finish

/-! ## Linking operators -/

private theorem traced_linkUnaryAfter {done rest : List Node} (before : ∀ n ∈ done, n.MadeFrom P)
    (ahead : ∀ n ∈ rest, n.MadeFrom P) :
    Traced P (fun linked => ∀ n ∈ linked, n.MadeFrom P) (linkUnaryAfter done rest) := by
  fun_induction linkUnaryAfter done rest with
  | case1 done => exact fun n mem => before n (List.mem_reverse.mp mem)
  | case2 operator token rest =>
    exact ⟨rfl, token, (List.forall_mem_cons.mp ahead).1.token, rfl⟩
  | case3 operator token rest left done isFunction ih =>
    obtain ⟨here, ahead⟩ := List.forall_mem_cons.mp ahead
    obtain ⟨operand, before⟩ := List.forall_mem_cons.mp before
    refine ih (List.forall_mem_cons.mpr ⟨.unary here.token ?_, before⟩) ahead
    rintro n ⟨⟩
    exact operand
  | case4 operator token rest left done notFunction =>
    exact ⟨rfl, token, (List.forall_mem_cons.mp ahead).1.token, rfl⟩
  | case5 done node rest notBare ih =>
    obtain ⟨here, ahead⟩ := List.forall_mem_cons.mp ahead
    exact ih (List.forall_mem_cons.mpr ⟨here, before⟩) ahead

theorem traced_linkUnary (h : ∀ n ∈ nodes, n.MadeFrom P) :
    Traced P (fun linked => ∀ n ∈ linked, n.MadeFrom P) (linkUnary nodes) :=
  traced_linkUnaryAfter nofun h

/-- An operator between operands that is at one of some tokens and joins nodes that were made from
them. -/
structure Joint.MadeFrom (P : Token → Prop) (joint : Joint) : Prop where
  index : ∃ token, P token ∧ token.index = joint.index
  join : ∀ left right, left.MadeFrom P → right.MadeFrom P → (joint.join left right).MadeFrom P

private theorem traced_linkInfixAfter {joint? : Node → Option Joint}
    (joints : ∀ n joint, n.MadeFrom P → joint? n = some joint → joint.MadeFrom P)
    {done rest : List Node} (before : ∀ n ∈ done, n.MadeFrom P)
    (ahead : ∀ n ∈ rest, n.MadeFrom P) :
    Traced P (fun linked => ∀ n ∈ linked, n.MadeFrom P) (linkInfixAfter joint? done rest) := by
  fun_induction linkInfixAfter joint? done rest with
  | case1 done => exact fun n mem => before n (List.mem_reverse.mp mem)
  | case2 done node rest none ih =>
    obtain ⟨here, ahead⟩ := List.forall_mem_cons.mp ahead
    exact ih (List.forall_mem_cons.mpr ⟨here, before⟩) ahead
  | case3 node _ joint found | case4 node _ joint found | case5 node joint found
  | case6 node joint found =>
    -- Whichever operand is missing or refused, the problem is at the operator.
    exact ⟨rfl, (joints node joint (List.forall_mem_cons.mp ahead).1 found).index⟩
  | case7 node joint found left done allowed right rest allowed' ih =>
    obtain ⟨here, ahead⟩ := List.forall_mem_cons.mp ahead
    obtain ⟨last, ahead⟩ := List.forall_mem_cons.mp ahead
    obtain ⟨first, before⟩ := List.forall_mem_cons.mp before
    have joined := (joints node joint here found).join left right first last
    exact ih (List.forall_mem_cons.mpr ⟨joined, before⟩) ahead

theorem Node.madeFrom_of_binaryJoint? {n : Node} {joint : Joint} (h : n.MadeFrom P)
    (found : n.binaryJoint? = some joint) : joint.MadeFrom P := by
  unfold binaryJoint? at found
  split at found
  · cases found
    refine ⟨⟨_, h.token, rfl⟩, fun left right first last => .binary h.token ?_ ?_⟩
    · rintro n ⟨⟩
      exact first
    · rintro n ⟨⟩
      exact last
  · cases found

theorem Node.madeFrom_of_logicalJoint? {n : Node} {joint : Joint} (h : n.MadeFrom P)
    (found : n.logicalJoint? = some joint) : joint.MadeFrom P := by
  unfold logicalJoint? at found
  split at found
  · cases found
    refine ⟨⟨_, h.token, rfl⟩, fun left right first last => .logical h.token ?_ ?_⟩
    · rintro n ⟨⟩
      exact first
    · rintro n ⟨⟩
      exact last
  · cases found

theorem traced_linkBinary (h : ∀ n ∈ nodes, n.MadeFrom P) :
    Traced P (fun linked => ∀ n ∈ linked, n.MadeFrom P) (linkBinary nodes) :=
  traced_linkInfixAfter (fun _ _ => Node.madeFrom_of_binaryJoint?) nofun h

theorem traced_linkLogical (h : ∀ n ∈ nodes, n.MadeFrom P) :
    Traced P (fun linked => ∀ n ∈ linked, n.MadeFrom P) (linkLogical nodes) :=
  traced_linkInfixAfter (fun _ _ => Node.madeFrom_of_logicalJoint?) nofun h

end MessageExpr
