import MessageExpr.Proofs.Condition.Written
import MessageExpr.Proofs.Node.Grouped

/-!
# Linking what is written

The nodes of the segments of clauses are linked to the nodes of the clauses. Each step of linking
turns the nodes of a part into fewer nodes, whatever stands before and after the part.

## Main definitions

* `flat` — the nodes of clauses before operators are linked
* `Comparison.unlinked`, `Clause.unlinked` — the nodes once the unary operators are linked
* `Clause.compared` — the nodes once the binary operators are linked, too

## Main results

* `linkUnary_flat`, `linkBinary_unlinked`, `linkLogical_compared` — the steps of linking
-/

namespace MessageExpr.Written

/-- The nodes of clauses before operators are linked. -/
def flat (clauses : List Clause) : List Node := (segments clauses).flatMap Segment.nodes

/-- A binary operator without operands. -/
def bareBinary (operator : BinaryOperator) : Node :=
  .binary operator (tokenOf .binaryOperator operator.symbol.toList) none none

/-- A logical operator without operands. -/
def bareLogical (operator : LogicalOperator) : Node :=
  .logical operator (tokenOf .logicalOperator operator.symbol.toList) none none

/-- The nodes of a comparison once the unary operators are linked. -/
def Comparison.unlinked : Comparison → List Node
  | operand o => [o.node]
  | compare left operator right _ => left.unlinked ++ [bareBinary operator, right.node]

/-- The nodes of a clause once the unary operators are linked. -/
def Clause.unlinked : Clause → List Node
  | comparison c => c.unlinked
  | joined left operator right _ => left.unlinked ++ bareLogical operator :: right.unlinked

/-- The nodes of a clause once the binary operators are linked, too. -/
def Clause.compared : Clause → List Node
  | comparison c => [c.node]
  | joined left operator right _ => left.compared ++ [bareLogical operator, right.node]

/-- Clauses are linked one after the other, when linking goes over each of them and leaves it to
what has been done. -/
theorem link_clauses {link : List Node → List Node → Except Problem (List Node)}
    (finish : ∀ done, link done [] = .ok done.reverse) {before after : Clause → List Node}
    (step : ∀ c done rest, link done (before c ++ rest) = link ((after c).reverse ++ done) rest)
    (clauses : List Clause) :
    link [] (clauses.flatMap before) = .ok (clauses.flatMap after) := by
  have go (done : List Node) :
      link done (clauses.flatMap before) = .ok (done.reverse ++ clauses.flatMap after) := by
    induction clauses generalizing done with
    | nil => simp [finish]
    | cons c clauses ih =>
      rw [List.flatMap_cons, step, ih]
      simp
  exact go []

/-! ## Unary operators -/

private theorem linkUnaryAfter_atom (a : Atom) (done rest : List Node) :
    linkUnaryAfter done (a.node :: rest) = linkUnaryAfter (a.node :: done) rest := by
  cases a <;> rfl

private theorem linkUnaryAfter_operand (o : Operand) (done rest : List Node) :
    linkUnaryAfter done (o.first.node :: o.rest.flatMap Segment.nodes ++ rest) =
      linkUnaryAfter (o.node :: done) rest := by
  cases o with
  | atom a => exact linkUnaryAfter_atom a done rest
  | unary mark content operator => rfl

private theorem linkUnaryAfter_comparison (c : Comparison) (done rest : List Node) :
    linkUnaryAfter done (c.first.node :: c.rest.flatMap Segment.nodes ++ rest) =
      linkUnaryAfter (c.unlinked.reverse ++ done) rest := by
  induction c generalizing done rest with
  | operand o => exact linkUnaryAfter_operand o done rest
  | compare left operator right accepted ih =>
    -- A comparison starts with the first atom of its left side, which is a comparison itself.
    have parts : (left.compare operator right accepted).first.node ::
          (left.compare operator right accepted).rest.flatMap Segment.nodes ++ rest =
        left.first.node :: left.rest.flatMap Segment.nodes ++ (bareBinary operator ::
          (right.first.node :: right.rest.flatMap Segment.nodes ++ rest)) := by
      simp [Comparison.first, Comparison.rest, Segment.nodes, bareBinary]
    have bare (done rest : List Node) : linkUnaryAfter done (bareBinary operator :: rest) =
        linkUnaryAfter (bareBinary operator :: done) rest := rfl
    rw [parts, ih, bare, linkUnaryAfter_operand]
    simp [Comparison.unlinked]

private theorem linkUnaryAfter_clause (c : Clause) (done rest : List Node) :
    linkUnaryAfter done (c.first.node :: c.rest.flatMap Segment.nodes ++ rest) =
      linkUnaryAfter (c.unlinked.reverse ++ done) rest := by
  induction c generalizing done rest with
  | comparison c => exact linkUnaryAfter_comparison c done rest
  | joined left operator right unsigned ih =>
    have parts : (left.joined operator right unsigned).first.node ::
          (left.joined operator right unsigned).rest.flatMap Segment.nodes ++ rest =
        left.first.node :: left.rest.flatMap Segment.nodes ++ (bareLogical operator ::
          (right.first.node :: right.rest.flatMap Segment.nodes ++ rest)) := by
      simp [Clause.first, Clause.rest, Segment.nodes, bareLogical]
    have bare (done rest : List Node) : linkUnaryAfter done (bareLogical operator :: rest) =
        linkUnaryAfter (bareLogical operator :: done) rest := rfl
    rw [parts, ih, bare, linkUnaryAfter_comparison]
    simp [Clause.unlinked]

theorem linkUnary_flat (clauses : List Clause) :
    linkUnary (flat clauses) = .ok (clauses.flatMap Clause.unlinked) := by
  have parts : flat clauses =
      clauses.flatMap fun c => c.first.node :: c.rest.flatMap Segment.nodes := by
    simp [flat, segments, Segment.nodes, List.flatMap_assoc]
  rw [parts]
  exact link_clauses (fun _ => by rw [linkUnaryAfter]) linkUnaryAfter_clause clauses

/-! ## Binary operators -/

/-- The nodes of operands are what a comparison may have on its left. -/
theorem Operand.isSome_parameter? (o : Operand) : o.node.parameter?.isSome = true := by
  cases o with
  | atom a => cases a <;> rfl
  | unary => rfl

theorem Comparison.compares (c : Comparison) : Compares c.unlinked c.node := by
  induction c with
  | operand o => exact .operand o.isSome_parameter?
  | compare left operator right accepted ih => exact .binary ih accepted

theorem Clause.groups (c : Clause) : Groups c.unlinked c.node := by
  induction c with
  | comparison c => exact .comparison c.compares
  | joined left operator right unsigned ih => exact .logical ih right.compares

theorem Clause.links_unlinked (c : Clause) : Links Node.binaryJoint? c.unlinked c.compared := by
  induction c with
  | comparison c => exact c.compares.links
  | joined left operator right unsigned ih =>
    have bare : Links Node.binaryJoint? [bareLogical operator] [bareLogical operator] :=
      .single rfl
    exact ih.append (bare.append right.compares.links)

theorem linkBinary_unlinked (clauses : List Clause) :
    linkBinary (clauses.flatMap Clause.unlinked) = .ok (clauses.flatMap Clause.compared) := by
  exact link_clauses (fun _ => by rw [linkInfixAfter]) Clause.links_unlinked clauses

/-! ## Logical operators -/

theorem Clause.links_compared (c : Clause) : Links Node.logicalJoint? c.compared [c.node] := by
  induction c with
  | comparison c => exact .single c.compares.logicalJoint?
  | joined left operator right unsigned ih =>
    refine ih.join (n := bareLogical operator) rfl ?_ ?_
    · exact congrArg not left.groups.isClosing
    · exact congrArg not right.compares.isClosing

theorem linkLogical_compared (clauses : List Clause) :
    linkLogical (clauses.flatMap Clause.compared) = .ok (clauses.map Clause.node) := by
  rw [List.map_eq_flatMap]
  exact link_clauses (fun _ => by rw [linkInfixAfter]) Clause.links_compared clauses

end MessageExpr.Written
