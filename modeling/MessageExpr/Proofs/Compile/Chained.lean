import MessageExpr.Proofs.Language.Juxtaposed

/-!
# Clauses in a row and chains of conjunctions

A condition can say that several things hold by putting them side by side, or by a chain of `&&`
that groups to the left. The two are compiled in different ways: the first one to a predicate with
several clauses, the second one to a predicate with one clause, in which the truth of each part is
made a value again before the next part is looked at. They are the same predicate.

## Main definitions

* `Node.chained`, `Expr.chained` — a chain of conjunctions
* `Expr.Stops` — an expression after which no clause is looked at

## Main results

* `Compile.node_chained` — a chain of nodes is compiled to the chain of their expressions
* `Predicate.testAll_eq_chained` — clauses in a row hold when their chain is true, and fail alike
* `Predicate.testAll_of_stops` — the first clause that is not true settles the outcome
* `Compile.predicate_chained` — the predicates of nodes in a row and of their chain
-/

namespace MessageExpr

section

variable [PatternLibrary]

/-- Nodes joined by `&&`, each with the token of the operator before it, grouped to the left. -/
def Node.chained (first : Node) (rest : List (Token × Node)) : Node :=
  rest.foldl (fun left (token, right) => .logical .and token (some left) (some right)) first

/-- The conjunction of expressions, grouped to the left. -/
def Expr.chained (first : Expr) (rest : List Expr) : Expr :=
  rest.foldl (.logical .and) first

/-- Whether an expression fails or has a value that is not true. -/
def Expr.Stops (s : Surroundings) (e : Expr) : Prop :=
  ∀ v, e.evaluate s = .ok v → v.isTrue = false

/-- Whether an expression has a value that is true. -/
def Expr.Holds (s : Surroundings) (e : Expr) : Prop :=
  ∃ v, e.evaluate s = .ok v ∧ v.isTrue = true

/-! ## Compiling -/

namespace Compile

/-- A chain of nodes is compiled to the chain of their expressions. The nodes are compiled in the
order in which they stand, as they are in a row. -/
theorem node_chained (first : Node) (rest : List (Token × Node)) :
    node (first.chained rest) = (do
      let e ← node first
      let es ← nodes (rest.map Prod.snd)
      pure (e.chained es)) := by
  induction rest generalizing first with
  | nil => simp [Node.chained, Expr.chained, nodes]
  | cons next rest ih =>
    obtain ⟨token, right⟩ := next
    change node ((Node.logical .and token (some first) (some right)).chained rest) = _
    rw [ih, node, List.map_cons, nodes]
    simp only [bind_assoc, pure_bind]
    rfl

/-- When nodes in a row compile, their chain does too, with the same objects made on the way. -/
theorem run_node_chained {first : Node} {rest : List (Token × Node)} {w w' : Workshop}
    {es : List Expr} (compiled : (nodes (first :: rest.map Prod.snd)).run w = (.ok es, w')) :
    ∃ e more, es = e :: more ∧ (node (first.chained rest)).run w = (.ok (e.chained more), w') := by
  rw [nodes] at compiled
  obtain ⟨e, between, compiledFirst, compiled⟩ := run_bind_eq_ok.mp compiled
  obtain ⟨more, between', compiledRest, made⟩ := run_bind_eq_ok.mp compiled
  obtain ⟨rfl, rfl⟩ := run_pure_eq_ok.mp made
  refine ⟨e, more, rfl, ?_⟩
  rw [node_chained]
  exact run_bind_eq_ok.mpr ⟨e, between, compiledFirst,
    run_bind_eq_ok.mpr ⟨more, between', compiledRest, rfl⟩⟩

/-- The predicate of nodes that compile is a new object with their expressions as its clauses. -/
theorem run_predicate {l : List Node} {w w' : Workshop} {es : List Expr}
    (compiled : (nodes l).run w = (.ok es, w')) :
    (predicate l).run w = (.ok ⟨w'.made, ⟨es⟩⟩, { w' with made := w'.made + 1 }) := by
  rw [predicate, run_bind, compiled]
  rfl

end Compile

/-! ## Evaluating -/

namespace Predicate

variable {s : Surroundings}

theorem testAll_of_ok {clause : Expr} {rest : List Expr} {v : Value}
    (evaluated : clause.evaluate s = .ok v) :
    testAll s (clause :: rest) = if v.isTrue then testAll s rest else .ok false := by
  rw [testAll, evaluated]
  rfl

theorem testAll_of_error {clause : Expr} {rest : List Expr} {failure : Failure}
    (failed : clause.evaluate s = .error failure) :
    testAll s (clause :: rest) = .error failure := by
  rw [testAll, failed]
  rfl

/-- A single clause holds when its value is true. -/
theorem testAll_singleton (clause : Expr) :
    testAll s [clause] = (clause.evaluate s).map Value.isTrue := by
  cases evaluated : clause.evaluate s with
  | error failure => exact testAll_of_error evaluated
  | ok v =>
    rw [testAll_of_ok evaluated]
    cases isTrue : v.isTrue
    · exact congrArg Except.ok isTrue.symm
    · exact congrArg Except.ok isTrue.symm

/-- The value of a conjunction is the truth of its two sides in a row. -/
theorem evaluate_and (left right : Expr) :
    (Expr.logical .and left right).evaluate s = (testAll s [left, right]).map Value.boolean := by
  rw [Expr.evaluate]
  cases evaluated : left.evaluate s with
  | error failure =>
    rw [testAll_of_error evaluated]
    rfl
  | ok v =>
    rw [testAll_of_ok evaluated, testAll_singleton]
    change (if v.isTrue then _ else Except.ok (Value.boolean v.isTrue)) = _
    cases v.isTrue with
    | false => rfl
    | true => cases right.evaluate s <;> rfl

/-- Two clauses in a row can be made one, the conjunction of both. -/
theorem testAll_conjunction (left right : Expr) (rest : List Expr) :
    testAll s (.logical .and left right :: rest) = testAll s (left :: right :: rest) := by
  rw [← List.singleton_append, testAll_append, testAll_singleton, evaluate_and,
    show left :: right :: rest = [left, right] ++ rest from rfl, testAll_append]
  -- What is true is a value again, and is true once more.
  rcases testAll s [left, right] with _ | _ | _ <;> rfl

/-- Clauses in a row hold when the value of their chain is true, and fail as the chain does. -/
theorem testAll_eq_chained (first : Expr) (rest : List Expr) :
    testAll s (first :: rest) = ((first.chained rest).evaluate s).map Value.isTrue := by
  induction rest generalizing first with
  | nil => exact testAll_singleton first
  | cons second rest ih =>
    rw [← testAll_conjunction, ih, Expr.chained, Expr.chained, List.foldl_cons]

/-- Clauses that are true leave the outcome to those after them. -/
theorem testAll_of_holds {before after : List Expr} (hold : ∀ e ∈ before, e.Holds s) :
    testAll s (before ++ after) = testAll s after := by
  induction before with
  | nil => rfl
  | cons e before ih =>
    obtain ⟨⟨v, evaluated, isTrue⟩, hold⟩ := List.forall_mem_cons.mp hold
    rw [List.cons_append, testAll_of_ok evaluated, if_pos isTrue, ih hold]

/-- The first clause that fails or is not true settles the outcome, whatever comes after it. -/
theorem testAll_of_stops {before after : List Expr} {e : Expr} (hold : ∀ e ∈ before, e.Holds s)
    (stops : e.Stops s) :
    testAll s (before ++ e :: after) = (e.evaluate s).map fun _ => false := by
  rw [testAll_of_holds hold]
  cases evaluated : e.evaluate s with
  | error failure => exact testAll_of_error evaluated
  | ok v =>
    rw [testAll_of_ok evaluated, stops v evaluated]
    rfl

end Predicate

end

/-! ## Predicates -/

namespace Compile

/-- When nodes in a row compile, the row and its chain of `&&` both have predicates, with the same
objects made on the way. The two give the same truth or the same failure on every exchange, and the
first node that fails or is not true settles it: the nodes after it do not matter. Compiling the
chain with other shared functions gives the same predicate again. -/
theorem predicate_chained [PatternLibrary] {first : Node} {rest : List (Token × Node)}
    {w w' : Workshop}
    {es : List Expr} (compiled : (nodes (first :: rest.map Prod.snd)).run w = (.ok es, w')) :
    ∃ row tree w'', (predicate (first :: rest.map Prod.snd)).run w = (.ok row, w'') ∧
      (predicate [first.chained rest]).run w = (.ok tree, w'') ∧
      (∀ s, row.value.test s = tree.value.test s) ∧
      (∀ s before e after, es = before ++ e :: after → (∀ e' ∈ before, e'.Holds s) → e.Stops s →
        row.value.test s = (e.evaluate s).map fun _ => false) ∧
      (w.IsHonest → ∀ other : Workshop, other.IsHonest →
        ∃ tree' other', (predicate [first.chained rest]).run other = (.ok tree', other') ∧
          tree'.value = tree.value) := by
  obtain ⟨e, more, rfl, compiledChain⟩ := run_node_chained compiled
  have compiledChain : (nodes [first.chained rest]).run w = (.ok [e.chained more], w') := by
    rw [nodes]
    exact run_bind_eq_ok.mpr ⟨_, _, compiledChain, rfl⟩
  have chain := run_predicate compiledChain
  refine ⟨_, _, _, run_predicate compiled, chain, fun s => ?_,
    fun s before e' after cut hold stops =>
    ?_, fun honest other honest' => ?_⟩
  · rw [Predicate.test_of_ne_nil (List.cons_ne_nil _ _),
      Predicate.test_of_ne_nil (List.cons_ne_nil _ _), Predicate.testAll_eq_chained,
      Predicate.testAll_singleton]
  · rw [Predicate.test_of_ne_nil (List.cons_ne_nil _ _), cut, Predicate.testAll_of_stops hold stops]
  · have steady := steady_predicate [first.chained rest]
    have same := (steady.map_eq other honest').trans (steady.map_eq w honest).symm
    rw [chain] at same
    obtain ⟨tree', made, value⟩ := map_eq_ok.mp same
    exact ⟨tree', _, Prod.ext made rfl, value⟩

/-- The node of `$\x7bbody\x7d > 1`. -/
def largeBody : Node :=
  .binary .greater ⟨.binaryOperator, ">", 8, 1⟩
    (some (.block .function .function ⟨.functionStart, "$\x7b", 0, 2⟩
      [.literal ⟨.character, "b", 2, 1⟩ "body"]))
    (some (.number ⟨.numericValue, "1", 10, 1⟩ (.integer 1) false))

/-- What follows in `$\x7bbody\x7d > 1 && null && true`. -/
def nullAndTrue : List (Token × Node) :=
  [(⟨.logicalOperator, "&&", 12, 2⟩, .null ⟨.nullValue, "null", 15, 4⟩),
    (⟨.logicalOperator, "&&", 20, 2⟩, .boolean ⟨.booleanValue, "true", 23, 4⟩)]

theorem predicate_chained_nullAndTrue :
    ∃ row tree w'',
      (predicate (largeBody :: nullAndTrue.map Prod.snd)).run ⟨some (.empty 4), 0⟩ =
        (.ok row, w'') ∧
      (predicate [largeBody.chained nullAndTrue]).run ⟨some (.empty 4), 0⟩ = (.ok tree, w'') ∧
      (∀ s, row.value.test s = tree.value.test s) ∧
      ∀ s, Expr.Holds s (.binary .greater (.function .body) (.constant (.integer 1)) none) →
        row.value.test s = .ok false := by
  obtain ⟨w', compiled⟩ : ∃ w', (nodes (largeBody :: nullAndTrue.map Prod.snd)).run
      ⟨some (.empty 4), 0⟩ =
        (.ok [.binary .greater (.function .body) (.constant (.integer 1)) none, .constant .null,
          .constant (.boolean true)], w') := ⟨_, rfl⟩
  obtain ⟨row, tree, w'', compiledRow, compiledTree, same, settled, -⟩ := predicate_chained compiled
  refine ⟨row, tree, w'', compiledRow, compiledTree, same, fun s holds => ?_⟩
  -- Null is not true, so that the last clause does not matter.
  have stops : Expr.Stops s (.constant .null) := by
    rintro _ ⟨⟩
    rfl
  exact settled s [_] _ [_] rfl (List.forall_mem_singleton.mpr holds) stops

end Compile

end MessageExpr
