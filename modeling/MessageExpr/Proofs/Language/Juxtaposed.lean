import MessageExpr.Pattern.Read
import MessageExpr.Proofs.Compile.Beside
import MessageExpr.Proofs.Condition.Juxtaposed
import MessageExpr.Proofs.Language.Caching

/-!
# Conditions side by side are a conjunction

Two conditions with a space between them are compiled to a predicate with the clauses of both. It
holds when both do, and the second one is looked at only if the first one holds.

## Main results

* `Predicate.test_append` — a predicate with the clauses of two predicates
* `Language.exists_createPredicate_iff` — the predicate of a condition
* `Language.createPredicate_juxtaposed` — the predicate of two conditions side by side
-/

namespace MessageExpr

/-! ## Clauses -/

namespace Predicate

variable [PatternLibrary] {s : Surroundings}

/-- Clauses after others are looked at only if those hold. -/
theorem testAll_append (clauses more : List Expr) :
    testAll s (clauses ++ more) =
      match testAll s clauses with
      | .ok true => testAll s more
      | other => other := by
  induction clauses with
  | nil => rfl
  | cons clause rest ih =>
    rw [List.cons_append, testAll, testAll]
    cases clause.evaluate s with
    | error failure => rfl
    | ok v =>
      change (if v.isTrue then testAll s (rest ++ more) else pure false) =
        match (if v.isTrue then testAll s rest else pure false) with
        | .ok true => testAll s more
        | other => other
      split
      · exact ih
      · rfl

theorem test_of_ne_nil {clauses : List Expr} (nonempty : clauses ≠ []) :
    test s ⟨clauses⟩ = testAll s clauses := by
  obtain ⟨clause, rest, rfl⟩ := List.exists_cons_of_ne_nil nonempty
  rfl

/-- A predicate with the clauses of two predicates is decided by the second one if the first one
holds, and by the first one otherwise. -/
theorem test_append {clauses more : List Expr} (nonempty : clauses ≠ []) (nonempty' : more ≠ []) :
    test s ⟨clauses ++ more⟩ =
      match test s ⟨clauses⟩ with
      | .ok true => test s ⟨more⟩
      | other => other := by
  have both : clauses ++ more ≠ [] := List.append_ne_nil_of_left_ne_nil nonempty more
  rw [test_of_ne_nil both, test_of_ne_nil nonempty, test_of_ne_nil nonempty', testAll_append]

end Predicate

/-! ## Conditions -/

namespace Compile

/-- The clauses of a predicate are the expressions of its nodes. -/
theorem plain_predicate [PatternLibrary] (l : List Node) :
    (plain (predicate l)).map Object.value = (plain (nodes l)).map Predicate.mk := by
  rw [plain, plain, predicate, run_bind]
  rcases (nodes l).run ⟨none, 0⟩ with ⟨_ | _, _⟩ <;> rfl

end Compile

namespace Language

variable {escapes : Bool} {capacity : Nat}

/-- The clauses of the predicate of a condition, with nothing kept before, are the expressions of
the nodes of the condition. -/
theorem exists_createPredicate_iff [PatternLibrary] (capacity : Nat) {text : String}
    {nodes : List Node}
    (parsed : Condition.parse escapes text = .ok nodes) (predicate : Predicate) :
    (∃ object, ((start escapes capacity none).createPredicate text).1 = .ok object ∧
        object.value = predicate) ↔
      Compile.plain (Compile.nodes nodes) = .ok predicate.clauses := by
  have coherent : (start escapes capacity none).IsCoherent := isCoherent_start escapes capacity none
  rw [coherent.createPredicate_eq_ok]
  constructor
  · rintro ⟨nodes', parsed', compiled⟩
    obtain rfl : nodes' = nodes := Except.ok.inj (parsed'.symm.trans parsed)
    rw [Compile.plain_predicate] at compiled
    obtain ⟨clauses, made, rfl⟩ := map_eq_ok.mp compiled
    exact made
  · intro compiled
    refine ⟨nodes, parsed, ?_⟩
    rw [Compile.plain_predicate, compiled]
    rfl

/-- Two conditions that have nodes and predicates are side by side a condition with the nodes of
the first one and those of the second one, at their later places. Its predicate is decided by that
of the second one if that of the first one holds, and by that of the first one otherwise. -/
theorem createPredicate_juxtaposed [PatternLibrary] {text text' : String} {nodes nodes' : List Node}
    {first second : Object Predicate}
    (parsed : Condition.parse escapes text = .ok nodes)
    (parsed' : Condition.parse escapes text' = .ok nodes')
    (nonempty : nodes ≠ []) (nonempty' : nodes' ≠ [])
    (created : ((start escapes capacity none).createPredicate text).1 = .ok first)
    (created' : ((start escapes capacity none).createPredicate text').1 = .ok second) :
    Condition.parse escapes (text ++ " " ++ text') =
        .ok (nodes ++ nodes'.map (Node.shifted (text.length + 1))) ∧
      ∃ both, ((start escapes capacity none).createPredicate (text ++ " " ++ text')).1 = .ok both ∧
        ∀ s, both.value.test s =
          match first.value.test s with
          | .ok true => second.value.test s
          | other => other := by
  have joined := Condition.parse_juxtaposed parsed parsed'
  have compiled := (exists_createPredicate_iff capacity parsed _).mp ⟨first, created, rfl⟩
  have compiled' := (exists_createPredicate_iff capacity parsed' _).mp ⟨second, created', rfl⟩
  have together := Compile.plain_nodes_beside (text.length + 1) compiled compiled'
  obtain ⟨both, made, value⟩ := (exists_createPredicate_iff capacity joined
    ⟨first.value.clauses ++ second.value.clauses⟩).mpr together
  refine ⟨joined, both, made, fun s => ?_⟩
  rw [value]
  exact Predicate.test_append (Compile.ne_nil_of_plain_nodes compiled nonempty)
    (Compile.ne_nil_of_plain_nodes compiled' nonempty')

theorem createPredicate_juxtaposed_bodies :
    ∃ (nodes nodes' : List Node) (first second both : Object Predicate),
      Condition.parse true "$\x7bbody\x7d > 1" = .ok nodes ∧
      Condition.parse true "$\x7bbody\x7d ++ == 5" = .ok nodes' ∧
      nodes ≠ [] ∧ nodes' ≠ [] ∧
      ((start true 0 none).createPredicate "$\x7bbody\x7d > 1").1 = .ok first ∧
      ((start true 0 none).createPredicate "$\x7bbody\x7d ++ == 5").1 = .ok second ∧
      Condition.parse true ("$\x7bbody\x7d > 1" ++ " " ++ "$\x7bbody\x7d ++ == 5") =
        .ok (nodes ++ nodes'.map (Node.shifted 12)) ∧
      ((start true 0 none).createPredicate
        ("$\x7bbody\x7d > 1" ++ " " ++ "$\x7bbody\x7d ++ == 5")).1 = .ok both ∧
      ∀ s, both.value.test s =
        match first.value.test s with
        | .ok true => second.value.test s
        | other => other := by
  have count : (Condition.parse true "$\x7bbody\x7d > 1").map List.length = .ok 1 := by
    decide +kernel
  have count' : (Condition.parse true "$\x7bbody\x7d ++ == 5").map List.length = .ok 1 := by
    decide +kernel
  have isOk : ((start true 0 none).createPredicate "$\x7bbody\x7d > 1").1.isOk = true := by
    decide +kernel
  have isOk' : ((start true 0 none).createPredicate "$\x7bbody\x7d ++ == 5").1.isOk = true := by
    decide +kernel
  obtain ⟨nodes, parsed, length⟩ := map_eq_ok.mp count
  obtain ⟨nodes', parsed', length'⟩ := map_eq_ok.mp count'
  obtain ⟨first, created⟩ := exists_of_isOk isOk
  obtain ⟨second, created'⟩ := exists_of_isOk isOk'
  have nonempty : nodes ≠ [] := List.ne_nil_of_length_eq_add_one length
  have nonempty' : nodes' ≠ [] := List.ne_nil_of_length_eq_add_one length'
  obtain ⟨joined, both, made, tested⟩ :=
    createPredicate_juxtaposed parsed parsed' nonempty nonempty' created created'
  exact ⟨nodes, nodes', first, second, both, parsed, parsed', nonempty, nonempty', created,
    created', joined, made, tested⟩

end Language

end MessageExpr
