import MessageExpr.Expr.Evaluate
import MessageExpr.Proofs.Except

/-!
# Evaluations that find no malformed pattern

A comparison reads a pattern when it is evaluated only if it does not know it yet. Where every
comparison that reads a pattern knows it, the evaluation can fail in other ways, but not with a
pattern that is no regular expression.

## Main definitions

* `FindsNoFlaw` — an evaluation that does not find a pattern malformed
* `Expr.KnowsPatterns` — every comparison that reads a pattern knows it

## Main results

* `BinaryOperator.findsNoFlaw_apply` — only a pattern that is not known can be found malformed
* `Expr.KnowsPatterns.findsNoFlaw`, `Predicate.findsNoFlaw_test` — evaluations with known patterns
-/

namespace MessageExpr

/-- An evaluation that does not find a pattern malformed. -/
def FindsNoFlaw {α : Type} (x : Except Failure α) : Prop :=
  ∀ pattern flaw, x ≠ .error (.badPattern pattern flaw)

namespace FindsNoFlaw

variable {α β : Type}

theorem ok (a : α) : FindsNoFlaw (.ok a : Except Failure α) := nofun

theorem bind {x : Except Failure α} {f : α → Except Failure β} (h : FindsNoFlaw x)
    (rest : ∀ a, FindsNoFlaw (f a)) : FindsNoFlaw (x >>= f) := by
  intro pattern flaw failed
  rcases bind_eq_error.mp failed with failed | ⟨a, -, failed⟩
  · exact h pattern flaw failed
  · exact rest a pattern flaw failed

private theorem map {x : Except Failure α} (h : FindsNoFlaw x) (f : α → β) :
    FindsNoFlaw (x.map f) :=
  fun pattern flaw failed => h pattern flaw (map_eq_error.mp failed)

end FindsNoFlaw

theorem Function.findsNoFlaw_call (s : Surroundings) (f : Function) : FindsNoFlaw (f.call s) := by
  cases f with
  | bodyAs type =>
    rw [Function.call, Value.convert]
    split <;> nofun
  | _ => exact .ok _

theorem Expr.findsNoFlaw_callNamed (s : Surroundings) (name : String) :
    FindsNoFlaw (callNamed s name) := by
  unfold callNamed
  split
  · exact Function.findsNoFlaw_call s _
  · nofun

theorem UnaryOperator.findsNoFlaw_apply (operator : UnaryOperator) (v : Value) :
    FindsNoFlaw (operator.apply v) := by
  unfold apply
  split <;> nofun

/-- Whether an operator reads its right side as a pattern. -/
def BinaryOperator.ReadsPattern (operator : BinaryOperator) : Prop :=
  operator = .regex ∨ operator = .notRegex

variable [PatternLibrary]

/-- Only a pattern that is not known can be found malformed. -/
theorem BinaryOperator.findsNoFlaw_apply {operator : BinaryOperator}
    {known : Option PatternLibrary.Compiled}
    (isKnown : operator.ReadsPattern → known.isSome = true) (v w : Value) :
    FindsNoFlaw (operator.apply known v w) := by
  have ofPattern (h : known.isSome = true) : FindsNoFlaw (matchesPattern known v w) := by
    obtain ⟨p, rfl⟩ := Option.isSome_iff_exists.mp h
    unfold matchesPattern
    split <;> exact .ok _
  have ofType : FindsNoFlaw (isOfType v w) := by
    unfold isOfType
    split <;> nofun
  have inRange : FindsNoFlaw (isInRange v w) := by
    unfold isInRange
    split <;> nofun
  cases operator with
  | regex => exact ofPattern (isKnown (.inl rfl))
  | notRegex => exact (ofPattern (isKnown (.inr rfl))).map _
  | isA => exact ofType
  | notA => exact ofType.map _
  | range => exact inRange
  | notRange => exact inRange.map _
  | _ => exact .ok _

/-- An expression in which every comparison that reads a pattern knows it. -/
inductive Expr.KnowsPatterns : Expr → Prop where
  | constant {v} : KnowsPatterns (.constant v)
  | function {f} : KnowsPatterns (.function f)
  | joined {parts} : (∀ part ∈ parts, KnowsPatterns part) → KnowsPatterns (.joined parts)
  | dynamic {parts} : (∀ part ∈ parts, KnowsPatterns part) → KnowsPatterns (.dynamic parts)
  | unary {operator operand} : KnowsPatterns operand → KnowsPatterns (.unary operator operand)
  | binary {operator left right known} : KnowsPatterns left → KnowsPatterns right →
      (operator.ReadsPattern → known.isSome = true) →
      KnowsPatterns (.binary operator left right known)
  | logical {operator left right} : KnowsPatterns left → KnowsPatterns right →
      KnowsPatterns (.logical operator left right)

theorem Expr.findsNoFlaw_evaluateText {s : Surroundings} {parts : List Expr}
    (h : ∀ part ∈ parts, FindsNoFlaw (part.evaluate s)) : FindsNoFlaw (evaluateText s parts) := by
  induction parts with
  | nil => exact .ok _
  | cons part rest ih =>
    obtain ⟨first, others⟩ := List.forall_mem_cons.mp h
    rw [evaluateText]
    exact first.bind fun _ => (ih others).bind fun _ => .ok _

/-- No pattern is found malformed when all are known. -/
theorem Expr.KnowsPatterns.findsNoFlaw {e : Expr} (h : e.KnowsPatterns) (s : Surroundings) :
    FindsNoFlaw (e.evaluate s) := by
  induction h with
  | constant => exact .ok _
  | function => exact Function.findsNoFlaw_call s _
  | joined _ ih =>
    rw [evaluate]
    exact (findsNoFlaw_evaluateText ih).bind fun _ => .ok _
  | dynamic _ ih =>
    rw [evaluate]
    exact (findsNoFlaw_evaluateText ih).bind fun _ => findsNoFlaw_callNamed s _
  | unary _ ih =>
    rw [evaluate]
    exact ih.bind fun _ => UnaryOperator.findsNoFlaw_apply _ _
  | binary _ _ isKnown ihLeft ihRight =>
    rw [evaluate]
    exact ihLeft.bind fun _ => ihRight.bind fun _ =>
      (BinaryOperator.findsNoFlaw_apply isKnown _ _).bind fun _ => .ok _
  | logical _ _ ihLeft ihRight =>
    rw [evaluate]
    refine ihLeft.bind fun _ => ?_
    split
    · exact ihRight.bind fun _ => .ok _
    · exact .ok _

theorem Predicate.findsNoFlaw_testAll {s : Surroundings} {clauses : List Expr}
    (h : ∀ e ∈ clauses, e.KnowsPatterns) : FindsNoFlaw (testAll s clauses) := by
  induction clauses with
  | nil => exact .ok _
  | cons clause rest ih =>
    obtain ⟨first, others⟩ := List.forall_mem_cons.mp h
    rw [testAll]
    refine (first.findsNoFlaw s).bind fun _ => ?_
    split
    · exact ih others
    · exact .ok _

theorem Predicate.findsNoFlaw_test {s : Surroundings} {p : Predicate}
    (h : ∀ e ∈ p.clauses, e.KnowsPatterns) : FindsNoFlaw (p.test s) := by
  unfold test
  split
  · exact .ok _
  · exact findsNoFlaw_testAll h

end MessageExpr
