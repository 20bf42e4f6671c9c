import MessageExpr.Proofs.Compile.Steady
import MessageExpr.Proofs.Expr.Flawless

/-!
# Quoted patterns

A pattern that is quoted text without functions is read when its comparison is compiled. Where all
patterns are written in this way, what is compiled knows all its patterns.

## Main definitions

* `Node.QuotesPatterns` — all patterns of a node are quoted text without functions
* `Compile.Yields` — all results of a step of compiling have a property

## Main results

* `Compile.yields_node`, `Compile.yields_nodes` — the expressions of nodes know their patterns
-/

namespace MessageExpr

/-- Quoted text without functions. -/
def Node.IsQuotedText (n : Node) : Prop :=
  ∃ finish token children, n = .block .quote finish token children ∧
    Node.hasFunctions children = false

/-- A node in which the right side of every comparison that reads a pattern is quoted text without
functions, however deep the comparison is. -/
inductive Node.QuotesPatterns : Node → Prop where
  | literal {token text} : QuotesPatterns (.literal token text)
  | block {form kind token children} : (∀ n ∈ children, QuotesPatterns n) →
      QuotesPatterns (.block form kind token children)
  | closing {form kind token} : QuotesPatterns (.closing form kind token)
  | unary {operator token left} : (∀ n ∈ left, QuotesPatterns n) →
      QuotesPatterns (.unary operator token left)
  | binary {operator token left right} : (∀ n ∈ left, QuotesPatterns n) →
      (∀ n ∈ right, QuotesPatterns n) →
      (operator.ReadsPattern → ∀ n ∈ right, n.IsQuotedText) →
      QuotesPatterns (.binary operator token left right)
  | logical {operator token left right} : (∀ n ∈ left, QuotesPatterns n) →
      (∀ n ∈ right, QuotesPatterns n) → QuotesPatterns (.logical operator token left right)
  | number {token value negative} : QuotesPatterns (.number token value negative)
  | boolean {token} : QuotesPatterns (.boolean token)
  | null {token} : QuotesPatterns (.null token)

namespace Compile

variable [PatternLibrary] {α β γ : Type} {P : α → Prop} {Q : β → Prop} {view : α → γ}

/-- With honest shared functions, all results of a step of compiling have a property. -/
def Yields (P : α → Prop) (step : CompileM α) : Prop :=
  ∀ w, w.IsHonest → ∀ a w', step.run w = (.ok a, w') → P a

namespace Yields

private theorem pure {a : α} (h : P a) : Yields P (pure a) := by
  rintro w _ _ _ ⟨⟩
  exact h

private theorem fail (fault : Fault) (index : Nat) : Yields P (fail fault index) := by
  rintro w _ _ _ ⟨⟩

theorem bind {step : CompileM α} {next : α → CompileM β} (h : Yields P step)
    (steady : Steady view step) (rest : ∀ a, P a → Yields Q (next a)) :
    Yields Q (step >>= next) := by
  intro w honest b w' ran
  obtain ⟨a, between, first, second⟩ := run_bind_eq_ok.mp ran
  -- The second step starts from the shared functions that the first one leaves.
  have honest' := steady.isHonest w honest
  rw [first] at honest'
  exact rest a (h w honest a between first) between honest' b w' second

end Yields

/-- A function is compiled to a function, shared or not. -/
theorem yields_function (token : Token) (children : List Node) :
    Yields (fun object : Object Expr => object.value.KnowsPatterns) (function token children) := by
  intro w honest object w' ran
  have outcome := (run_function token children honest).1
  rw [ran, functionOutcome] at outcome
  split at outcome
  · rw [show object.value = .function _ from Except.ok.inj outcome]
    exact .function
  · cases outcome

private theorem yields_pattern? {operator : BinaryOperator} {right : Node}
    (quoted : operator.ReadsPattern → right.IsQuotedText) :
    Yields (fun known => operator.ReadsPattern → known.isSome = true)
      (pattern? operator right) := by
  intro w _ known w' ran reads
  obtain ⟨finish, token, children, rfl, plain⟩ := quoted reads
  have known? : knownPattern? operator (.block .quote finish token children) =
      some (Node.literalTexts children) := by
    rcases reads with rfl | rfl <;> exact if_neg (by rw [plain]; decide)
  rw [pattern?, known?] at ran
  cases read : PatternLibrary.compileWhole (Node.literalTexts children) with
  | error flaw =>
    simp only [read] at ran
    cases ran
  | ok p =>
    simp only [read] at ran
    cases ran
    rfl

mutual

/-- Where all patterns are quoted text, the expression of a node knows its patterns. -/
theorem yields_node {n : Node} (quotes : n.QuotesPatterns) :
    Yields Expr.KnowsPatterns (node n) := by
  match n with
  | .literal .. => rw [node]; exact .pure .constant
  | .block .function finish token children =>
    cases quotes with
    | block quotes =>
      rw [node]
      split
      · exact (yields_nodes quotes).bind (steady_nodes _) fun _ h => .pure (.dynamic h)
      · exact (yields_function token children).bind (steady_function _ _) fun _ h => .pure h
  | .block .quote finish token children =>
    cases quotes with
    | block quotes =>
      rw [node]
      split
      · exact (yields_nodes quotes).bind (steady_nodes _) fun _ h => .pure (.joined h)
      · exact .pure .constant
  | .unary operator _ (some operand) =>
    cases quotes with
    | unary quotes =>
      rw [node]
      exact (yields_node (quotes operand rfl)).bind (steady_node _) fun _ h => .pure (.unary h)
  | .binary operator _ (some left) (some right) =>
    cases quotes with
    | binary quotesLeft quotesRight quoted =>
      rw [node]
      exact (yields_node (quotesLeft left rfl)).bind (steady_node _) fun _ first =>
        (yields_node (quotesRight right rfl)).bind (steady_node _) fun _ second =>
          (yields_pattern? fun reads => quoted reads right rfl).bind (steady_pattern? _ _)
            fun _ known => .pure (.binary first second known)
  | .logical operator _ (some left) (some right) =>
    cases quotes with
    | logical quotesLeft quotesRight =>
      rw [node]
      exact (yields_node (quotesLeft left rfl)).bind (steady_node _) fun _ first =>
        (yields_node (quotesRight right rfl)).bind (steady_node _) fun _ second =>
          .pure (.logical first second)
  | .number .. | .boolean .. | .null .. => rw [node]; exact .pure .constant
  | .closing .. | .unary _ _ none | .binary _ _ none _ | .binary _ _ (some _) none =>
    rw [node]; exact .fail _ _
  | .logical _ _ none _ | .logical _ _ (some _) none => rw [node]; exact .fail _ _

/-- Where all patterns are quoted text, the expressions of nodes know their patterns. -/
theorem yields_nodes {l : List Node} (quotes : ∀ n ∈ l, n.QuotesPatterns) :
    Yields (fun es => ∀ e ∈ es, Expr.KnowsPatterns e) (nodes l) := by
  match l with
  | [] => rw [nodes]; exact .pure (List.forall_mem_nil _)
  | first :: rest =>
    obtain ⟨quotesFirst, quotesRest⟩ := List.forall_mem_cons.mp quotes
    rw [nodes]
    exact (yields_node quotesFirst).bind (steady_node _) fun _ known =>
      (yields_nodes quotesRest).bind (steady_nodes _) fun _ more =>
        .pure (List.forall_mem_cons.mpr ⟨known, more⟩)

end

/-- Where all patterns are quoted text, the predicate of nodes finds no pattern malformed. -/
theorem yields_predicate {l : List Node} (quotes : ∀ n ∈ l, n.QuotesPatterns) :
    Yields (fun object => ∀ s, FindsNoFlaw (object.value.test s)) (predicate l) := by
  refine (yields_nodes quotes).bind (steady_nodes l) fun clauses known => ?_
  rintro w _ _ _ ⟨⟩
  exact fun s => Predicate.findsNoFlaw_test known

end Compile

end MessageExpr
