import Mathlib.Data.List.Forall2
import MessageExpr.Pattern.Read
import MessageExpr.Proofs.Compile.Quoted

/-!
# Patterns read ahead of time do not show

Compiling reads the pattern of a comparison ahead of time if the pattern is quoted text without
functions. Compiling in the same way but leaving every pattern to evaluation makes the same objects
and gives an expression with the same value, or the same failure, on every exchange: the pattern
that is read from the text of the right side then is the pattern that was read from the nodes.

## Main definitions

* `Compile.nodeWith`, `Compile.expressionWith`, `Compile.predicateWith` — compiling with a given way
  to find the pattern of a comparison
* `Compile.leave` — the way to leave every pattern to evaluation
* `Compile.Tracks` — one step of compiling goes as another one does

## Main results

* `Compile.nodeWith_pattern?`, `Compile.expressionWith_pattern?`, `Compile.predicateWith_pattern?` —
  compiling is compiling with the patterns that are known
* `Compile.tracks_node` — leaving the patterns to evaluation changes no value of a node
* `Compile.predicate_late` — what leaving the patterns to evaluation means for the objects of nodes
-/

namespace MessageExpr

section

variable [PatternLibrary]

namespace Compile

/-- A way to find the pattern of a comparison with a given right side. -/
abbrev Finder := BinaryOperator → Node → CompileM (Option PatternLibrary.Compiled)

/-- Leaves a pattern to evaluation. -/
def leave : Finder := fun _ _ => pure none

/-! ## Compiling with a way to find patterns -/

mutual

/-- The expression of a node, with the patterns that are found in a given way. -/
def nodeWith (find : Finder) : Node → CompileM Expr
  | .block .function finish token children =>
    if Node.hasFunctions children then do
      let parts ← nodesWith find children
      pure (.dynamic parts)
    else node (.block .function finish token children)
  | .block .quote finish token children =>
    if Node.hasFunctions children then do
      let parts ← nodesWith find children
      pure (.joined parts)
    else node (.block .quote finish token children)
  | .unary operator _ (some operand) => do
    let operand ← nodeWith find operand
    pure (.unary operator operand)
  | .binary operator _ (some left) (some right) => do
    let first ← nodeWith find left
    let second ← nodeWith find right
    let pattern ← find operator right
    pure (.binary operator first second pattern)
  | .logical operator _ (some left) (some right) => do
    let first ← nodeWith find left
    let second ← nodeWith find right
    pure (.logical operator first second)
  | other => node other

/-- The expressions of nodes, with the patterns that are found in a given way. -/
def nodesWith (find : Finder) : List Node → CompileM (List Expr)
  | [] => pure []
  | first :: rest => do
    let e ← nodeWith find first
    let more ← nodesWith find rest
    pure (e :: more)

end

/-- The object of a template, with the patterns that are found in a given way. -/
def expressionWith (find : Finder) (l : List Node) : CompileM (Object Expr) :=
  match l with
  | [.block .function finish token children] =>
    if Node.hasFunctions children then do
      let e ← nodeWith find (.block .function finish token children)
      make e
    else expression [.block .function finish token children]
  | [one] => do
    let e ← nodeWith find one
    make e
  | [] => expression []
  | l => do
    let parts ← nodesWith find l
    make (.joined parts)

/-- The object of a condition, with the patterns that are found in a given way. -/
def predicateWith (find : Finder) (l : List Node) : CompileM (Object Predicate) := do
  let clauses ← nodesWith find l
  make ⟨clauses⟩

mutual

/-- Compiling a node is compiling it with the patterns that are known. -/
theorem nodeWith_pattern? (n : Node) : nodeWith pattern? n = node n := by
  match n with
  | .block .function _ _ children =>
    rw [nodeWith, node, nodesWith_pattern? children]
    split <;> rfl
  | .block .quote _ _ children =>
    rw [nodeWith, node, nodesWith_pattern? children]
    split <;> rfl
  | .unary _ _ (some operand) => rw [nodeWith, node, nodeWith_pattern? operand]
  | .binary _ _ (some left) (some right) =>
    rw [nodeWith, node, nodeWith_pattern? left, nodeWith_pattern? right]
  | .logical _ _ (some left) (some right) =>
    rw [nodeWith, node, nodeWith_pattern? left, nodeWith_pattern? right]
  | .literal .. | .closing .. | .number .. | .boolean .. | .null .. => rfl
  | .unary _ _ none | .binary _ _ none _ | .binary _ _ (some _) none => rfl
  | .logical _ _ none _ | .logical _ _ (some _) none => rfl

private theorem nodesWith_pattern? (l : List Node) : nodesWith pattern? l = nodes l := by
  match l with
  | [] => rfl
  | first :: rest => rw [nodesWith, nodes, nodeWith_pattern? first, nodesWith_pattern? rest]

end

/-- Compiling a template is compiling it with the patterns that are known. -/
theorem expressionWith_pattern? (l : List Node) : expressionWith pattern? l = expression l := by
  unfold expressionWith
  split
  · rw [nodeWith_pattern?, expression, single]
    split <;> rfl
  · rename_i one notFunction
    rw [nodeWith_pattern?, expression, single]
    exact notFunction
  · rfl
  · rename_i many notEmpty
    rw [nodesWith_pattern?, expression]
    · exact notEmpty
    · exact many

/-- Compiling a condition is compiling it with the patterns that are known. -/
theorem predicateWith_pattern? (l : List Node) : predicateWith pattern? l = predicate l := by
  rw [predicateWith, predicate, nodesWith_pattern?]

end Compile

/-! ## Patterns at evaluation -/

/-- A pattern that was read from a text matches what the text does as a pattern. -/
theorem BinaryOperator.apply_known {operator : BinaryOperator} {text : String}
    {p : PatternLibrary.Compiled}
    (read : PatternLibrary.compileWhole text = .ok p) (v : Value) :
    operator.apply (some p) v (.string text) = operator.apply none v (.string text) := by
  have same : matchesPattern (some p) v (.string text) = matchesPattern none v (.string text) := by
    have isText : (Value.string text).text = text := rfl
    rw [matchesPattern, matchesPattern]
    split
    · rfl
    · simp only [isText, read]
  cases operator with
  | regex => exact same
  | notRegex => exact congrArg (Except.map (!·)) same
  | _ => rfl

namespace Expr

/-- Two expressions have the same value, or fail in the same way, on every exchange. -/
def SameValue (e e' : Expr) : Prop := ∀ s, e.evaluate s = e'.evaluate s

variable {e e' : Expr} {es es' : List Expr}

private theorem evaluateText_congr (same : List.Forall₂ SameValue es es') (s : Surroundings) :
    evaluateText s es = evaluateText s es' := by
  induction same with
  | nil => rfl
  | cons first _ ih => rw [evaluateText, evaluateText, first s, ih]

theorem SameValue.joined (same : List.Forall₂ SameValue es es') :
    SameValue (.joined es) (.joined es') := by
  intro s
  rw [evaluate, evaluate, evaluateText_congr same]

theorem SameValue.dynamic (same : List.Forall₂ SameValue es es') :
    SameValue (.dynamic es) (.dynamic es') := by
  intro s
  rw [evaluate, evaluate, evaluateText_congr same]

theorem SameValue.unary (operator : UnaryOperator) (same : SameValue e e') :
    SameValue (.unary operator e) (.unary operator e') := by
  intro s
  rw [evaluate, evaluate, same s]

theorem SameValue.logical (operator : LogicalOperator) {left left' right right' : Expr}
    (first : SameValue left left') (second : SameValue right right') :
    SameValue (.logical operator left right) (.logical operator left' right') := by
  intro s
  rw [evaluate, evaluate, first s, second s]

/-- A comparison has the same value without its pattern if the pattern was read from the text of
its right side. -/
theorem SameValue.binary (operator : BinaryOperator) {left left' right right' : Expr}
    {known : Option PatternLibrary.Compiled} (first : SameValue left left')
    (second : SameValue right right')
    (read : ∀ p ∈ known, ∃ text,
      right = .constant (.string text) ∧ PatternLibrary.compileWhole text = .ok p) :
    SameValue (.binary operator left right known) (.binary operator left' right' none) := by
  intro s
  rw [evaluate, evaluate, ← first s, ← second s]
  cases known with
  | none => rfl
  | some p =>
    obtain ⟨text, rfl, fromText⟩ := read p rfl
    simp only [evaluate, bind, Except.bind, BinaryOperator.apply_known fromText]

end Expr

theorem Predicate.testAll_congr {es es' : List Expr} (same : List.Forall₂ Expr.SameValue es es')
    (s : Surroundings) : testAll s es = testAll s es' := by
  induction same with
  | nil => rfl
  | cons first _ ih => rw [testAll, testAll, first s, ih]

theorem Predicate.test_congr {es es' : List Expr} (same : List.Forall₂ Expr.SameValue es es')
    (s : Surroundings) : test s ⟨es⟩ = test s ⟨es'⟩ := by
  cases same with
  | nil => rfl
  | cons first rest => exact testAll_congr (.cons first rest) s

/-! ## Leaving patterns to evaluation -/

namespace Compile

variable {α β γ δ : Type} {R : α → β → Prop} {S : γ → δ → Prop}

/-- When one step of compiling succeeds, another one does, with a related result and the same
objects made on the way. -/
def Tracks (R : α → β → Prop) (step : CompileM α) (step' : CompileM β) : Prop :=
  ∀ w a w', step.run w = (.ok a, w') → ∃ b, step'.run w = (.ok b, w') ∧ R a b

namespace Tracks

private theorem pure {a : α} {b : β} (h : R a b) : Tracks R (pure a) (pure b) := by
  rintro w _ _ ⟨⟩
  exact ⟨b, rfl, h⟩

private theorem refl {R : α → α → Prop} (step : CompileM α) (h : ∀ a, R a a) : Tracks R step step :=
  fun _ a _ ran => ⟨a, ran, h a⟩

theorem bind {step : CompileM α} {step' : CompileM β} {next : α → CompileM γ}
    {next' : β → CompileM δ} (h : Tracks R step step')
    (rest : ∀ a b, R a b → Tracks S (next a) (next' b)) :
    Tracks S (step >>= next) (step' >>= next') := by
  intro w c w' ran
  obtain ⟨a, between, first, second⟩ := run_bind_eq_ok.mp ran
  obtain ⟨b, first', related⟩ := h w a between first
  obtain ⟨d, second', related⟩ := rest a b related between c w' second
  exact ⟨d, run_bind_eq_ok.mpr ⟨b, between, first', second'⟩, related⟩

private theorem make {a : α} {b : β} (h : R a b) :
    Tracks (fun (o : Object α) (o' : Object β) => o.id = o'.id ∧ R o.value o'.value)
      (Compile.make a) (Compile.make b) := by
  rintro w _ _ ⟨⟩
  exact ⟨_, rfl, rfl, h⟩

end Tracks

omit [PatternLibrary] in
/-- A known pattern is quoted text without functions. -/
theorem exists_of_knownPattern? {operator : BinaryOperator} {right : Node} {text : String}
    (known : knownPattern? operator right = some text) :
    ∃ finish token children, right = .block .quote finish token children ∧
      Node.hasFunctions children = false ∧ text = Node.literalTexts children := by
  unfold knownPattern? at known
  split at known
  · split at known
    · cases known
    · rename_i plain
      cases known
      exact ⟨_, _, _, rfl, (Bool.not_eq_true _).mp plain, rfl⟩
  · split at known
    · cases known
    · rename_i plain
      cases known
      exact ⟨_, _, _, rfl, (Bool.not_eq_true _).mp plain, rfl⟩
  · cases known

/-- A pattern that is read ahead of time is read from the text that the right side has as its
value. -/
theorem read_of_pattern? {operator : BinaryOperator} {right : Node} {e : Expr}
    {w w₁ w₂ w₃ : Workshop} {known : Option PatternLibrary.Compiled}
    (compiled : (node right).run w = (.ok e, w₁))
    (found : (pattern? operator right).run w₂ = (.ok known, w₃)) :
    w₂ = w₃ ∧
      ∀ p ∈ known, ∃ text,
        e = .constant (.string text) ∧ PatternLibrary.compileWhole text = .ok p := by
  unfold pattern? at found
  split at found
  · cases found
    exact ⟨rfl, nofun⟩
  · rename_i text quoted
    obtain ⟨finish, token, children, rfl, plain, rfl⟩ := exists_of_knownPattern? quoted
    rw [node, plain] at compiled
    cases compiled
    split at found
    · rename_i p read
      cases found
      refine ⟨rfl, ?_⟩
      rintro _ ⟨⟩
      exact ⟨_, rfl, read⟩
    · cases found

mutual

/-- The expression of a node has the same value when its patterns are left to evaluation. -/
theorem tracks_node (n : Node) : Tracks Expr.SameValue (node n) (nodeWith leave n) := by
  match n with
  | .block .function _ _ children =>
    rw [nodeWith]
    split
    · rename_i hasFunctions
      rw [node, if_pos hasFunctions]
      exact (tracks_nodes children).bind fun _ _ same => .pure (.dynamic same)
    · exact .refl _ fun _ _ => rfl
  | .block .quote _ _ children =>
    rw [nodeWith]
    split
    · rename_i hasFunctions
      rw [node, if_pos hasFunctions]
      exact (tracks_nodes children).bind fun _ _ same => .pure (.joined same)
    · exact .refl _ fun _ _ => rfl
  | .unary operator _ (some operand) =>
    rw [nodeWith, node]
    exact (tracks_node operand).bind fun _ _ same => .pure (.unary operator same)
  | .binary operator _ (some left) (some right) =>
    intro w e w' compiled
    rw [node] at compiled
    obtain ⟨first, w₁, compiledLeft, compiled⟩ := run_bind_eq_ok.mp compiled
    obtain ⟨second, w₂, compiledRight, compiled⟩ := run_bind_eq_ok.mp compiled
    -- The pattern is read last, from the text that the right side was compiled to.
    obtain ⟨known, w₃, found, made⟩ := run_bind_eq_ok.mp compiled
    obtain ⟨rfl, rfl⟩ := run_pure_eq_ok.mp made
    obtain ⟨rfl, read⟩ := read_of_pattern? compiledRight found
    obtain ⟨first', compiledLeft', sameLeft⟩ := tracks_node left w first w₁ compiledLeft
    obtain ⟨second', compiledRight', sameRight⟩ := tracks_node right w₁ second w₂ compiledRight
    refine ⟨.binary operator first' second' none, ?_, .binary operator sameLeft sameRight read⟩
    rw [nodeWith]
    exact run_bind_eq_ok.mpr ⟨first', w₁, compiledLeft',
      run_bind_eq_ok.mpr ⟨second', w₂, compiledRight', rfl⟩⟩
  | .logical operator _ (some left) (some right) =>
    rw [nodeWith, node]
    exact (tracks_node left).bind fun _ _ first => (tracks_node right).bind fun _ _ second =>
      .pure (.logical operator first second)
  | .literal .. | .closing .. | .number .. | .boolean .. | .null .. =>
    exact .refl _ fun _ _ => rfl
  | .unary _ _ none | .binary _ _ none _ | .binary _ _ (some _) none =>
    exact .refl _ fun _ _ => rfl
  | .logical _ _ none _ | .logical _ _ (some _) none => exact .refl _ fun _ _ => rfl

/-- The expressions of nodes have the same values when their patterns are left to evaluation. -/
theorem tracks_nodes (l : List Node) :
    Tracks (List.Forall₂ Expr.SameValue) (nodes l) (nodesWith leave l) := by
  match l with
  | [] => exact .pure .nil
  | first :: rest =>
    rw [nodes, nodesWith]
    exact (tracks_node first).bind fun _ _ same => (tracks_nodes rest).bind fun _ _ more =>
      .pure (.cons same more)

end

private theorem tracks_expression (l : List Node) :
    Tracks (fun object late => object.id = late.id ∧ Expr.SameValue object.value late.value)
      (expression l) (expressionWith leave l) := by
  unfold expressionWith
  split
  · split
    · rename_i hasFunctions
      rw [expression, single, if_pos hasFunctions]
      exact (tracks_node _).bind fun _ _ same => .make same
    · exact .refl _ fun _ => ⟨rfl, fun _ => rfl⟩
  · rename_i one notFunction
    rw [expression, single]
    · exact (tracks_node one).bind fun _ _ same => .make same
    · exact notFunction
  · exact .refl _ fun _ => ⟨rfl, fun _ => rfl⟩
  · rename_i many notEmpty
    rw [expression]
    · exact (tracks_nodes l).bind fun _ _ same => .make (.joined same)
    · exact notEmpty
    · exact many

private theorem tracks_predicate (l : List Node) :
    Tracks (fun object late => object.id = late.id ∧ ∀ s, object.value.test s = late.value.test s)
      (predicate l) (predicateWith leave l) :=
  (tracks_nodes l).bind fun _ _ same =>
    .make (R := fun p q : Predicate => ∀ s, p.test s = q.test s) (Predicate.test_congr same)

end Compile

end

namespace Compile

/-! ## Objects -/

/-- The objects of nodes and those made with every pattern left to evaluation have the same outcome
on every exchange, whatever shared functions there are. Where all patterns are quoted text without
functions, the predicate of nodes never finds a pattern malformed. -/
theorem predicate_late [PatternLibrary] (l : List Node) :
    (∀ w object w', (expression l).run w = (.ok object, w') →
        ∃ late, (expressionWith leave l).run w = (.ok late, w') ∧
          ∀ s, object.value.evaluate s = late.value.evaluate s) ∧
      (∀ w object w', (predicate l).run w = (.ok object, w') →
        ∃ late, (predicateWith leave l).run w = (.ok late, w') ∧
          ∀ s, object.value.test s = late.value.test s) ∧
      ((∀ n ∈ l, n.QuotesPatterns) → ∀ w, w.IsHonest →
        ∀ object w', (predicate l).run w = (.ok object, w') →
          ∀ s pattern flaw, object.value.test s ≠ .error (.badPattern pattern flaw)) := by
  refine ⟨fun w object w' compiled => ?_, fun w object w' compiled => ?_,
    fun quotes w honest object w' compiled => yields_predicate quotes w honest object w' compiled⟩
  · obtain ⟨late, compiledLate, -, same⟩ := tracks_expression l w object w' compiled
    exact ⟨late, compiledLate, same⟩
  · obtain ⟨late, compiledLate, -, same⟩ := tracks_predicate l w object w' compiled
    exact ⟨late, compiledLate, same⟩

/-- The node of `$\x7bbody\x7d regex 'a.*'`. -/
def startsWithA : Node :=
  .binary .regex ⟨.binaryOperator, "regex", 8, 5⟩
    (some (.block .function .function ⟨.functionStart, "$\x7b", 0, 2⟩
      [.literal ⟨.character, "b", 2, 1⟩ "body"]))
    (some (.block .quote .singleQuote ⟨.singleQuote, "\x27", 14, 1⟩
      [.literal ⟨.character, "a", 15, 1⟩ "a.*"]))

theorem predicate_late_startsWithA :
    startsWithA.QuotesPatterns ∧
      ∃ object w', (predicate [startsWithA]).run ⟨none, 0⟩ = (.ok object, w') ∧
        (∃ late, (predicateWith leave [startsWithA]).run ⟨none, 0⟩ = (.ok late, w') ∧
          ∀ s, object.value.test s = late.value.test s) ∧
        ∀ s pattern flaw, object.value.test s ≠ .error (.badPattern pattern flaw) := by
  have quotes : startsWithA.QuotesPatterns := by
    refine .binary ?_ ?_ fun _ => ?_
    · rintro _ ⟨⟩
      exact .block (List.forall_mem_singleton.mpr .literal)
    · rintro _ ⟨⟩
      exact .block (List.forall_mem_singleton.mpr .literal)
    · rintro _ ⟨⟩
      exact ⟨_, _, _, rfl, rfl⟩
  have isOk : ((predicate [startsWithA]).run ⟨none, 0⟩).1.isOk = true := by decide +kernel
  obtain ⟨object, made⟩ := exists_of_isOk isOk
  have compiled : (predicate [startsWithA]).run ⟨none, 0⟩ = (.ok object, _) := Prod.ext made rfl
  obtain ⟨-, late, fine⟩ := predicate_late [startsWithA]
  exact ⟨quotes, object, _, compiled, late _ _ _ compiled,
    fine (List.forall_mem_singleton.mpr quotes) _ (Workshop.isHonest_none 0) _ _ compiled⟩

end Compile

end MessageExpr
