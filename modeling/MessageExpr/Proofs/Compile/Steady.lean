import MessageExpr.Proofs.Cache.Holding
import MessageExpr.Proofs.Compile
import MessageExpr.Proofs.Except

/-!
# Shared functions do not show

A cache of functions that only compiling writes to holds under every name the function of that
name. Compiling with such a cache has the same outcome as compiling without one, up to the numbers
of objects, and leaves such a cache behind, also when it fails.

## Main definitions

* `Workshop.IsHonest` — under every name there is the function of that name
* `Compile.plain` — the outcome of compiling without shared functions
* `Compile.Steady` — compiling whose outcome does not depend on the shared functions

## Main results

* `Compile.steady_node`, `Compile.steady_nodes` — the expressions of nodes
* `Compile.steady_expression`, `Compile.steady_predicate` — the objects of nodes
-/

namespace MessageExpr

variable [PatternLibrary]

/-- Whether a shared object is the function of its name. -/
def Object.IsFunctionOf (name : String) (object : Object Expr) : Prop :=
  ∃ f, Function.ofName? name = some f ∧ object.value = .function f

/-- Whether all shared objects, if there are any, are the functions of their names. -/
def Workshop.IsHonest (workshop : Workshop) : Prop :=
  ∀ cache, workshop.functions = some cache → cache.Holds Object.IsFunctionOf

namespace Workshop

theorem isHonest_none (made : Nat) : IsHonest ⟨none, made⟩ := nofun

theorem isHonest_empty (capacity made : Nat) : IsHonest ⟨some (.empty capacity), made⟩ := by
  rintro _ ⟨⟩
  exact Cache.holds_empty _ capacity

end Workshop

namespace Compile

variable {α β γ δ : Type} {view : α → γ} {view' : β → δ}

/-- The outcome of compiling without shared functions. -/
def plain (step : CompileM α) : Except CompileError α := (step.run ⟨none, 0⟩).1

/-- Whether what is seen of the outcome of compiling is the same for all honest shared functions,
which stay honest. -/
structure Steady (view : α → γ) (step : CompileM α) : Prop where
  map_eq : ∀ w, w.IsHonest → (step.run w).1.map view = (plain step).map view
  isHonest : ∀ w, w.IsHonest → (step.run w).2.IsHonest

namespace Steady

/-- What has one outcome for all honest shared functions. -/
theorem of_run {step : CompileM α} (outcome : Except CompileError γ)
    (run : ∀ w, w.IsHonest → (step.run w).1.map view = outcome ∧ (step.run w).2.IsHonest) :
    Steady view step where
  map_eq := fun w honest => (run w honest).1.trans (run _ (Workshop.isHonest_none 0)).1.symm
  isHonest := fun w honest => (run w honest).2

theorem pure (view : α → γ) (a : α) : Steady view (pure a : CompileM α) :=
  of_run (.ok (view a)) fun _ honest => ⟨rfl, honest⟩

private theorem throw (view : α → γ) (e : CompileError) : Steady view (throw e : CompileM α) :=
  of_run (.error e) fun _ honest => ⟨rfl, honest⟩

theorem make (a : α) : Steady Object.value (Compile.make a) :=
  of_run (.ok a) fun _ honest => ⟨rfl, honest⟩

/-- One step after another, where the second step depends on what is seen of the first. -/
theorem bind {step : CompileM α} {next : α → CompileM β} (h : Steady view step)
    (rest : ∀ a, Steady view' (next a))
    (same : ∀ a b, view a = view b → (plain (next a)).map view' = (plain (next b)).map view') :
    Steady view' (step >>= next) := by
  have run (w : Workshop) (honest : w.IsHonest) :
      ((step >>= next).run w).1.map view' =
          (match plain step with
            | .ok a => (plain (next a)).map view'
            | .error e => .error e) ∧
        ((step >>= next).run w).2.IsHonest := by
    have outcome := h.map_eq w honest
    have between := h.isHonest w honest
    rw [run_bind]
    generalize step.run w = result at outcome between
    cases stepped : plain step with
    | error e =>
      rw [stepped, Except.map, map_eq_error] at outcome
      obtain ⟨_, w'⟩ := result
      cases outcome
      exact ⟨rfl, between⟩
    | ok b =>
      rw [stepped, Except.map, map_eq_ok] at outcome
      obtain ⟨a, ran, seen⟩ := outcome
      obtain ⟨_, w'⟩ := result
      cases ran
      exact ⟨((rest a).map_eq w' between).trans (same a b seen), (rest a).isHonest w' between⟩
  exact of_run _ run

/-- One step after another, where all of the first step is seen. -/
theorem seq {step : CompileM α} {next : α → CompileM β} (h : Steady id step)
    (rest : ∀ a, Steady view' (next a)) : Steady view' (step >>= next) := by
  refine h.bind rest ?_
  rintro a _ rfl
  rfl

end Steady

/-! ## Functions -/

/-- What is found under a name is its function. -/
theorem run_cached? (name : String) {w : Workshop} (honest : w.IsHonest) :
    ∃ found w', (cached? name).run w = (.ok found, w') ∧ w'.IsHonest ∧
      ∀ object ∈ found, object.IsFunctionOf name := by
  obtain ⟨_ | cache, made⟩ := w
  · exact ⟨none, _, rfl, honest, nofun⟩
  · have holds := honest cache rfl
    refine ⟨_, _, rfl, ?_, fun object found => holds.of_get found⟩
    rintro _ ⟨⟩
    exact holds.get name

/-- Storing the function of a name keeps the shared functions honest. -/
theorem run_store (name : String) (object : Object Expr) {w : Workshop} (honest : w.IsHonest)
    (new : object.IsFunctionOf name) :
    ∃ w', (store name object).run w = (.ok (), w') ∧ w'.IsHonest := by
  refine ⟨_, rfl, ?_⟩
  obtain ⟨_ | cache, made⟩ := w
  · exact nofun
  · rintro _ ⟨⟩
    exact (honest cache rfl).put new

/-- The expression of a function, or that there is no such function. -/
def functionOutcome (token : Token) (name : String) : Except CompileError Expr :=
  match Function.ofName? name with
  | some f => .ok (.function f)
  | none => .error (.problem ⟨.unknownFunction name, token.index⟩)

/-- A function is compiled to the function of its name, whether it is shared or not. -/
theorem run_function (token : Token) (children : List Node) {w : Workshop} (honest : w.IsHonest) :
    ((function token children).run w).1.map Object.value =
        functionOutcome token (trimmed (Node.literalTexts children)) ∧
      ((function token children).run w).2.IsHonest := by
  rw [function, functionOutcome]
  generalize trimmed (Node.literalTexts children) = name
  obtain ⟨found, w', looked, honest', isFunction⟩ := run_cached? name honest
  rw [run_bind, looked]
  cases found with
  | some object =>
    obtain ⟨f, named, value⟩ := isFunction object rfl
    rw [named]
    exact ⟨congrArg Except.ok value, honest'⟩
  | none =>
    cases named : Function.ofName? name with
    | none => exact ⟨rfl, honest'⟩
    | some f =>
      let object : Object Expr := ⟨w'.made, .function f⟩
      obtain ⟨w'', stored, honest''⟩ :=
        run_store name object (w := { w' with made := w'.made + 1 }) honest' ⟨f, named, rfl⟩
      have ran : (make (.function f) >>= fun object =>
          store name object >>= fun _ => pure object).run w' = (.ok object, w'') := by
        rw [run_bind]
        change (store name object >>= fun _ => pure object).run { w' with made := w'.made + 1 } = _
        rw [run_bind, stored]
        rfl
      exact ⟨congrArg (fun result => result.1.map Object.value) ran, congrArg (·.2) ran ▸ honest''⟩

theorem steady_function (token : Token) (children : List Node) :
    Steady Object.value (function token children) :=
  .of_run _ fun _ honest => run_function token children honest

/-! ## Nodes -/

private theorem steady_fail (view : α → γ) (fault : Fault) (index : Nat) :
    Steady view (fail fault index : CompileM α) :=
  .throw view _

theorem steady_pattern? (operator : BinaryOperator) (right : Node) :
    Steady id (pattern? operator right) := by
  rw [pattern?]
  split
  · exact .pure _ _
  · split
    · exact .pure _ _
    · exact .throw _ _

mutual

/-- The expression of a node does not depend on the shared functions. -/
theorem steady_node (n : Node) : Steady id (node n) := by
  match n with
  | .literal _ text => rw [node]; exact .pure _ _
  | .block .function finish token children =>
    rw [node]
    split
    · exact (steady_nodes children).seq fun _ => .pure _ _
    · refine (steady_function token children).bind (fun _ => .pure _ _) fun a b same => ?_
      exact congrArg Except.ok same
  | .block .quote finish token children =>
    rw [node]
    split
    · exact (steady_nodes children).seq fun _ => .pure _ _
    · exact .pure _ _
  | .closing _ _ token => rw [node]; exact steady_fail _ _ _
  | .unary operator token none => rw [node]; exact steady_fail _ _ _
  | .unary operator _ (some operand) =>
    rw [node]
    exact (steady_node operand).seq fun _ => .pure _ _
  | .binary operator token none _ => rw [node]; exact steady_fail _ _ _
  | .binary operator token (some _) none => rw [node]; exact steady_fail _ _ _
  | .binary operator _ (some left) (some right) =>
    rw [node]
    exact (steady_node left).seq fun _ => (steady_node right).seq fun _ =>
      (steady_pattern? operator right).seq fun _ => .pure _ _
  | .logical operator token none _ => rw [node]; exact steady_fail _ _ _
  | .logical operator token (some _) none => rw [node]; exact steady_fail _ _ _
  | .logical operator _ (some left) (some right) =>
    rw [node]
    exact (steady_node left).seq fun _ => (steady_node right).seq fun _ => .pure _ _
  | .number _ value _ => rw [node]; exact .pure _ _
  | .boolean token => rw [node]; exact .pure _ _
  | .null _ => rw [node]; exact .pure _ _

/-- The expressions of nodes do not depend on the shared functions. -/
theorem steady_nodes (l : List Node) : Steady id (nodes l) := by
  match l with
  | [] => rw [nodes]; exact .pure _ _
  | first :: rest =>
    rw [nodes]
    exact (steady_node first).seq fun _ => (steady_nodes rest).seq fun _ => .pure _ _

end

/-! ## One step after another -/

/-- Without shared functions one step after another has the outcome of the second one with what the
first one gives. -/
theorem map_plain_bind {step : CompileM α} {next : α → CompileM β} (h : Steady id step)
    (rest : ∀ a, Steady view' (next a)) :
    (plain (step >>= next)).map view' = plain step >>= fun a => (plain (next a)).map view' := by
  have between := h.isHonest _ (Workshop.isHonest_none 0)
  rw [plain, run_bind, plain]
  generalize step.run ⟨none, 0⟩ = result at between
  obtain ⟨e | a, w⟩ := result
  · rfl
  · exact (rest a).map_eq w between

theorem plain_nodes_cons (first : Node) (rest : List Node) :
    plain (nodes (first :: rest)) =
      (do let e ← plain (node first); let es ← plain (nodes rest); pure (e :: es)) := by
  have whole {α : Type} (x : Except CompileError α) : x.map id = x := by cases x <;> rfl
  rw [nodes, ← whole (plain _), map_plain_bind (steady_node first) fun e =>
    (steady_nodes rest).seq fun es => .pure id (e :: es)]
  congr 1
  funext e
  rw [map_plain_bind (steady_nodes rest) fun es => .pure id (e :: es)]
  rfl

/-- The nodes of two lists are compiled one after the other. -/
theorem plain_nodes_append (l l' : List Node) :
    plain (nodes (l ++ l')) =
      (do let es ← plain (nodes l); let es' ← plain (nodes l'); pure (es ++ es')) := by
  induction l with
  | nil =>
    rw [List.nil_append]
    cases plain (nodes l') <;> rfl
  | cons first rest ih =>
    rw [List.cons_append, plain_nodes_cons, plain_nodes_cons, ih]
    cases plain (node first) with
    | error e => rfl
    | ok e =>
      cases plain (nodes rest) with
      | error e => rfl
      | ok es => cases plain (nodes l') <;> rfl

/-- What is compiled from nodes is not empty. -/
theorem ne_nil_of_plain_nodes {l : List Node} {es : List Expr} (h : plain (nodes l) = .ok es)
    (nonempty : l ≠ []) : es ≠ [] := by
  obtain ⟨first, rest, rfl⟩ := List.exists_cons_of_ne_nil nonempty
  rw [plain_nodes_cons] at h
  obtain ⟨e, -, more⟩ := bind_eq_ok.mp h
  obtain ⟨es', -, made⟩ := bind_eq_ok.mp more
  obtain rfl := pure_eq_ok.mp made
  exact List.cons_ne_nil _ _

/-! ## Objects -/

private theorem steady_single (one : Node) : Steady Object.value (single one) := by
  unfold single
  split
  · split
    · exact (steady_node _).seq fun _ => .make _
    · exact steady_function _ _
  · exact (steady_node _).seq fun _ => .make _

/-- The value of the object of a template does not depend on the shared functions. -/
theorem steady_expression (l : List Node) : Steady Object.value (expression l) := by
  unfold expression
  split
  · exact .make _
  · exact steady_single _
  · exact (steady_nodes _).seq fun _ => .make _

/-- The value of the object of a condition does not depend on the shared functions. -/
theorem steady_predicate (l : List Node) : Steady Object.value (predicate l) :=
  (steady_nodes l).seq fun _ => .make _

end Compile

end MessageExpr
