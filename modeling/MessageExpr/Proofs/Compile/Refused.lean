import MessageExpr.Proofs.Compile

/-!
# What a step of compiling is refused for

Compiling can meet a problem at a function that does not exist, at an operator without an operand
and where a block is closed that nothing opened. What such problems have in common is shown step by
step, whatever was compiled before.

## Main definitions

* `Compile.FailsOnly` — a step that meets problems of one kind only

## Main results

* `Compile.FailsOnly.bind` — one step after another
* `Compile.failsOnly_function` — a function is refused for its name only
-/

namespace MessageExpr.Compile

variable [PatternLibrary]

/-- Whatever was compiled before, the problems that a step of compiling can meet are of one kind. -/
def FailsOnly {α : Type} (Q : Problem → Prop) (step : CompileM α) : Prop :=
  ∀ workshop p workshop', step.run workshop = (.error (.problem p), workshop') → Q p

variable {α β : Type} {Q : Problem → Prop}

theorem failsOnly_pure (a : α) : FailsOnly Q (pure a) := by
  intro workshop p workshop' h
  cases h

theorem failsOnly_fail {fault : Fault} {index : Nat} (h : Q ⟨fault, index⟩) :
    FailsOnly Q (fail fault index : CompileM α) := by
  intro workshop p workshop' failed
  cases failed
  exact h

theorem FailsOnly.bind {step : CompileM α} {next : α → CompileM β} (h : FailsOnly Q step)
    (h' : ∀ a, FailsOnly Q (next a)) : FailsOnly Q (step >>= next) := by
  intro workshop p workshop' failed
  rw [run_bind] at failed
  split at failed
  · exact h' _ _ _ _ failed
  · rename_i e workshop'' run
    cases failed
    exact h _ _ _ run

private theorem failsOnly_cached? (key : String) : FailsOnly Q (cached? key) := by
  intro workshop p workshop' failed
  obtain ⟨functions, made⟩ := workshop
  cases functions <;> cases failed

theorem failsOnly_make (a : α) : FailsOnly Q (make a) := by
  intro workshop p workshop' failed
  cases failed

private theorem failsOnly_store (key : String) (object : Object Expr) :
    FailsOnly Q (store key object) := by
  intro workshop p workshop' failed
  cases failed

/-- A function is refused when no function has its name. -/
theorem failsOnly_function {token : Token}
    (unknown : ∀ name, Q ⟨.unknownFunction name, token.index⟩) (children : List Node) :
    FailsOnly Q (function token children) := by
  -- A function that was stored before is taken as it is, and others are made by their names.
  refine (failsOnly_cached? _).bind fun found => ?_
  cases found with
  | some object => exact failsOnly_pure object
  | none =>
    simp only
    split
    · exact failsOnly_fail (unknown _)
    · exact (failsOnly_make _).bind fun object =>
        (failsOnly_store _ object).bind fun _ => failsOnly_pure object

theorem failsOnly_pattern? (operator : BinaryOperator) (right : Node) :
    FailsOnly Q (pattern? operator right) := by
  unfold pattern?
  split
  · exact failsOnly_pure none
  · split
    · exact failsOnly_pure _
    · intro workshop p workshop' failed
      cases failed

theorem failsOnly_nodes {l : List Node} (h : ∀ n ∈ l, FailsOnly Q (node n)) :
    FailsOnly Q (nodes l) := by
  induction l with
  | nil =>
    rw [nodes]
    exact failsOnly_pure []
  | cons first rest ih =>
    rw [nodes]
    refine (h first (by simp)).bind fun e => ?_
    exact (ih fun n mem => h n (List.mem_cons_of_mem _ mem)).bind fun _ => failsOnly_pure _

end MessageExpr.Compile
