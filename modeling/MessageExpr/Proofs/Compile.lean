import MessageExpr.Compile

/-!
# Steps of compiling

How a row of steps of compiling ends, step by step.

## Main results

* `Compile.run_bind` — one step after another
* `Compile.run_bind_eq_ok`, `Compile.run_pure_eq_ok` — a row of steps succeeds when its steps do
-/

namespace MessageExpr.Compile

variable [PatternLibrary] {α β : Type}

theorem run_bind (step : CompileM α) (next : α → CompileM β) (workshop : Workshop) :
    (step >>= next).run workshop =
      match step.run workshop with
      | (.ok a, workshop') => (next a).run workshop'
      | (.error e, workshop') => (.error e, workshop') := by
  simp only [bind, ExceptT.bind, ExceptT.mk, ExceptT.bindCont, ExceptT.run, StateT.bind]
  rcases step workshop with ⟨_ | _, _⟩ <;> rfl

theorem run_bind_eq_ok {step : CompileM α} {next : α → CompileM β} {w w' : Workshop} {b : β} :
    (step >>= next).run w = (.ok b, w') ↔
      ∃ a between, step.run w = (.ok a, between) ∧ (next a).run between = (.ok b, w') := by
  rw [run_bind]
  rcases step.run w with ⟨e | a, between⟩
  · refine ⟨nofun, ?_⟩
    rintro ⟨a, between', failed, -⟩
    cases failed
  · refine ⟨fun h => ⟨a, between, rfl, h⟩, ?_⟩
    rintro ⟨a', between', compiled, h⟩
    cases compiled
    exact h

theorem run_pure_eq_ok {a b : α} {w w' : Workshop} :
    (pure a : CompileM α).run w = (.ok b, w') ↔ a = b ∧ w = w' := by
  constructor
  · intro h
    cases h
    exact ⟨rfl, rfl⟩
  · rintro ⟨rfl, rfl⟩
    rfl

end MessageExpr.Compile
