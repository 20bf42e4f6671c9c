import MessageExpr.Code
import MessageExpr.Proofs.Compile.Refused
import MessageExpr.Proofs.Node.WellFormed

/-!
# Why well-formed nodes are refused

Well-formed nodes have all that writing and compiling them asks for, apart from the names of the
functions. So only a name can be refused: one that no function has or, in code, one that depends
on a message.

## Main definitions

* `Fault.InName` — a fault in the name of a function
* `Compile.FailsInName` — a step of compiling that is refused for the name of a function only

## Main results

* `fault_of_ofPredicate` — why well-formed nodes cannot be written as a condition
* `failsInName_predicate` — why well-formed nodes cannot be compiled
-/

namespace MessageExpr

/-- A fault in the name of a function. -/
def Fault.InName (fault : Fault) : Prop :=
  (∃ name, fault = .unknownFunction name) ∨ ∃ block, fault = .dynamicFunction block

/-! ## Code -/

namespace Code

variable {wrap : String → String} {p : Problem}

private theorem fault_of_ofFunctionNode {node : Node} {token : Token} {children : List Node}
    (h : ofFunctionNode node token children = .error p) : p.fault.InName := by
  unfold ofFunctionNode at h
  split at h
  · cases h
    exact .inr ⟨_, rfl⟩
  · simp only at h
    split at h
    · cases h
    · cases h
      exact .inl ⟨_, rfl⟩

private theorem fault_of_held {n : Node} (held : n.Held) (h : value wrap n = .error p) :
    p.fault.InName := by
  cases held with
  | literal =>
    rw [value] at h
    cases h
  | function =>
    rw [value] at h
    exact fault_of_ofFunctionNode h

private theorem fault_of_pieces {children : List Node} (held : ∀ c ∈ children, c.Held)
    (h : pieces wrap children = .error p) : p.fault.InName := by
  induction children with
  | nil =>
    rw [pieces] at h
    cases h
  | cons child rest ih =>
    obtain ⟨head, others⟩ := List.forall_mem_cons.mp held
    cases head with
    | literal =>
      rw [pieces] at h
      exact ih others (error_of_bind_pure h)
    | function inner =>
      rw [pieces, bind_eq_error] at h
      · rcases h with failed | ⟨code, -, made⟩
        · exact fault_of_held (.function inner) failed
        · exact ih others (error_of_bind_pure made)
      · simp

/-- A well-formed node is written unless the name of a function is refused. -/
theorem fault_of_value {n : Node} (formed : n.WellFormed) (h : value wrap n = .error p) :
    p.fault.InName := by
  induction formed with
  | @block kind token children held =>
    cases kind with
    | function =>
      rw [BlockKind.form, value] at h
      exact fault_of_ofFunctionNode h
    | singleQuote | doubleQuote =>
      rw [BlockKind.form, value] at h
      split at h
      · exact fault_of_pieces held (error_of_bind_pure h)
      · cases h
  | unary _ _ ih =>
    rw [value] at h
    exact ih (error_of_bind_pure h)
  | binary _ _ _ _ ihLeft ihRight | logical _ _ _ ihLeft ihRight =>
    rw [value, bind_eq_error] at h
    rcases h with failed | ⟨first, -, rest⟩
    · exact ihLeft failed
    · exact ihRight (error_of_bind_pure rest)
  | number | boolean | null =>
    rw [value] at h
    cases h

/-- Well-formed nodes are written as a condition unless the name of a function is refused. -/
theorem fault_of_ofPredicate {nodes : List Node} (formed : ∀ n ∈ nodes, n.WellFormed)
    (h : ofPredicate nodes = .error p) : p.fault.InName := by
  rw [ofPredicate, map_eq_error] at h
  unfold clausesCode at h
  split at h
  · cases h
  · obtain ⟨n, mem, failed⟩ := mapM_eq_error (error_of_bind_pure h)
    rw [condition, map_eq_error] at failed
    exact fault_of_value (formed n mem) failed

end Code

/-! ## Compiling -/

namespace Compile

variable [PatternLibrary]

/-- Whatever was compiled before, the only problem that a step of compiling can meet is that a
function does not exist. -/
def FailsInName {α : Type} (step : CompileM α) : Prop :=
  ∀ workshop p workshop', step.run workshop = (.error (.problem p), workshop') →
    ∃ name, p.fault = .unknownFunction name

private theorem failsInName_of_held {n : Node} (held : n.Held) : FailsInName (node n) := by
  induction held with
  | literal =>
    rw [node]
    exact failsOnly_pure _
  | function _ ih =>
    rw [node]
    split
    · exact (failsOnly_nodes ih).bind fun _ => failsOnly_pure _
    · exact (failsOnly_function (fun name => ⟨name, rfl⟩) _).bind fun _ => failsOnly_pure _

/-- A well-formed node is compiled unless the name of a function or a pattern is refused. -/
theorem failsInName_of_wellFormed {n : Node} (formed : n.WellFormed) : FailsInName (node n) := by
  induction formed with
  | @block kind token children held =>
    -- The children are compiled one by one whatever kind of block they stand in.
    have inside := failsOnly_nodes fun c mem => failsInName_of_held (held c mem)
    cases kind with
    | function =>
      rw [BlockKind.form, node]
      split
      · exact inside.bind fun _ => failsOnly_pure _
      · exact (failsOnly_function (fun name => ⟨name, rfl⟩) _).bind fun _ => failsOnly_pure _
    | singleQuote | doubleQuote =>
      rw [BlockKind.form, node]
      split
      · exact inside.bind fun _ => failsOnly_pure _
      · exact failsOnly_pure _
  | unary _ _ ih =>
    rw [node]
    exact FailsOnly.bind ih fun _ => failsOnly_pure _
  | binary _ _ _ _ ihLeft ihRight =>
    rw [node]
    exact FailsOnly.bind ihLeft fun _ => FailsOnly.bind ihRight fun _ =>
      (failsOnly_pattern? _ _).bind fun _ => failsOnly_pure _
  | logical _ _ _ ihLeft ihRight =>
    rw [node]
    exact FailsOnly.bind ihLeft fun _ => FailsOnly.bind ihRight fun _ => failsOnly_pure _
  | number | boolean | null =>
    rw [node]
    exact failsOnly_pure _

/-- Well-formed nodes are compiled unless the name of a function or a pattern is refused. -/
theorem failsInName_predicate {l : List Node} (formed : ∀ n ∈ l, n.WellFormed) :
    FailsInName (predicate l) := by
  have inside := failsOnly_nodes fun n mem => failsInName_of_wellFormed (formed n mem)
  exact inside.bind fun clauses => failsOnly_make _

end Compile

end MessageExpr
