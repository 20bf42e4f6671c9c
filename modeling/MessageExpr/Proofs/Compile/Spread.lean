import MessageExpr.Proofs.Compile.Beside
import MessageExpr.Proofs.Node.Spread

/-!
# The text of nodes

The nodes of a template stand for a text that an exchange decides: the texts of their values, one
after the other. Nodes side by side stand for their texts side by side. Where a literal begins and
ends does not matter for the text, so that literals can be taken apart into their characters.

## Main definitions

* `Compile.text?` — the text that nodes stand for, if they can be compiled

## Main results

* `Compile.text?_flatMap_spread` — taking literals apart does not change the text
* `Compile.text?_expression` — the value of a template adds the text of its nodes to a text
-/

namespace MessageExpr

variable [PatternLibrary]

open Node

namespace Expr

/-- The texts of expressions side by side, where the first failure counts. -/
theorem evaluateText_append (s : Surroundings) (es es' : List Expr) :
    evaluateText s (es ++ es') =
      (do let text ← evaluateText s es; let text' ← evaluateText s es'; pure (text ++ text')) := by
  induction es with
  | nil =>
    rw [List.nil_append]
    cases evaluateText s es' <;> rfl
  | cons e es ih =>
    rw [List.cons_append, evaluateText, evaluateText, ih]
    cases evaluate s e with
    | error failure => rfl
    | ok v =>
      cases evaluateText s es with
      | error failure => rfl
      | ok text =>
        cases evaluateText s es' with
        | error failure => rfl
        | ok text' => exact congrArg Except.ok String.append_assoc.symm

/-- The text of a single expression is what its value adds to a text. -/
theorem evaluateText_singleton (s : Surroundings) (e : Expr) :
    evaluateText s [e] = (evaluate s e).map Value.piece := by
  rw [evaluateText, evaluateText]
  cases evaluate s e with
  | error failure => rfl
  | ok v => exact congrArg Except.ok String.append_empty

end Expr

namespace Compile

/-- A text that surroundings decide, or the reason why there is none. -/
abbrev Saying := Surroundings → Except Failure String

/-- A text after another one. -/
def Saying.beside (f g : Saying) : Saying := fun s => do
  let text ← f s
  let text' ← g s
  pure (text ++ text')

/-- The same text everywhere. -/
def Saying.always (text : String) : Saying := fun _ => .ok text

/-- The text that nodes stand for, if they can be compiled. -/
def text? (l : List Node) : Option Saying :=
  (plain (nodes l)).toOption.map fun es s => Expr.evaluateText s es

/-- Nodes side by side stand for their texts side by side. -/
theorem text?_append (l l' : List Node) :
    text? (l ++ l') = (do let f ← text? l; let g ← text? l'; some (f.beside g)) := by
  rw [text?, plain_nodes_append, text?, text?]
  cases plain (nodes l) with
  | error e => rfl
  | ok es =>
    cases plain (nodes l') with
    | error e => rfl
    | ok es' => exact congrArg some (funext fun s => Expr.evaluateText_append s es es')

private theorem text?_literal (token : Token) (text : String) :
    text? [.literal token text] = some (.always text) :=
  congrArg some (funext fun s => Expr.evaluateText_singleton s (.constant (.string text)))

/-- The characters of a text stand for the text. -/
theorem text?_letters (text : String) : text? (letters text) = some (.always text) := by
  rw [letters, ← String.ofList_toList (s := text), String.toList_ofList]
  induction text.toList with
  | nil => rfl
  | cons c cs ih =>
    rw [List.map_cons, ← List.singleton_append, text?_append, ih, plainLiteral, text?_literal]
    have joined : String.singleton c ++ String.ofList cs = String.ofList (c :: cs) := by
      simp
    exact congrArg (fun text => some (Saying.always text)) joined

/-- A node stands for the same text without its place. -/
theorem text?_unplaced (n : Node) : text? [n.unplaced] = text? [n] := by
  refine congrArg (Option.map _) (Option.ext fun es => ?_)
  rw [toOption_eq_some, toOption_eq_some]
  exact plain_nodes_unplacedAll (l := [n])

/-- A node stands for the same text when it is taken apart. -/
theorem text?_spread (n : Node) : text? n.spread = text? [n] := by
  cases n with
  | literal token text => rw [spread, text?_letters, text?_literal]
  | _ => exact text?_unplaced _

/-- Nodes stand for the same text when literals are taken apart. -/
theorem text?_flatMap_spread (l : List Node) : text? (l.flatMap spread) = text? l := by
  induction l with
  | nil => rfl
  | cons n l ih =>
    rw [List.flatMap_cons, text?_append, ih, text?_spread, ← text?_append, List.singleton_append]

/-! ## Templates -/

private theorem plain_single (one : Node) :
    (plain (single one)).map Object.value = plain (node one) := by
  have made (step : CompileM Expr) :
      (plain (step >>= make)).map Object.value = plain step := by
    rw [plain, plain, run_bind]
    rcases step.run ⟨none, 0⟩ with ⟨_ | _, _⟩ <;> rfl
  have found (step : CompileM (Object Expr)) :
      (plain step).map Object.value = plain (step >>= fun object => pure object.value) := by
    rw [plain, plain, run_bind]
    rcases step.run ⟨none, 0⟩ with ⟨_ | _, _⟩ <;> rfl
  unfold single
  split
  · rename_i token children
    split
    · exact made _
    · rw [found, node, if_neg ‹_›]
  · exact made _

/-- What the value of a template adds to a text is the text of its nodes. -/
theorem text?_expression (l : List Node) :
    ((plain (expression l)).map Object.value).toOption.map
      (fun e s => (e.evaluate s).map Value.piece) = text? l := by
  unfold expression
  split
  · rfl
  · rename_i one
    rw [plain_single, text?, plain_nodes_cons]
    cases plain (node one) with
    | error e => rfl
    | ok e => exact congrArg some (funext fun s => (Expr.evaluateText_singleton s e).symm)
  · -- Several nodes are joined, so that the value is a text already.
    rw [text?, plain, plain, run_bind]
    rcases (nodes l).run ⟨none, 0⟩ with ⟨_ | es, _⟩
    · rfl
    · refine congrArg some (funext fun s => ?_)
      change (Expr.evaluate s (.joined es)).map Value.piece = Expr.evaluateText s es
      rw [Expr.evaluate]
      cases Expr.evaluateText s es <;> rfl

end Compile

end MessageExpr
