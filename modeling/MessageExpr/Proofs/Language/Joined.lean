import MessageExpr.Proofs.Compile.Spread
import MessageExpr.Proofs.Language.Caching
import MessageExpr.Proofs.Template.Joined

/-!
# Templates with a space between them are evaluated one after the other

Two templates that can be compiled can be compiled with a space between them, too. What the value of
both adds to a text is what the value of the first one adds, a space and what the value of the
second one adds. When one of them has no value, both together fail with its failure, and with that
of the first one when neither has a value.

## Main results

* `Language.createExpression_joined` — the expression of two templates with a space between them
-/

namespace MessageExpr

open Node

namespace Compile

/-- Nodes that are those of two lists with a space between them, where literals are taken apart,
stand for the texts of both with a space between them. -/
theorem exists_expression_joined [PatternLibrary] {first second both : List Node} {e e' : Expr}
    (same : both.flatMap spread = first.flatMap spread ++ letters " " ++ second.flatMap spread)
    (compiled : (plain (expression first)).map Object.value = .ok e)
    (compiled' : (plain (expression second)).map Object.value = .ok e') :
    ∃ e'', (plain (expression both)).map Object.value = .ok e'' ∧
      ∀ s, (e''.evaluate s).map Value.piece = (do
        let v ← e.evaluate s
        let w ← e'.evaluate s
        pure (v.piece ++ " " ++ w.piece)) := by
  have textFirst := text?_expression first
  have textSecond := text?_expression second
  have textBoth := text?_expression both
  rw [compiled] at textFirst
  rw [compiled'] at textSecond
  rw [← text?_flatMap_spread, same, text?_append, text?_append, text?_letters,
    text?_flatMap_spread, text?_flatMap_spread, ← textFirst, ← textSecond] at textBoth
  obtain ⟨e'', made, value⟩ := Option.map_eq_some_iff.mp textBoth
  refine ⟨e'', toOption_eq_some.mp made, fun s => (congrFun value s).trans ?_⟩
  simp only [Saying.beside, Saying.always]
  cases e.evaluate s with
  | error failure => rfl
  | ok v => cases e'.evaluate s <;> rfl

end Compile

namespace Language

/-- After any operations on a language, with or without shared functions, two texts that are
templates are a template with a space between them. What its value adds to a text is what the values
of the two add with a space between, and it has no value when one of them has none, for the reason
of the first that has none. -/
theorem createExpression_joined [PatternLibrary] (escapes : Bool) (capacity : Nat)
    (shared : Option Nat)
    (operations : List LanguageOperation) (text text' : String) (first second : Object Expr) :
    let language := (start escapes capacity (shared.map .empty)).performAll operations
    (language.createExpression text).1 = .ok first →
      (language.createExpression text').1 = .ok second →
        ∃ both, (language.createExpression (text ++ " " ++ text')).1 = .ok both ∧
          ∀ s, (both.value.evaluate s).map Value.piece = (do
            let v ← first.value.evaluate s
            let w ← second.value.evaluate s
            pure (v.piece ++ " " ++ w.piece)) := by
  intro language created created'
  have coherent : language.IsCoherent :=
    (isCoherent_start escapes capacity shared).performAll operations
  obtain ⟨nodes, parsed, compiled⟩ :=
    (coherent.createExpression_eq_ok text _).mp ⟨first, created, rfl⟩
  obtain ⟨nodes', parsed', compiled'⟩ :=
    (coherent.createExpression_eq_ok text' _).mp ⟨second, created', rfl⟩
  obtain ⟨joined, parsedBoth, same⟩ := Template.exists_parse_joined parsed parsed'
  obtain ⟨e, compiledBoth, evaluated⟩ :=
    Compile.exists_expression_joined same compiled compiled'
  obtain ⟨both, made, rfl⟩ :=
    (coherent.createExpression_eq_ok _ e).mpr ⟨_, parsedBoth, compiledBoth⟩
  exact ⟨both, made, evaluated⟩

theorem createExpression_joined_operator :
    ∃ first second both : Object Expr,
      ((start true 0 none).createExpression "$\x7bbody\x7d not").1 = .ok first ∧
      ((start true 0 none).createExpression "in $\x7bbody\x7d").1 = .ok second ∧
      ((start true 0 none).createExpression
        ("$\x7bbody\x7d not" ++ " " ++ "in $\x7bbody\x7d")).1 = .ok both ∧
      ∀ s, (both.value.evaluate s).map Value.piece = (do
        let v ← first.value.evaluate s
        let w ← second.value.evaluate s
        pure (v.piece ++ " " ++ w.piece)) := by
  have isOk : ((start true 0 none).createExpression "$\x7bbody\x7d not").1.isOk = true := by
    decide +kernel
  have isOk' : ((start true 0 none).createExpression "in $\x7bbody\x7d").1.isOk = true := by
    decide +kernel
  obtain ⟨first, created⟩ := exists_of_isOk isOk
  obtain ⟨second, created'⟩ := exists_of_isOk isOk'
  obtain ⟨both, made, evaluated⟩ :=
    createExpression_joined true 0 none [] _ _ first second created created'
  exact ⟨first, second, both, created, created', made, evaluated⟩

end Language

end MessageExpr
