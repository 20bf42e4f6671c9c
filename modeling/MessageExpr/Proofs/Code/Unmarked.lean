import MessageExpr.Language
import MessageExpr.Pattern.Read
import MessageExpr.Proofs.Code.Render

/-!
# Code without marks

The code of a text is what writing its nodes without marks gives, and then its string literals are
the texts of the nodes, one after the other. That is so exactly when no text holds a mark where
its literal shows it: the marks are taken out of the finished code, and a mark of a text with
them.

## Main results

* `code_eq_unmarked_iff` — when the code of a text is the code without marks
* `code_mark_in_text` — a text with a mark of its own
-/

namespace MessageExpr.Code

/-- Marks are taken out of the code of a piece without touching it exactly when its texts are
clean. -/
theorem Renders.of_strip {marked plain : Except Problem String} {texts : List String}
    (h : Renders marked plain texts) {code : String} (done : marked.map strip = .ok code) :
    ∃ unmarked, plain = .ok unmarked ∧ literals? unmarked = some texts ∧
      (code = unmarked ↔ ∀ t ∈ texts, Clean t) := by
  obtain ⟨written, wrote, rfl⟩ := map_eq_ok.mp done
  obtain ⟨_, wrote', p, rfl, rfl, rfl⟩ := h.ok_left wrote
  exact ⟨p.plain, wrote', p.reads.literals?_eq, p.comesTo.strip_eq_iff⟩

/-- What is written for a text is the code in which functions in quoted text are code from the
start exactly when no text of the nodes holds a mark. The string literals of that code are the
texts of the nodes, so that no text leaves its literal. -/
theorem code_eq_unmarked_iff [PatternLibrary] (language : Language) (text : String) :
    (∀ code, language.expressionCode text = .ok code →
      ∃ nodes unmarked, language.templateNodes text = .ok nodes ∧
        templateCode id nodes = .ok unmarked ∧
        literals? unmarked = some (templateTexts nodes) ∧
        (code = unmarked ↔ ∀ t ∈ templateTexts nodes, Clean t)) ∧
    (∀ code, language.predicateCode text = .ok code →
      ∃ nodes unmarked, language.conditionNodes text = .ok nodes ∧
        clausesCode id nodes = .ok unmarked ∧
        literals? unmarked = some (clausesTexts nodes) ∧
        (code = unmarked ↔ ∀ t ∈ clausesTexts nodes, Clean t)) := by
  constructor
  · intro code done
    obtain ⟨nodes, parsed, written⟩ := bind_eq_ok.mp done
    obtain ⟨unmarked, plain, facts⟩ :=
      (renders_template nodes).of_strip (mapError_eq_ok.mp written)
    exact ⟨nodes, unmarked, parsed, plain, facts⟩
  · intro code done
    obtain ⟨nodes, parsed, written⟩ := bind_eq_ok.mp done
    obtain ⟨unmarked, plain, facts⟩ :=
      (renders_clauses nodes).of_strip (mapError_eq_ok.mp written)
    exact ⟨nodes, unmarked, parsed, plain, facts⟩

/-- The text that starts with the first mark stands in a literal that starts with it, so that the
quote in front is taken out and the text becomes code. -/
theorem code_mark_in_text :
    (Language.start true Language.defaultCapacity none).expressionCode "@@code[[x" = .ok "x\"" ∧
    (do
      let nodes ← (Language.start true Language.defaultCapacity none).templateNodes "@@code[[x"
      (templateCode id nodes).mapError (SyntaxError.ofProblem "@@code[[x")) =
      .ok "\"@@code[[x\"" := by
  constructor <;> decide +kernel

end MessageExpr.Code
