import Mathlib.Control.Monad.Basic
import MessageExpr.Expr.Operation
import MessageExpr.Pattern.Read
import MessageExpr.Proofs.Unicode.Sigma

/-!
# Operators that entail others

Equality entails equality up to case, and a text that starts or ends with another one has it as a
part. A part of a text is a part up to case as well, unless it has a capital sigma whose lowercase
form depends on the text around it: the two texts are lowercased each on its own, and such a sigma
may then become final in one of them and not in the other.

## Main definitions

* `BinaryOperator.Entails` — an operator that holds of two values only if another one does

## Main results

* `BinaryOperator.entails_ignoringCase` — what equality, `startsWith`, `endsWith` and `contains`
  entail, and which parts are parts up to case of every text that has them
-/

namespace MessageExpr

open Unicode (IsSteady lowercase)

namespace Value

variable {v w : Value} {ignoringCase : Bool}

/-! ## Parts of values -/

private theorem equalsIgnoringCase_of_equals (h : v.equals w = true) :
    v.equalsIgnoringCase w = true := by
  rw [equalsIgnoringCase, h, Bool.true_or]

private theorem not_isNull_of_holds (h : v.holds ignoringCase w = true) :
    (v.isNull || w.isNull) = false := by
  rw [← Bool.not_eq_true]
  intro none
  rw [holds.eq_def, if_pos none] at h
  cases h

/-- An item of a list is an item up to case. -/
theorem holds_list_ignoringCase {items : List Value} (h : (list items).holds false w = true) :
    (list items).holds true w = true := by
  have here := not_isNull_of_holds h
  rw [holds.eq_def, if_neg (by rw [here]; decide)] at h ⊢
  obtain ⟨item, mem, same⟩ := List.any_eq_true.mp h
  exact List.any_eq_true.mpr ⟨item, mem, equalsIgnoringCase_of_equals same⟩

/-- Outside the lists, what a value holds are the parts of its text. -/
theorem holds_eq_contains (single : ∀ items, v ≠ list items)
    (here : (v.isNull || w.isNull) = false) :
    v.holds ignoringCase w =
      if ignoringCase then Text.contains (lowercase w.text.toList) (lowercase v.text.toList)
      else Text.contains w.text.toList v.text.toList := by
  have lowered (s : String) : (lowercased s).toList = lowercase s.toList := String.toList_ofList
  rw [holds.eq_def, if_neg (by rw [here]; decide), ← lowered, ← lowered]
  cases v with
  | list items => exact absurd rfl (single items)
  | _ => rfl

theorem holds_iff_isInfix (single : ∀ items, v ≠ list items)
    (here : (v.isNull || w.isNull) = false) :
    v.holds false w = true ↔ w.text.toList <:+: v.text.toList := by
  rw [holds_eq_contains single here]
  exact Text.contains_iff

private theorem holds_ignoringCase_iff_isInfix (single : ∀ items, v ≠ list items)
    (here : (v.isNull || w.isNull) = false) :
    v.holds true w = true ↔ lowercase w.text.toList <:+: lowercase v.text.toList := by
  rw [holds_eq_contains single here]
  exact Text.contains_iff

private theorem holds_of_startsWith (single : ∀ items, v ≠ list items) (h : v.startsWith w = true) :
    v.holds false w = true := by
  simp only [startsWith, Bool.and_eq_true, Bool.not_eq_true', List.isPrefixOf_iff_prefix] at h
  obtain ⟨⟨left, right⟩, starts⟩ := h
  exact (holds_iff_isInfix single (by rw [left, right]; rfl)).mpr starts.isInfix

private theorem holds_of_endsWith (single : ∀ items, v ≠ list items) (h : v.endsWith w = true) :
    v.holds false w = true := by
  simp only [endsWith, Bool.and_eq_true, Bool.not_eq_true', List.isSuffixOf_iff_suffix] at h
  obtain ⟨⟨left, right⟩, ends⟩ := h
  exact (holds_iff_isInfix single (by rw [left, right]; rfl)).mpr ends.isInfix

/-! ## Parts up to case -/

private theorem isSteady_null : IsSteady null.text.toList := by
  intro first last same
  have letter : 'Σ' ∈ null.text.toList := by
    rw [same]
    exact List.mem_append_right first List.mem_cons_self
  exact absurd letter (by decide)

/-- The steady parts are the parts up to case of everything that has them. -/
theorem holds_ignoringCase_iff_isSteady :
    (∀ v : Value, v.holds false w = true → v.holds true w = true) ↔ IsSteady w.text.toList := by
  constructor
  · intro weaker
    by_cases empty : w = null
    -- Nothing holds null, so that its text has to be looked at.
    · rw [empty]
      exact isSteady_null
    have here (s : String) : ((string s).isNull || w.isNull) = false := by
      cases w with
      | null => exact absurd rfl empty
      | _ => rfl
    -- Every text is the text of a value, a string.
    refine Unicode.isSteady_iff.mpr fun whole part => ?_
    have text : (string (String.ofList whole)).text.toList = whole := String.toList_ofList
    have single (items : List Value) : string (String.ofList whole) ≠ list items := by rintro ⟨⟩
    have held := weaker _ ((holds_iff_isInfix single (here _)).mpr (by rwa [text]))
    rwa [holds_ignoringCase_iff_isInfix single (here _), text] at held
  · intro steady v held
    have here := not_isNull_of_holds held
    by_cases single : ∀ items, v ≠ list items
    · rw [holds_iff_isInfix single here] at held
      exact (holds_ignoringCase_iff_isInfix single here).mpr
        (Unicode.infix_lowercase_of_isSteady steady held)
    · simp only [not_forall, not_not] at single
      obtain ⟨items, rfl⟩ := single
      exact holds_list_ignoringCase held

end Value

namespace BinaryOperator

open Value

/-- An operator that holds of two values only if another one does. -/
def Entails [PatternLibrary] (o other : BinaryOperator) (v w : Value) : Prop :=
  ∀ known, o.apply known v w = .ok true → other.apply known v w = .ok true

/-- Equality to a value and its membership in a list are kept up to case. That its text is a part of
another one is kept exactly when no form of a capital sigma in it depends on the text around it.
What a text starts or ends with is a part of it. -/
theorem entails_ignoringCase [PatternLibrary] (w : Value) :
    (∀ v, equal.Entails equalIgnoringCase v w) ∧
      (∀ items, contains.Entails containsIgnoringCase (.list items) w) ∧
      ((∀ v, contains.Entails containsIgnoringCase v w) ↔ IsSteady w.text.toList) ∧
      ∀ v, (∀ items, v ≠ .list items) →
        startsWith.Entails contains v w ∧ endsWith.Entails contains v w := by
  refine ⟨fun v known h => ?_, fun items known h => ?_, ?_, fun v single => ⟨?_, ?_⟩⟩
  · exact congrArg _ (equalsIgnoringCase_of_equals (Except.ok.inj h))
  · exact congrArg _ (holds_list_ignoringCase (Except.ok.inj h))
  · rw [← holds_ignoringCase_iff_isSteady]
    constructor
    · exact fun entails v h => Except.ok.inj (entails v none (congrArg _ h))
    · exact fun weaker v known h => congrArg _ (weaker v (Except.ok.inj h))
  · exact fun known h => congrArg _ (holds_of_startsWith single (Except.ok.inj h))
  · exact fun known h => congrArg _ (holds_of_endsWith single (Except.ok.inj h))

/-- A sigma that ends a part becomes a final one there, and none in a longer word. -/
theorem not_entails_ignoringCase_sigma :
    ¬contains.Entails containsIgnoringCase (.string "ΑΣΒ") (.string "ΑΣ") := by
  intro entails
  have held : contains.apply none (.string "ΑΣΒ") (.string "ΑΣ") = .ok true := by decide +kernel
  have missed : containsIgnoringCase.apply none (.string "ΑΣΒ") (.string "ΑΣ") = .ok false := by
    decide +kernel
  have other := entails none held
  rw [missed] at other
  cases other

end BinaryOperator

end MessageExpr
