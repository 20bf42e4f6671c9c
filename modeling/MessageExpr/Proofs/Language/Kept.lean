import Mathlib.Data.Finset.Option
import MessageExpr.Pattern.Read
import MessageExpr.Proofs.Cache.Kept
import MessageExpr.Proofs.Language.Caching

/-!
# Asking again gives the same object

A language that was asked for the expression of a text gives the same object again, and compiles
nothing, as long as it was not told to forget and fewer other texts than its capacity have been
compiled or found since. Texts that cannot be compiled, and predicates, do not count.

## Main definitions

* `LanguageOperation.forgets` — the operations that empty the caches of a language
* `Language.createdTexts` — the texts whose expressions are created by a row of operations

## Main results

* `Language.createExpression_cases` — how an expression is created
* `Language.Keeps.performAll` — what is kept over a row of operations
* `Language.createExpression_again` — the same object again
-/

namespace MessageExpr

/-- Whether an operation makes a language forget what it keeps. -/
def LanguageOperation.forgets : LanguageOperation → Bool
  | .clear | .setEscapes _ | .setCapacity _ => true
  | .createExpression _ | .createPredicate _ | .compileNodes _ => false

namespace Language

section

variable [PatternLibrary] {language : Language}

/-- The text whose expression an operation creates, if it creates one. -/
def created? (language : Language) : LanguageOperation → Option String
  | .createExpression text =>
    if (language.createExpression text).1.isOk then some text else none
  | .createPredicate _ | .clear | .setEscapes _ | .setCapacity _ | .compileNodes _ => none

/-- The texts whose expressions are created by a row of operations. -/
def createdTexts (language : Language) : List LanguageOperation → Finset String
  | [] => ∅
  | operation :: rest =>
    (language.created? operation).toFinset ∪ (language.perform operation).createdTexts rest

/-! ## One expression -/

/-- An object is kept, or not. Then the text cannot be compiled, or the object is new. -/
theorem keptOrNew_cases {α : Type} (cache : Cache (Object α)) (workshop : Workshop) (text : String)
    (nodes : Except SyntaxError (List Node)) (program : List Node → CompileM (Object α)) :
    (∃ object, (cache.get text).1 = some object ∧ keptOrNew cache workshop text nodes program =
        (.ok object, (cache.get text).2, workshop)) ∨
      (cache.get text).1 = none ∧ ∃ workshop',
        (∃ e, keptOrNew cache workshop text nodes program =
          (.error e, (cache.get text).2, workshop')) ∨
        ∃ object, keptOrNew cache workshop text nodes program =
          (.ok object, (cache.get text).2.put text object, workshop') := by
  rw [keptOrNew]
  rcases cache.get text with ⟨_ | object, cache'⟩
  · refine .inr ⟨rfl, ?_⟩
    rcases nodes with e | nodes
    · exact ⟨workshop, .inl ⟨e, rfl⟩⟩
    · simp only
      rcases (program nodes).run workshop with ⟨e | object, workshop'⟩
      · exact ⟨workshop', .inl ⟨_, rfl⟩⟩
      · exact ⟨workshop', .inr ⟨object, rfl⟩⟩
  · exact .inl ⟨object, rfl, rfl⟩

/-- The expression of a text is kept, or not. Then the text cannot be compiled, or its expression is
new and kept from now on. -/
theorem createExpression_cases (language : Language) (text : String) :
    (∃ object, (language.expressions.get text).1 = some object ∧
        language.createExpression text =
          (.ok object, { language with expressions := (language.expressions.get text).2 })) ∨
      (language.expressions.get text).1 = none ∧ ∃ workshop,
        (∃ e, language.createExpression text = (.error e,
          { language with
            expressions := (language.expressions.get text).2
            workshop := workshop })) ∨
        ∃ object, language.createExpression text = (.ok object,
          { language with
            expressions := (language.expressions.get text).2.put text object
            workshop := workshop }) := by
  rw [createExpression_eq]
  rcases keptOrNew_cases language.expressions language.workshop text (language.templateNodes text)
    Compile.expression with ⟨object, found, same⟩ | ⟨missing, workshop, ⟨e, same⟩ | ⟨object, same⟩⟩
  · exact .inl ⟨object, found, by rw [same]⟩
  · exact .inr ⟨missing, workshop, .inl ⟨e, by rw [same]⟩⟩
  · exact .inr ⟨missing, workshop, .inr ⟨object, by rw [same]⟩⟩

/-- Predicates are kept apart from expressions. -/
theorem createPredicate_keeps (language : Language) (text : String) :
    (language.createPredicate text).2.expressions = language.expressions ∧
      (language.createPredicate text).2.capacity = language.capacity := by
  rw [createPredicate_eq]
  exact ⟨rfl, rfl⟩

/-! ## The cache of expressions -/

/-- The expressions that are kept stand in the order of their use, and there is room for as many as
the language keeps. -/
structure IsBounded (language : Language) : Prop where
  capacity_eq : language.expressions.capacity = language.capacity
  isListed : language.expressions.IsListed

private theorem isBounded_start (escapes : Bool) (capacity : Nat)
    (functions : Option (Cache (Object Expr))) : (start escapes capacity functions).IsBounded :=
  ⟨rfl, Cache.isListed_empty capacity⟩

namespace IsBounded

private theorem createExpression (h : language.IsBounded) (text : String) :
    (language.createExpression text).2.IsBounded := by
  have listed : (language.expressions.get text).2.IsListed := h.isListed.perform (.get text)
  have capacity := (Cache.capacity_get language.expressions text).trans h.capacity_eq
  rcases language.createExpression_cases text with
    ⟨object, -, same⟩ | ⟨-, workshop, ⟨e, same⟩ | ⟨object, same⟩⟩ <;> rw [same]
  · exact ⟨capacity, listed⟩
  · exact ⟨capacity, listed⟩
  · exact ⟨(Cache.capacity_put _ _ _).trans capacity, listed.perform (.put text object)⟩

private theorem perform (h : language.IsBounded) (operation : LanguageOperation) :
    (language.perform operation).IsBounded := by
  cases operation with
  | createExpression text => exact h.createExpression text
  | createPredicate text =>
    obtain ⟨expressions, capacity⟩ := language.createPredicate_keeps text
    exact ⟨by rw [Language.perform, expressions, capacity, h.capacity_eq],
      by rw [Language.perform, expressions]; exact h.isListed⟩
  | clear => exact ⟨h.capacity_eq, h.isListed.perform .clear⟩
  | setEscapes escapes => exact ⟨h.capacity_eq, h.isListed.perform .clear⟩
  | setCapacity capacity => exact ⟨rfl, Cache.isListed_empty capacity⟩
  | compileNodes nodes => exact ⟨h.capacity_eq, h.isListed⟩

theorem performAll (h : language.IsBounded) (operations : List LanguageOperation) :
    (language.performAll operations).IsBounded := by
  induction operations generalizing language with
  | nil => exact h
  | cons operation rest ih => exact ih (h.perform operation)

end IsBounded

/-! ## An expression that is kept -/

/-- The expression of a text is kept, and only the expressions of some texts were used after it. -/
structure Keeps (text : String) (object : Object Expr) (later : Finset String)
    (language : Language) : Prop where
  capacity_eq : language.expressions.capacity = language.capacity
  keeps : language.expressions.Keeps text object later

variable {text : String} {object : Object Expr} {later : Finset String}

/-- The expression of a text is kept when it has been created. -/
theorem keeps_createExpression (h : language.IsBounded) (positive : language.capacity ≠ 0)
    (created : (language.createExpression text).1 = .ok object) :
    (language.createExpression text).2.Keeps text object ∅ := by
  have bounded := h.createExpression text
  refine ⟨bounded.capacity_eq, ?_⟩
  rcases language.createExpression_cases text with
    ⟨object', found, same⟩ | ⟨-, workshop, ⟨e, same⟩ | ⟨object', same⟩⟩ <;>
    rw [same] at created ⊢ <;> cases created
  · exact Cache.keeps_get h.isListed found
  · have listed : (language.expressions.get text).2.IsListed := h.isListed.perform (.get text)
    refine Cache.keeps_put listed ?_ text object
    rwa [Cache.capacity_get, h.capacity_eq]

namespace Keeps

/-- An expression that is kept is given again, and nothing is compiled. -/
theorem createExpression_eq (h : language.Keeps text object later) :
    language.createExpression text =
      (.ok object, { language with expressions := (language.expressions.get text).2 }) := by
  rcases language.createExpression_cases text with ⟨object', found, same⟩ | ⟨missing, -⟩
  · obtain rfl : object' = object := Option.some.inj (found.symm.trans h.keeps.get_eq)
    exact same
  · cases missing.symm.trans h.keeps.get_eq

/-- What is kept when the expression of another text, or of the same one, is asked for. -/
theorem createExpression (h : language.Keeps text object later) (other : String)
    (few : (later ∪ (language.created? (.createExpression other)).toFinset.erase text).card <
      language.capacity) :
    (language.createExpression other).2.Keeps text object
      (later ∪ (language.created? (.createExpression other)).toFinset.erase text) := by
  have used : (insert other later).erase text = later ∪ ({other} : Finset String).erase text := by
    rw [Finset.insert_eq, Finset.erase_union_distrib, Finset.erase_eq_of_notMem h.keeps.notMem,
      Finset.union_comm]
  rcases language.createExpression_cases other with
    ⟨object', found, same⟩ | ⟨missing, workshop, ⟨e, same⟩ | ⟨object', same⟩⟩ <;>
    simp only [created?, same, Except.isOk, Except.toBool, if_true, if_false, Bool.false_eq_true,
      Option.toFinset_some, Option.toFinset_none] at few ⊢
  · refine ⟨(Cache.capacity_get _ _).trans h.capacity_eq, ?_⟩
    rw [← used]
    exact h.keeps.get_of_some found
  · refine ⟨(Cache.capacity_get _ _).trans h.capacity_eq, ?_⟩
    rw [Finset.erase_empty, Finset.union_empty]
    exact h.keeps.get_of_none missing
  · -- The text itself is kept, so that it would have been found.
    have differ : other ≠ text := by
      rintro rfl
      cases missing.symm.trans h.keeps.get_eq
    have notMem : text ∉ insert other later := by
      rw [Finset.mem_insert]
      exact not_or.mpr ⟨differ.symm, h.keeps.notMem⟩
    rw [← used, Finset.erase_eq_of_notMem notMem] at few ⊢
    have capacity := (Cache.capacity_get language.expressions other).trans h.capacity_eq
    refine ⟨(Cache.capacity_put _ _ _).trans capacity, ?_⟩
    exact (h.keeps.get_of_none missing).put differ (by rwa [capacity]) object'

/-- What is kept over an operation that does not make the language forget. -/
theorem perform (h : language.Keeps text object later) {operation : LanguageOperation}
    (keeps : operation.forgets = false)
    (few : (later ∪ (language.created? operation).toFinset.erase text).card < language.capacity) :
    (language.perform operation).Keeps text object
        (later ∪ (language.created? operation).toFinset.erase text) ∧
      (language.perform operation).capacity = language.capacity := by
  cases operation with
  | createExpression other =>
    refine ⟨h.createExpression other few, ?_⟩
    rw [Language.perform, Language.createExpression_eq]
  | createPredicate other =>
    obtain ⟨expressions, capacity⟩ := language.createPredicate_keeps other
    rw [created?, Option.toFinset_none, Finset.erase_empty, Finset.union_empty, Language.perform]
    exact ⟨⟨by rw [expressions, capacity, h.capacity_eq], expressions ▸ h.keeps⟩, capacity⟩
  | compileNodes nodes =>
    rw [created?, Option.toFinset_none, Finset.erase_empty, Finset.union_empty]
    exact ⟨⟨h.capacity_eq, h.keeps⟩, rfl⟩
  | clear | setEscapes _ | setCapacity _ => cases keeps

/-- What is kept over a row of operations in which few other expressions are created. -/
theorem performAll (h : language.Keeps text object later) {operations : List LanguageOperation}
    (keep : ∀ operation ∈ operations, operation.forgets = false)
    (few : (later ∪ (language.createdTexts operations).erase text).card < language.capacity) :
    (language.performAll operations).Keeps text object
      (later ∪ (language.createdTexts operations).erase text) := by
  induction operations generalizing language later with
  | nil => simpa [performAll, createdTexts] using h
  | cons operation rest ih =>
    obtain ⟨keeps, keep⟩ := List.forall_mem_cons.mp keep
    rw [createdTexts, Finset.erase_union_distrib, ← Finset.union_assoc] at few ⊢
    have fewer := Nat.lt_of_le_of_lt (Finset.card_le_card Finset.subset_union_left) few
    obtain ⟨kept, capacity⟩ := h.perform keeps fewer
    exact ih kept keep (by rwa [capacity])

end Keeps

/-- When the expression of a text has been created by a language after any operations, with or
without shared functions, and the expressions of fewer other texts than the language keeps are
created afterwards, while nothing makes it forget, then asking again gives the same object. Nothing
is compiled then, and all that changes is which expression was used last. -/
theorem createExpression_again (escapes : Bool) (capacity : Nat)
    (functions : Option (Cache (Object Expr))) (operations later : List LanguageOperation)
    (text : String) (object : Object Expr) :
    let language := (start escapes capacity functions).performAll operations
    let asked := (language.createExpression text).2
    (language.createExpression text).1 = .ok object →
      (∀ operation ∈ later, operation.forgets = false) →
      ((asked.createdTexts later).erase text).card < language.capacity →
        (asked.performAll later).createExpression text =
          (.ok object, { asked.performAll later with
            expressions := ((asked.performAll later).expressions.get text).2 }) := by
  intro language asked created keep few
  have bounded : language.IsBounded := (isBounded_start escapes capacity functions).performAll _
  have kept : asked.Keeps text object ∅ :=
    keeps_createExpression bounded (Nat.ne_zero_of_lt few) created
  have room : asked.capacity = language.capacity := by
    change (language.createExpression text).2.capacity = language.capacity
    rw [Language.createExpression_eq]
  have keptLater := kept.performAll keep (by rwa [Finset.empty_union, room])
  exact keptLater.createExpression_eq

end

/-- With room for two expressions, one other text may be asked for again and again. -/
theorem createExpression_again_between :
    let asked := ((start true 2 none).createExpression "a").2
    let later : List LanguageOperation :=
      [.createExpression "$\x7bbody\x7d", .createExpression "$\x7b", .createPredicate "true",
        .createExpression "a", .createExpression "$\x7bbody\x7d"]
    ∃ object : Object Expr, ((start true 2 none).createExpression "a").1 = .ok object ∧
      (∀ operation ∈ later, operation.forgets = false) ∧
      ((asked.createdTexts later).erase "a").card < 2 ∧
      ((asked.performAll later).createExpression "a").1 = .ok object := by
  intro asked later
  have isOk : ((start true 2 none).createExpression "a").1.isOk = true := by decide +kernel
  have keep : ∀ operation ∈ later, operation.forgets = false := by decide
  have few : ((asked.createdTexts later).erase "a").card < 2 := by decide +kernel
  obtain ⟨object, created⟩ := exists_of_isOk isOk
  have again := createExpression_again true 2 none [] later "a" object created keep few
  exact ⟨object, created, keep, few, congrArg Prod.fst again⟩

end Language

end MessageExpr
