import MessageExpr.Language
import MessageExpr.Proofs.Compile.Steady

/-!
# Caches of a language do not show

A language keeps objects by the texts they were compiled from, and shares functions by their
names. What it creates is, up to the numbers of objects, what a language without anything in its
caches creates under the same setting of escapes, whatever was done with the language before.

## Main definitions

* `LanguageOperation`, `Language.performAll` — what can be done with a language
* `Language.IsCoherent` — what is kept is what compiling anew would give

## Main results

* `Language.IsCoherent.perform` — an operation leaves a language coherent
* `Language.create_performAll` — what is created after any operations
-/

namespace MessageExpr

/-! ## Operations -/

/-- What can be done with a language, and with the functions that it shares. -/
inductive LanguageOperation where
  | createExpression (text : String)
  | createPredicate (text : String)
  | clear
  | setEscapes (escapes : Bool)
  | setCapacity (capacity : Nat)
  /-- Nodes are compiled elsewhere with the same shared functions. -/
  | compileNodes (nodes : List Node)

namespace Language

variable [PatternLibrary]

/-- The language after an operation. -/
def perform (language : Language) : LanguageOperation → Language
  | .createExpression text => (language.createExpression text).2
  | .createPredicate text => (language.createPredicate text).2
  | .clear => language.clear
  | .setEscapes escapes => language.setEscapes escapes
  | .setCapacity capacity => language.setCapacity capacity
  | .compileNodes nodes =>
    { language with workshop := ((Compile.nodes nodes).run language.workshop).2 }

/-- The language after a row of operations. -/
def performAll (language : Language) (operations : List LanguageOperation) : Language :=
  operations.foldl perform language

/-- Whether the kept objects are the same afterwards, unless an object was created. -/
def KeptUnlessCreated {α : Type} (before : Language) :
    Except SyntaxError (Object α) × Language → Prop
  | (.error _, after) =>
    after.expressions.entries = before.expressions.entries ∧
      after.predicates.entries = before.predicates.entries
  | (.ok _, _) => True

/-! ## Objects that are kept or new -/

variable {α : Type}

/-- The object of a text in a cache of such objects, or a new one, which is put there. -/
def keptOrNew (cache : Cache (Object α)) (workshop : Workshop) (text : String)
    (nodes : Except SyntaxError (List Node)) (program : List Node → CompileM (Object α)) :
    Except SyntaxError (Object α) × Cache (Object α) × Workshop :=
  match cache.get text with
  | (some object, cache) => (.ok object, cache, workshop)
  | (none, cache) =>
    match nodes with
    | .error e => (.error e, cache, workshop)
    | .ok nodes =>
      match (program nodes).run workshop with
      | (.error e, workshop) => (.error (.ofCompileError text e), cache, workshop)
      | (.ok object, workshop) => (.ok object, cache.put text object, workshop)

theorem createExpression_eq (language : Language) (text : String) :
    language.createExpression text =
      let (created, expressions, workshop) := keptOrNew language.expressions language.workshop text
        (language.templateNodes text) Compile.expression
      (created, { language with expressions := expressions, workshop := workshop }) := by
  rw [createExpression, keptOrNew]
  rcases language.expressions.get text with ⟨_ | object, cache⟩
  · simp only [templateNodes, compile]
    rcases (Template.parse language.escapes text).mapError (SyntaxError.ofProblem text) with
      e | nodes
    · rfl
    · dsimp only
      rcases (Compile.expression nodes).run language.workshop with ⟨_ | _, _⟩ <;> rfl
  · rfl

theorem createPredicate_eq (language : Language) (text : String) :
    language.createPredicate text =
      let (created, predicates, workshop) := keptOrNew language.predicates language.workshop text
        (language.conditionNodes text) Compile.predicate
      (created, { language with predicates := predicates, workshop := workshop }) := by
  rw [createPredicate, keptOrNew]
  rcases language.predicates.get text with ⟨_ | object, cache⟩
  · simp only [conditionNodes, compile]
    rcases (Condition.parse language.escapes text).mapError (SyntaxError.ofProblem text) with
      e | nodes
    · rfl
    · dsimp only
      rcases (Compile.predicate nodes).run language.workshop with ⟨_ | _, _⟩ <;> rfl
  · rfl

/-- What nodes of a text are compiled to without shared functions. -/
def plainValue (text : String) (nodes : Except SyntaxError (List Node))
    (program : List Node → CompileM (Object α)) : Except SyntaxError α :=
  nodes.bind fun nodes =>
    ((Compile.plain (program nodes)).map Object.value).mapError (SyntaxError.ofCompileError text)

/-- An object that is kept or new has the value of a new one, when this is so for all that is
kept, and it stays so. When there is no object the cache holds what it held. -/
theorem keptOrNew_spec {cache : Cache (Object α)} {workshop : Workshop}
    {nodes : String → Except SyntaxError (List Node)} {program : List Node → CompileM (Object α)}
    (holds : cache.Holds fun text object => plainValue text (nodes text) program = .ok object.value)
    (honest : workshop.IsHonest) (steady : ∀ l, Compile.Steady Object.value (program l))
    (text : String) :
    ∃ created cache' workshop',
      keptOrNew cache workshop text (nodes text) program = (created, cache', workshop') ∧
      created.map Object.value = plainValue text (nodes text) program ∧
      (cache'.Holds fun text object => plainValue text (nodes text) program = .ok object.value) ∧
      workshop'.IsHonest ∧
      ∀ e, created = .error e → cache'.entries = cache.entries := by
  have holds' := holds.get text
  have found (object : Object α) (h : (cache.get text).1 = some object) :
      plainValue text (nodes text) program = .ok object.value :=
    holds.of_get h
  have missing : (cache.get text).1 = none → (cache.get text).2.entries = cache.entries :=
    Cache.entries_get_of_none
  rw [keptOrNew]
  generalize cache.get text = looked at holds' found missing
  obtain ⟨_ | object, cache'⟩ := looked
  · cases parsed : nodes text with
    | error e => exact ⟨_, _, _, rfl, rfl, holds', honest, fun _ _ => missing rfl⟩
    | ok l =>
      have outcome := (steady l).map_eq workshop honest
      have honest' := (steady l).isHonest workshop honest
      simp only
      generalize (program l).run workshop = ran at outcome honest'
      obtain ⟨e | object, workshop'⟩ := ran
      · refine ⟨_, _, _, rfl, ?_, holds', honest', fun _ _ => missing rfl⟩
        rw [plainValue, Except.bind, ← outcome]
        rfl
      · have value : plainValue text (nodes text) program = .ok object.value := by
          rw [plainValue, parsed, Except.bind, ← outcome]
          rfl
        exact ⟨_, _, _, rfl, by rw [← parsed, value]; rfl, holds'.put value, honest', nofun⟩
  · exact ⟨_, _, _, rfl, (found _ rfl).symm, holds', honest, nofun⟩

/-! ## Coherent languages -/

/-- Whether what is kept is what compiling anew would give, and shared functions are the functions
of their names. -/
structure IsCoherent (language : Language) : Prop where
  expressions : language.expressions.Holds fun text object =>
    plainValue text (language.templateNodes text) Compile.expression = .ok object.value
  predicates : language.predicates.Holds fun text object =>
    plainValue text (language.conditionNodes text) Compile.predicate = .ok object.value
  workshop : language.workshop.IsHonest

theorem isCoherent_start (escapes : Bool) (capacity : Nat) (shared : Option Nat) :
    (start escapes capacity (shared.map .empty)).IsCoherent where
  expressions := Cache.holds_empty _ capacity
  predicates := Cache.holds_empty _ capacity
  workshop := by
    cases shared with
    | none => exact Workshop.isHonest_none 0
    | some capacity => exact Workshop.isHonest_empty capacity 0

namespace IsCoherent

variable {language : Language}

/-- What is created has the value of a new expression, and the language stays coherent. -/
theorem createExpression (h : language.IsCoherent) (text : String) :
    (language.createExpression text).1.map Object.value =
        plainValue text (language.templateNodes text) Compile.expression ∧
      (language.createExpression text).2.IsCoherent ∧
      language.KeptUnlessCreated (language.createExpression text) := by
  obtain ⟨created, cache', workshop', answered, value, holds, honest, kept⟩ :=
    keptOrNew_spec h.expressions h.workshop Compile.steady_expression text
  rw [createExpression_eq, answered]
  refine ⟨value, ⟨holds, h.predicates, honest⟩, ?_⟩
  cases created with
  | error e => exact ⟨kept e rfl, rfl⟩
  | ok object => trivial

/-- What is created has the value of a new predicate, and the language stays coherent. -/
theorem createPredicate (h : language.IsCoherent) (text : String) :
    (language.createPredicate text).1.map Object.value =
        plainValue text (language.conditionNodes text) Compile.predicate ∧
      (language.createPredicate text).2.IsCoherent ∧
      language.KeptUnlessCreated (language.createPredicate text) := by
  obtain ⟨created, cache', workshop', answered, value, holds, honest, kept⟩ :=
    keptOrNew_spec h.predicates h.workshop Compile.steady_predicate text
  rw [createPredicate_eq, answered]
  refine ⟨value, ⟨h.expressions, holds, honest⟩, ?_⟩
  cases created with
  | error e => exact ⟨rfl, kept e rfl⟩
  | ok object => trivial

/-- An operation leaves a language coherent. -/
theorem perform (h : language.IsCoherent) (operation : LanguageOperation) :
    (language.perform operation).IsCoherent := by
  cases operation with
  | createExpression text => exact (h.createExpression text).2.1
  | createPredicate text => exact (h.createPredicate text).2.1
  | clear => exact ⟨Cache.holds_clear _ _, Cache.holds_clear _ _, h.workshop⟩
  | setEscapes escapes => exact ⟨Cache.holds_clear _ _, Cache.holds_clear _ _, h.workshop⟩
  | setCapacity capacity =>
    exact ⟨Cache.holds_empty _ capacity, Cache.holds_empty _ capacity, h.workshop⟩
  | compileNodes nodes =>
    exact ⟨h.expressions, h.predicates, (Compile.steady_nodes nodes).isHonest _ h.workshop⟩

/-- A row of operations leaves a language coherent. -/
theorem performAll (h : language.IsCoherent) (operations : List LanguageOperation) :
    (language.performAll operations).IsCoherent := by
  induction operations generalizing language with
  | nil => exact h
  | cons operation rest ih => exact ih (h.perform operation)

end IsCoherent

/-! ## What is created -/

private theorem plainValue_eq_ok {text : String} {parsed : Except Problem (List Node)}
    {program : List Node → CompileM (Object α)} {a : α} :
    plainValue text (parsed.mapError (SyntaxError.ofProblem text)) program = .ok a ↔
      ∃ nodes, parsed = .ok nodes ∧ (Compile.plain (program nodes)).map Object.value = .ok a := by
  cases parsed with
  | error problem => exact ⟨nofun, nofun⟩
  | ok nodes =>
    change ((Compile.plain (program nodes)).map Object.value).mapError
      (SyntaxError.ofCompileError text) = .ok a ↔ _
    rw [mapError_eq_ok]
    simp

namespace IsCoherent

variable {language : Language} (h : language.IsCoherent) (text : String)

include h

/-- The expression of a text is what its nodes are compiled to without shared functions. -/
theorem createExpression_eq_ok (e : Expr) :
    (∃ object, (language.createExpression text).1 = .ok object ∧ object.value = e) ↔
      ∃ nodes, Template.parse language.escapes text = .ok nodes ∧
        (Compile.plain (Compile.expression nodes)).map Object.value = .ok e := by
  rw [← map_eq_ok, (h.createExpression text).1, templateNodes, plainValue_eq_ok]

/-- The predicate of a text is what its nodes are compiled to without shared functions. -/
theorem createPredicate_eq_ok (p : Predicate) :
    (∃ object, (language.createPredicate text).1 = .ok object ∧ object.value = p) ↔
      ∃ nodes, Condition.parse language.escapes text = .ok nodes ∧
        (Compile.plain (Compile.predicate nodes)).map Object.value = .ok p := by
  rw [← map_eq_ok, (h.createPredicate text).1, conditionNodes, plainValue_eq_ok]

end IsCoherent

omit [PatternLibrary] in
/-- What is seen of an outcome, where all of it but the numbers of objects is seen. -/
theorem map_of_map_value {β : Type} {first second : Except SyntaxError (Object α)}
    (same : first.map Object.value = second.map Object.value) (see : α → β) :
    first.map (fun object => see object.value) = second.map fun object => see object.value := by
  have mapped (outcome : Except SyntaxError (Object α)) :
      outcome.map (fun object => see object.value) = (outcome.map Object.value).map see := by
    cases outcome <;> rfl
  rw [mapped, mapped, same]

/-- After any operations on a language, with or without shared functions, creating an object gives
the same error as a language with nothing in its caches and without shared functions, or an object
that evaluates in the same way in all surroundings. When it fails all that is kept stays. -/
theorem create_performAll (escapes : Bool) (capacity : Nat) (shared : Option Nat)
    (operations : List LanguageOperation) (text : String) (kept : Nat) :
    let language := (start escapes capacity (shared.map .empty)).performAll operations
    let fresh := start language.escapes kept none
    (∀ s, (language.createExpression text).1.map (·.value.evaluate s) =
        (fresh.createExpression text).1.map (·.value.evaluate s)) ∧
      (∀ s, (language.createPredicate text).1.map (·.value.test s) =
        (fresh.createPredicate text).1.map (·.value.test s)) ∧
      language.KeptUnlessCreated (language.createExpression text) ∧
      language.KeptUnlessCreated (language.createPredicate text) := by
  intro language fresh
  have coherent : language.IsCoherent :=
    (isCoherent_start escapes capacity shared).performAll operations
  have coherent' : fresh.IsCoherent := isCoherent_start language.escapes kept none
  obtain ⟨expression, -, keptE⟩ := coherent.createExpression text
  obtain ⟨predicate, -, keptP⟩ := coherent.createPredicate text
  -- A language without anything in its caches is coherent as well, and reads a text alike.
  have expression' := (coherent'.createExpression text).1
  have predicate' := (coherent'.createPredicate text).1
  refine ⟨fun s => ?_, fun s => ?_, keptE, keptP⟩
  · exact map_of_map_value (expression.trans expression'.symm) (Expr.evaluate s)
  · exact map_of_map_value (predicate.trans predicate'.symm) (Predicate.test s)

end Language

end MessageExpr
