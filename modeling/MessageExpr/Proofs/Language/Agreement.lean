import MessageExpr.Pattern.Read
import MessageExpr.Proofs.Code.Agreement
import MessageExpr.Proofs.Language.Caching

/-!
# Creating an object and writing code

A text can be checked by creating its object or by writing its code. Unless a function stands
inside another one, both find the same syntax error at the same place. Only patterns are checked
by creating an object alone, so that its error may also be that a pattern cannot be read.

## Main definitions

* `FaultsAgree` — creating and writing agree on what is wrong with a text

## Main results

* `Language.create_agrees_code` — for any text, after any operations on a language
-/

namespace MessageExpr

section

variable [PatternLibrary] {α : Type}

/-- Creating and writing agree on what is wrong with a text. An error at a place is found by both.
When writing fails creating does too, maybe with a pattern that cannot be read, which is not at a
place. When creating succeeds so does writing. -/
structure FaultsAgree (text : String) (created : Except SyntaxError α)
    (code : Except SyntaxError String) : Prop where
  of_placed : ∀ e, created = .error e → e.index ≠ none → code = .error e
  of_code : ∀ e, code = .error e → created = .error e ∨
    ∃ pattern flaw, PatternLibrary.compileWhole pattern = .error flaw ∧
      created = .error ⟨text, none, patternMessage pattern flaw⟩
  of_created : ∀ a, created = .ok a → ∃ written, code = .ok written

namespace FaultsAgree

variable {text : String} {β : Type}

/-- What cannot be read is found by both. -/
theorem of_error (e : SyntaxError) :
    FaultsAgree text (.error e : Except SyntaxError α) (.error e) where
  of_placed := fun _ same _ => by cases same; rfl
  of_code := fun _ same => by cases same; exact .inl rfl
  of_created := nofun

/-- Nodes that are compiled and written alike give outcomes that agree. -/
theorem of_agrees {compiled : Except CompileError α} {code : Except Problem String}
    (h : Compile.Agrees compiled code) :
    FaultsAgree text (compiled.mapError (SyntaxError.ofCompileError text))
      (code.mapError (SyntaxError.ofProblem text)) := by
  cases h with
  | ok a written =>
    exact { of_placed := nofun, of_code := nofun, of_created := fun _ _ => ⟨written, rfl⟩ }
  | problem p => exact of_error (SyntaxError.ofProblem text p)
  | @badPattern pattern flaw code bad =>
    refine ⟨?_, fun e _ => .inr ⟨pattern, flaw, bad, rfl⟩, nofun⟩
    intro e same placed
    cases same
    exact absurd rfl placed

/-- Only whether something was created counts, and not what it is. -/
theorem of_map {created : Except SyntaxError α} {f : α → β} {code : Except SyntaxError String}
    (h : FaultsAgree text (created.map f) code) : FaultsAgree text created code where
  of_placed := fun e failed => h.of_placed e (map_eq_error.mpr failed)
  of_code := by
    intro e failed
    rcases h.of_code e failed with same | ⟨pattern, flaw, bad, same⟩
    · exact .inl (map_eq_error.mp same)
    · exact .inr ⟨pattern, flaw, bad, map_eq_error.mp same⟩
  of_created := fun a made => h.of_created (f a) (map_eq_ok.mpr ⟨a, made, rfl⟩)

end FaultsAgree

end

namespace Language

/-- What is compiled without shared functions agrees with what is written for the same nodes. -/
theorem faultsAgree_plainValue [PatternLibrary] (text : String)
    {parsed : Except SyntaxError (List Node)}
    {program : List Node → CompileM (Object α)} {write : List Node → Except Problem String}
    (h : ∀ l, parsed = .ok l → Compile.AgreesWith (program l) (write l)) :
    FaultsAgree text (plainValue text parsed program)
      (parsed >>= fun l => (write l).mapError (SyntaxError.ofProblem text)) := by
  cases parsed with
  | error e => exact .of_error e
  | ok l =>
    obtain ⟨agrees, -⟩ := h l rfl ⟨none, 0⟩ rfl
    exact .of_agrees (agrees.view Object.value)

/-- After any operations on a language, with or without shared functions, creating the expression
or the predicate of a text and writing its code agree on what is wrong with the text, unless a
function stands inside another one. -/
theorem create_agrees_code [PatternLibrary] (escapes : Bool) (capacity : Nat) (shared : Option Nat)
    (operations : List LanguageOperation) (text : String) :
    let language := (start escapes capacity (shared.map .empty)).performAll operations
    ((∀ nodes, language.templateNodes text = .ok nodes → Node.unnestedAll false nodes = true) →
        FaultsAgree text (language.createExpression text).1 (language.expressionCode text)) ∧
      ((∀ nodes, language.conditionNodes text = .ok nodes →
          Node.unnestedAll false nodes = true) →
        FaultsAgree text (language.createPredicate text).1 (language.predicateCode text)) := by
  intro language
  have coherent : language.IsCoherent :=
    (isCoherent_start escapes capacity shared).performAll operations
  constructor
  · intro unnested
    have value := (coherent.createExpression text).1
    refine .of_map (f := Object.value) ?_
    rw [value]
    exact faultsAgree_plainValue text fun l parsed => Compile.agrees_expression (unnested l parsed)
  · intro unnested
    have value := (coherent.createPredicate text).1
    refine .of_map (f := Object.value) ?_
    rw [value]
    exact faultsAgree_plainValue text fun l parsed => Compile.agrees_predicate (unnested l parsed)

/-- A pattern that cannot be read is found by creating a predicate, and the function after it, which
does not exist, by writing its code. In a template both find the function. -/
theorem create_agrees_code_pattern :
    let language := start true defaultCapacity none
    let text := "$\x7bbody\x7d regex '[' && $\x7bnope\x7d"
    let unknown : SyntaxError := ⟨text, some 21, "Unknown function: nope"⟩
    (∀ nodes, language.templateNodes text = .ok nodes → Node.unnestedAll false nodes = true) ∧
      (∀ nodes, language.conditionNodes text = .ok nodes → Node.unnestedAll false nodes = true) ∧
      language.expressionCode text = .error unknown ∧
      (language.createExpression text).1 = .error unknown ∧
      language.predicateCode text = .error unknown ∧
      ∃ pattern flaw, PatternLibrary.compileWhole pattern = .error flaw ∧
        (language.createPredicate text).1 = .error ⟨text, none, patternMessage pattern flaw⟩ := by
  intro language text unknown
  have template : (language.templateNodes text).map (Node.unnestedAll false) = .ok true := by
    decide +kernel
  have condition : (language.conditionNodes text).map (Node.unnestedAll false) = .ok true := by
    decide +kernel
  have written : language.expressionCode text = .error unknown := by decide +kernel
  have written' : language.predicateCode text = .error unknown := by decide +kernel
  have index : ((language.createExpression text).1.map fun _ => ()) = .error unknown := by
    decide +kernel
  have index' : ((language.createPredicate text).1.map fun _ => ()) ≠ .error unknown := by
    decide +kernel
  have unnested {parsed : Except SyntaxError (List Node)}
      (h : parsed.map (Node.unnestedAll false) = .ok true) :
      ∀ nodes, parsed = .ok nodes → Node.unnestedAll false nodes = true := by
    rintro nodes rfl
    exact Except.ok.inj h
  obtain ⟨-, predicate⟩ := create_agrees_code true defaultCapacity none [] text
  refine ⟨unnested template, unnested condition, written, map_eq_error.mp index, written', ?_⟩
  rcases (predicate (unnested condition)).of_code unknown written' with same | bad
  · exact absurd (map_eq_error.mpr same) index'
  · exact bad

end Language

end MessageExpr
