import MessageExpr.Proofs.Code.Traced
import MessageExpr.Proofs.Compile.Traced
import MessageExpr.Proofs.Condition.Traced
import MessageExpr.Proofs.Language.Caching
import MessageExpr.Proofs.Problem.Wording
import MessageExpr.Proofs.Template.Traced

/-!
# Where errors are

An error of a text is at a place that a user can look at. If it says that the text has ended, it is
there. Otherwise it is where a token starts that was recorded while the text was read, no matter
which of the stages found it: the grammar, linking, compiling or writing code. So the mark that is
shown below the text is below one of its characters, or right after the last one.

## Main definitions

* `SyntaxError.SaysEnd` — an error that says that the text has ended
* `SyntaxError.StandsAt`, `SyntaxError.Positioned` — an error at a place of a text

## Main results

* `Language.positioned_of_error` — all errors of a language
-/

namespace MessageExpr

open Compile (FailsOnly)

namespace SyntaxError

/-- Whether an error says that the text has ended. The message as a whole counts, because the name
of a function that does not exist can hold any words. -/
def SaysEnd (e : SyntaxError) : Prop := ∃ kind : TokenKind, e.message = kind.endMessage

/-- Whether an error is at a place of a text: where the text has ended, if it says so, or else where
one of the recorded tokens starts. The mark is shown below what follows this place. -/
structure StandsAt (recorded : List Token) (text : String) (e : SyntaxError) (index : Nat) :
    Prop where
  ofEnd : e.SaysEnd → index = text.length
  ofToken : ¬e.SaysEnd → ∃ token ∈ recorded, token.index = index
  le_length : index ≤ text.length
  shown : ∃ before after, text.toList = before ++ after ∧ before.length = index ∧
    let mark := String.ofList (before.map (fun _ => ' ') ++ ['*'])
    e.shown = s!"{e.message} at location {index}\n{text}\n{mark}"

/-- Whether an error that is at a place is at one of a text. -/
def Positioned (recorded : List Token) (text : String) (e : SyntaxError) : Prop :=
  ∀ index, e.index = some index → e.StandsAt recorded text index

variable {recorded : List Token} {text : String}

/-- The error of a problem is where the problem is. -/
theorem standsAt_ofProblem {p : Problem} (h : p.Placed recorded text.length)
    (inside : ∀ token ∈ recorded, token.index < text.length) :
    (ofProblem text p).StandsAt recorded text p.index := by
  have saysEnd : (ofProblem text p).SaysEnd ↔ p.fault.reachesEnd = true :=
    p.fault.reachesEnd_iff.symm
  have le_length : p.index ≤ text.length := by
    rcases h with ⟨-, index⟩ | ⟨-, token, mem, index⟩
    · exact index.le
    · exact index ▸ (inside token mem).le
  refine ⟨fun said => ?_, fun unsaid => ?_, le_length, ?_⟩
  · rcases h with ⟨-, index⟩ | ⟨notEnd, -⟩
    · exact index
    · rw [saysEnd, notEnd] at said
      cases said
  · rcases h with ⟨ended, -⟩ | ⟨-, isToken⟩
    · exact absurd (saysEnd.mpr ended) unsaid
    · exact isToken
  · have length : (text.toList.take p.index).length = p.index := by
      rw [List.length_take, String.length_toList]
      exact min_eq_left le_length
    refine ⟨_, _, (List.take_append_drop p.index text.toList).symm, length, ?_⟩
    rw [List.map_const', length]
    rfl

end SyntaxError

/-! ## Errors of a text -/

namespace ReadFrom

variable {recorded : List Token} {text : String} {parsed : Except Problem (List Node)}
  {e : SyntaxError}

private theorem positioned_of_placed (h : ReadFrom recorded text parsed) {p : Problem}
    (placed : p.Placed recorded text.length) :
    (SyntaxError.ofProblem text p).Positioned recorded text := by
  rintro index ⟨⟩
  exact SyntaxError.standsAt_ofProblem placed h.inside

/-- When an object is neither kept nor can be made, the error is at a place of its text. -/
theorem positioned_of_keptOrNew [PatternLibrary] {α : Type} (h : ReadFrom recorded text parsed)
    {cache : Cache (Object α)} {workshop : Workshop} {program : List Node → CompileM (Object α)}
    (traced : ∀ l, (∀ n ∈ l, n.MadeFrom (· ∈ recorded)) →
      FailsOnly (Problem.IsAt (· ∈ recorded)) (program l))
    (failed : (Language.keptOrNew cache workshop text
      (parsed.mapError (SyntaxError.ofProblem text)) program).1 = .error e) :
    e.Positioned recorded text := by
  revert failed
  rw [Language.keptOrNew]
  rcases cache.get text with ⟨_ | object, cache'⟩ <;> intro failed
  · cases parsed with
    | error p =>
      obtain rfl := Except.error.inj failed
      exact h.positioned_of_placed (h.placed p rfl)
    | ok l =>
      simp only [Except.mapError] at failed
      cases run : (program l).run workshop with
      | mk result workshop' =>
        rw [run] at failed
        cases result with
        | ok object => cases failed
        | error error =>
          obtain rfl := Except.error.inj failed
          cases error with
          | problem p =>
            exact h.positioned_of_placed (.inr (traced l (h.made l rfl) workshop p workshop' run))
          | badPattern pattern flaw => rintro index ⟨⟩
  · cases failed

/-- When no code can be written, the error is at a place of the text. -/
theorem positioned_of_code (h : ReadFrom recorded text parsed)
    {write : List Node → Except Problem String}
    (traced : ∀ l, (∀ n ∈ l, n.MadeFrom (· ∈ recorded)) →
      Traced (· ∈ recorded) (fun _ => True) (write l))
    (failed : (parsed.mapError (SyntaxError.ofProblem text) >>= fun l =>
      (write l).mapError (SyntaxError.ofProblem text)) = .error e) :
    e.Positioned recorded text := by
  cases parsed with
  | error p =>
    obtain rfl := Except.error.inj failed
    exact h.positioned_of_placed (h.placed p rfl)
  | ok l =>
    change (write l).mapError (SyntaxError.ofProblem text) = .error e at failed
    cases written : write l with
    | ok code =>
      rw [written] at failed
      cases failed
    | error p =>
      rw [written] at failed
      obtain rfl := Except.error.inj failed
      exact h.positioned_of_placed (.inr ((traced l (h.made l rfl)).of_error written))

end ReadFrom

/-! ## Errors of a language -/

namespace Language

/-- Whatever a language has kept, an error of creating an object or writing code that is at a place
is at one of the text. -/
theorem positioned_of_error [PatternLibrary] (language : Language) (text : String)
    (e : SyntaxError) :
    ((language.createExpression text).1 = .error e ∨ language.expressionCode text = .error e →
        e.Positioned (Template.recorded language.escapes text) text) ∧
      ((language.createPredicate text).1 = .error e ∨ language.predicateCode text = .error e →
        e.Positioned (Condition.recorded language.escapes text) text) := by
  have template := Template.readFrom_parse language.escapes text
  have condition := Condition.readFrom_parse language.escapes text
  constructor
  · rintro (failed | failed)
    · rw [createExpression_eq] at failed
      exact template.positioned_of_keptOrNew (fun _ => Compile.traced_expression) failed
    · exact template.positioned_of_code (fun _ => Code.traced_ofExpression) failed
  · rintro (failed | failed)
    · rw [createPredicate_eq] at failed
      exact condition.positioned_of_keptOrNew (fun _ => Compile.traced_predicate) failed
    · exact condition.positioned_of_code (fun _ => Code.traced_ofPredicate) failed

/-- The operator in the condition has no operand, and the text has ended. The error of the template
is at its function, though the name of this has the same words. -/
theorem positioned_of_error_words :
    let language := start true defaultCapacity none
    let text := "$\x7bbody\x7d =="
    let ended : SyntaxError :=
      ⟨text, some 10, "expected symbol whitespace but reached end of line"⟩
    let text' := "a $\x7breached end of line\x7d"
    let unknown : SyntaxError := ⟨text', some 2, "Unknown function: reached end of line"⟩
    (language.createPredicate text).1 = .error ended ∧
      ended.StandsAt (Condition.recorded true text) text 10 ∧
      language.expressionCode text' = .error unknown ∧
      unknown.StandsAt (Template.recorded true text') text' 2 := by
  intro language text ended text' unknown
  have created : ((language.createPredicate text).1.map fun _ => ()) = .error ended := by
    decide +kernel
  have failed := map_eq_error.mp created
  have failed' : language.expressionCode text' = .error unknown := by decide +kernel
  exact ⟨failed, (positioned_of_error language text ended).2 (.inl failed) 10 rfl, failed',
    (positioned_of_error language text' unknown).1 (.inr failed') 2 rfl⟩

end Language

end MessageExpr
