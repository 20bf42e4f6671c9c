import MessageExpr.Compile
import MessageExpr.Proofs.Pattern.Documented

/-!
# Patterns for whole texts

To match whole texts, the text of a pattern is put into a group between marks for the start and the
end. The group is only closed by the parenthesis after the text if no parenthesis in the text closes
it before. A text in which a parenthesis closes what it did not open is loose. Such a text is no
expression, but it can become one between the marks, and then it does not match whole texts.

## Main definitions

* `TestsWhole` — comparisons match whole texts against a text read on its own
* `IsRefused` — comparisons fail on a text as a pattern

## Main results

* `testsWhole_of_not_loose`, `isRefused_of_not_loose` — comparisons with a text that is not loose
* `testsWhole_iff_not_loose` — what it means for a pattern not to be loose
* `testsPart_loose` — a loose pattern that is accepted
-/

namespace MessageExpr.PatternLibrary

open BinaryOperator (matchesPattern)

section

variable [PatternLibrary] {Matches : String → String → Nat → Nat → Prop}

/-- The comparisons with a pattern tell whether the text as it was written, which is an expression
on its own, matches the whole text on the left, no matter if it is compiled ahead of time. -/
def TestsWhole (Matches : String → String → Nat → Nat → Prop) (text : String) (q : Compiled) :
    Prop :=
  IsExpression text ∧
    ∀ known ∈ [none, some q], ∀ v w : Value, w.text = text → v.isNull = false →
      ∃ b, BinaryOperator.regex.apply known v w = .ok b ∧
        BinaryOperator.notRegex.apply known v w = .ok !b ∧
        (b = true ↔ Matches text v.text 0 v.text.length)

/-- The comparisons with a pattern fail on a text as a pattern, and so does compiling it ahead of
time. -/
def IsRefused (text : String) (flaw : PatternFlaw) : Prop :=
  (∀ v w : Value, w.text = text → v.isNull = false →
    BinaryOperator.regex.apply none v w = .error (.badPattern text flaw) ∧
      BinaryOperator.notRegex.apply none v w = .error (.badPattern text flaw)) ∧
  ∀ operator right, Compile.knownPattern? operator right = some text →
    ∀ w, (Compile.pattern? operator right).run w = (.error (.badPattern text flaw), w)

/-- Whether a pattern is compiled ahead of time or not, it is the one between the marks. -/
theorem matchesPattern_of_compileWhole {v w : Value} {q : Compiled} {known : Option Compiled}
    (read : compileWhole w.text = .ok q) (mem : known ∈ [none, some q])
    (notNull : v.isNull = false) :
    matchesPattern known v w = .ok (isMatch q v.text) := by
  rcases List.mem_pair.mp mem with rfl | rfl
  · rw [matchesPattern, if_neg (Bool.eq_false_iff.mp notNull)]
    simp only [read]
  · rw [matchesPattern, if_neg (Bool.eq_false_iff.mp notNull)]

/-- What is compiled is an expression. -/
theorem isExpression_of_compile {text : String} {q : Compiled} (compiled : compile text = .ok q) :
    IsExpression text := by
  intro report malformed
  cases compiled.symm.trans malformed

/-- A pattern that is accepted and not loose tests whole texts. -/
theorem testsWhole_of_not_loose (documented : Documented Matches) {text : String} {q : Compiled}
    (read : compileWhole text = .ok q) (tight : ¬Loose text) : TestsWhole Matches text q := by
  have row : IsExpression (anchored text) := isExpression_of_compile read
  have groupable := documented.isGroupable_of_anchored row tight
  refine ⟨groupable.alone, ?_⟩
  rintro known mem v w rfl notNull
  have asked := matchesPattern_of_compileWhole read mem notNull
  refine ⟨isMatch q v.text, asked, congrArg (Except.map (!·)) asked, ?_⟩
  rw [documented.isMatch_iff read]
  simp only [documented.matches_anchored groupable row]
  constructor
  · rintro ⟨_, _, rfl, rfl, whole⟩
    exact whole
  · exact fun whole => ⟨0, v.text.length, rfl, rfl, whole⟩

private theorem isRefused_of_compileWhole {text : String} {flaw : PatternFlaw}
    (failed : compileWhole text = .error flaw) : IsRefused text flaw := by
  refine ⟨?_, ?_⟩
  · rintro v w rfl notNull
    have asked : matchesPattern none v w = .error (.badPattern w.text flaw) := by
      rw [matchesPattern, if_neg (Bool.eq_false_iff.mp notNull)]
      simp only [failed]
    exact ⟨asked, congrArg (Except.map (!·)) asked⟩
  · intro operator right known w
    simp only [Compile.pattern?, known, failed]
    rfl

/-- A text that is no expression on its own and not loose is refused. -/
theorem isRefused_of_not_loose (documented : Documented Matches) {text : String}
    (malformed : ¬IsExpression text) (tight : ¬Loose text) :
    ∃ report, IsRefused text (.malformed report) := by
  have row : ¬IsExpression (anchored text) := fun row =>
    malformed (documented.isGroupable_of_anchored row tight).alone
  obtain ⟨report, failed⟩ := not_forall_not.mp row
  exact ⟨report, isRefused_of_compileWhole failed⟩

/-- A pattern that is accepted for whole texts tests whole texts against the text as it was written
if and only if the text is not loose. What is no expression on its own is refused as malformed if it
is not loose. -/
theorem testsWhole_iff_not_loose (documented : Documented Matches) (text : String) :
    (∀ q, compileWhole text = .ok q → (TestsWhole Matches text q ↔ ¬Loose text)) ∧
      (¬IsExpression text → ¬Loose text → ∃ report, IsRefused text (.malformed report)) := by
  refine ⟨fun q read => ⟨?_, testsWhole_of_not_loose documented read⟩,
    isRefused_of_not_loose documented⟩
  rintro ⟨alone, -⟩ loose
  exact documented.not_isExpression_of_loose loose alone

end

/-- A choice between two characters is accepted and not loose, and so the comparison with it tests
whole texts. A group that is not closed is refused. -/
theorem testsWhole_iff_not_loose_choice :
    (∃ q, compileWhole "a|b" = .ok q ∧ TestsWhole Pattern.Matches "a|b" q) ∧
      ¬IsExpression "a|(b" ∧ ∃ report, IsRefused "a|(b" (.malformed report) := by
  have isOk : (compileWhole "a|b").isOk = true := by decide +kernel
  obtain ⟨q, read⟩ := exists_of_isOk isOk
  have unclosed : Pattern.read? "a|(b".toList = none := by decide +kernel
  have malformed : ¬IsExpression "a|(b" := by
    rw [Pattern.isExpression_iff, unclosed]
    simp
  refine ⟨⟨q, read, ?_⟩, malformed, ?_⟩
  · exact ((testsWhole_iff_not_loose Pattern.documented "a|b").1 q read).mpr
      (not_loose_of_notMem (by decide))
  · exact (testsWhole_iff_not_loose Pattern.documented "a|(b").2 malformed
      (not_loose_of_notMem (by decide))

/-- The text `a)|(b` is no expression on its own, but one between the marks, and it matches a text
of which only the start is an expression in it. -/
theorem testsPart_loose :
    ∃ q, compileWhole "a)|(b" = .ok q ∧ isMatch q "axxx" = true ∧ ¬IsExpression "a)|(b" := by
  have accepted : (compileWhole "a)|(b").map (fun q => isMatch q "axxx") = .ok true := by
    decide +kernel
  obtain ⟨q, read, holds⟩ := map_eq_ok.mp accepted
  have unopened : Pattern.read? "a)|(b".toList = none := by decide +kernel
  refine ⟨q, read, holds, ?_⟩
  rw [Pattern.isExpression_iff, unopened]
  simp

end MessageExpr.PatternLibrary
