import MessageExpr.Proofs.Compile.Places
import MessageExpr.Proofs.Condition.ReadBack
import MessageExpr.Proofs.Language.Juxtaposed
import MessageExpr.Proofs.Template.Escaped

/-!
# Every text can be written as a literal

With a backslash before each character that could open or close a block, a text of any characters
is an expression that has the text as its value, and between quotes of either kind it is an operand
that has the text as its value.

## Main definitions

* `Written.bodyEquals`, `Expr.bodyEquals` — a comparison of the body with a text

## Main results

* `Condition.exists_parse_bodyEquals` — the comparison is read and compiled as such
* `Language.create_escaped` — every text can be written as a literal
-/

namespace MessageExpr

open Written

/-! ## Comparing the body with a text -/

namespace Written

/-- The function that gives the body. -/
def bodyCall : Atom := .call .short (.text "body".toList)

/-- The clause that compares the body with a text between quotes. -/
def bodyEquals (mark : QuoteMark) (s : List Char) : Clause :=
  .comparison (.compare (.operand (.atom bodyCall)) .equal (.atom (.quoted mark (.text s))) rfl)

private theorem printed_bodyEquals (mark : QuoteMark) (s : List Char) :
    printed [bodyEquals mark s] =
      "$\x7bbody\x7d == ".toList ++ mark.char :: (escaped s ++ [mark.char]) := by
  have front : bodyCall.printed ++ ' ' :: BinaryOperator.equal.symbol.toList ++ [' '] =
      "$\x7bbody\x7d == ".toList := by
    decide
  rw [← front]
  simp [printed, bodyEquals, Clause.printed, Comparison.printed, Operand.printed, Atom.printed,
    Content.printed]

private theorem texts_literal (s : List Char) :
    Node.hasFunctions (literal s) = false ∧
      Node.literalTexts (literal s) = String.ofList s := by
  unfold literal
  split
  · rename_i empty
    rw [List.isEmpty_iff.mp empty]
    exact ⟨rfl, rfl⟩
  · exact ⟨rfl, by simp [Node.literalTexts, Node.literalText, Node.plainLiteral]⟩

end Written

section

variable [PatternLibrary]

/-- What a comparison of the body with a text is compiled to. -/
def Expr.bodyEquals (s : String) : Expr :=
  .binary .equal (.function .body) (.constant (.string s)) none

namespace Compile

private theorem run_node_bodyCall (made : Nat) :
    (node bodyCall.node).run ⟨none, made⟩ = (.ok (.function .body), ⟨none, made + 1⟩) := by
  have named : Function.ofName? (trimmed (Node.literalTexts (literal "body".toList))) =
      some .body := by
    decide +kernel
  rw [bodyCall, Atom.node, node, if_neg (by decide)]
  simp only [Content.nodes, function, named]
  rfl

private theorem node_quoted (mark : QuoteMark) (s : List Char) :
    node (Atom.quoted mark (.text s)).node = pure (.constant (.string (String.ofList s))) := by
  obtain ⟨noFunctions, text⟩ := texts_literal s
  rw [Atom.node, Content.nodes, node, if_neg (by simp [noFunctions]), text]

private theorem run_nodes_bodyEquals (mark : QuoteMark) (s : List Char) :
    (nodes [(bodyEquals mark s).node]).run ⟨none, 0⟩ =
      (.ok [Expr.bodyEquals (String.ofList s)], ⟨none, 1⟩) := by
  refine run_bind_eq_ok.mpr ⟨Expr.bodyEquals (String.ofList s), _, ?_, rfl⟩
  simp only [bodyEquals, Clause.node, Comparison.node, Operand.node, node, node_quoted]
  exact run_bind_eq_ok.mpr ⟨_, _, run_node_bodyCall 0, rfl⟩

end Compile

/-- The comparison is compiled wherever its tokens stand. -/
theorem Condition.exists_parse_bodyEquals (mark : QuoteMark) (s : List Char) :
    ∃ nodes, parse true (String.ofList (printed [bodyEquals mark s])) = .ok nodes ∧
      Compile.plain (Compile.nodes nodes) = .ok [Expr.bodyEquals (String.ofList s)] := by
  obtain ⟨found, flat, walked, row, same⟩ := tokens_printed [bodyEquals mark s]
  obtain ⟨nodes, parsed, same⟩ := parse_of_row walked row same
  have compiled := Compile.run_nodes_bodyEquals mark s
  rw [List.map_singleton] at same
  rw [← same, ← Node.unplacedAll_eq, Compile.run_nodes_unplaced] at compiled
  exact ⟨nodes, parsed, congrArg Prod.fst compiled⟩

/-- The comparison holds where the body is the text, and nowhere else. -/
theorem Expr.test_bodyEquals (s : Surroundings) {b : String} (body : s.exchange.body = .string b)
    (t : String) : Predicate.test s ⟨[Expr.bodyEquals t]⟩ = .ok (decide (b = t)) := by
  have equal : (Value.string b).equals (.string t) = decide (b = t) := by
    simp only [Value.equals, Value.text, Value.shown]
    exact rfl
  have value : (Expr.bodyEquals t).evaluate s = .ok (.boolean (decide (b = t))) := by
    rw [← equal, ← body]
    rfl
  rw [Predicate.test_of_ne_nil (by simp), Predicate.testAll, value]
  cases decide (b = t) <;> rfl

/-- What a text with a backslash before its special characters is compiled to. -/
theorem Compile.plain_expression_escaped (token : Token) (s : String) :
    (plain (expression (if s.toList = [] then [] else [.literal token s]))).map Object.value =
      .ok (.constant (.string s)) := by
  split
  · rename_i empty
    rw [String.toList_eq_nil_iff.mp empty]
    rfl
  · rfl

end

namespace Language

section

variable [PatternLibrary] {language : Language} (coherent : language.IsCoherent)
  (escapes : language.escapes = true)

include coherent escapes

/-- A text with a backslash before its special characters is an expression for the text. -/
theorem exists_createExpression_escaped (s : String) :
    ∃ object, (language.createExpression (String.ofList (escaped s.toList))).1 = .ok object ∧
      object.value = .constant (.string s) := by
  obtain ⟨token, parsed⟩ := Template.parse_escaped s.toList
  rw [String.ofList_toList, ← escapes] at parsed
  exact (coherent.createExpression_eq_ok _ _).mpr
    ⟨_, parsed, Compile.plain_expression_escaped token s⟩

/-- Between quotes it is a text that the body can be compared with. -/
theorem exists_createPredicate_escaped (mark : QuoteMark) (s : String) :
    ∃ object, (language.createPredicate
        (String.ofList (printed [bodyEquals mark s.toList]))).1 = .ok object ∧
      object.value = ⟨[Expr.bodyEquals s]⟩ := by
  obtain ⟨nodes, parsed, compiled⟩ := Condition.exists_parse_bodyEquals mark s.toList
  rw [String.ofList_toList] at compiled
  refine (coherent.createPredicate_eq_ok _ _).mpr ⟨nodes, escapes ▸ parsed, ?_⟩
  rw [Compile.plain_predicate, compiled]
  rfl

end

/-- After any operations on a language with escapes, with or without shared functions, every text
with a backslash before its special characters is an expression that has the text as its value. It
can also be put between quotes of either kind, and is equal to those bodies then that are the
text. -/
theorem create_escaped [PatternLibrary] (escapes : Bool) (capacity : Nat) (shared : Option Nat)
    (operations : List LanguageOperation) (s : String) :
    let language := (start escapes capacity (shared.map .empty)).performAll operations
    let literal := String.ofList (escaped s.toList)
    language.escapes = true →
      (∃ object, (language.createExpression literal).1 = .ok object ∧
        ∀ surroundings, object.value.evaluate surroundings = .ok (.string s)) ∧
      ∀ quote ∈ ["'", "\""],
        ∃ object, (language.createPredicate ("$\x7bbody\x7d == " ++ quote ++ literal ++ quote)).1 =
            .ok object ∧
          ∀ surroundings b, surroundings.exchange.body = .string b →
            object.value.test surroundings = .ok (decide (b = s)) := by
  intro language literal enabled
  have coherent : language.IsCoherent :=
    (isCoherent_start escapes capacity shared).performAll operations
  have quoted (mark : QuoteMark) : ∃ object, (language.createPredicate
      (String.ofList (printed [bodyEquals mark s.toList]))).1 = .ok object ∧
        ∀ surroundings b, surroundings.exchange.body = .string b →
          object.value.test surroundings = .ok (decide (b = s)) := by
    obtain ⟨object, created, value⟩ := exists_createPredicate_escaped coherent enabled mark s
    refine ⟨object, created, fun surroundings b body => ?_⟩
    rw [value]
    exact Expr.test_bodyEquals surroundings body s
  constructor
  · obtain ⟨object, created, value⟩ := exists_createExpression_escaped coherent enabled s
    refine ⟨object, created, fun surroundings => ?_⟩
    rw [value]
    rfl
  · have text (mark : QuoteMark) : String.ofList (printed [bodyEquals mark s.toList]) =
        "$\x7bbody\x7d == " ++ String.singleton mark.char ++ literal ++
          String.singleton mark.char := by
      rw [← String.toList_inj, printed_bodyEquals]
      simp [literal]
    intro quote mem
    simp only [List.mem_cons, List.not_mem_nil, or_false] at mem
    rcases mem with rfl | rfl
    · exact text .single ▸ quoted .single
    · exact text .double ▸ quoted .double

theorem create_escaped_apostrophe :
    (start true 0 none).escapes = true ∧
      (∃ object, ((start true 0 none).createExpression "it\\'s \\$\\\x7bx\\\x7d").1 = .ok object ∧
        object.value.evaluate ⟨.empty, []⟩ = .ok (.string "it's $\x7bx\x7d")) ∧
      ∃ object, ((start true 0 none).createPredicate
          "$\x7bbody\x7d == 'it\\'s \\$\\\x7bx\\\x7d'").1 = .ok object ∧
        object.value.test ⟨.ofBody (.string "it's $\x7bx\x7d"), []⟩ = .ok true ∧
        object.value.test ⟨.ofBody (.string "its $\x7bx\x7d"), []⟩ = .ok false := by
  have literal : String.ofList (escaped "it's $\x7bx\x7d".toList) =
      "it\\'s \\$\\\x7bx\\\x7d" := by
    decide
  have comparison : "$\x7bbody\x7d == " ++ "'" ++ "it\\'s \\$\\\x7bx\\\x7d" ++ "'" =
      "$\x7bbody\x7d == 'it\\'s \\$\\\x7bx\\\x7d'" := by
    decide
  obtain ⟨expression, predicate⟩ := create_escaped true 0 none [] "it's $\x7bx\x7d" rfl
  rw [literal] at expression predicate
  obtain ⟨object, created, evaluates⟩ := expression
  obtain ⟨object', created', tests⟩ := predicate "'" (by simp)
  rw [comparison] at created'
  refine ⟨rfl, ⟨object, created, evaluates _⟩, object', created', ?_, ?_⟩
  · exact (tests _ "it's $\x7bx\x7d" rfl).trans (congrArg Except.ok (by decide))
  · exact (tests _ "its $\x7bx\x7d" rfl).trans (congrArg Except.ok (by decide))

end Language

end MessageExpr
