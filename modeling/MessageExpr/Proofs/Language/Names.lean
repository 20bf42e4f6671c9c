import MessageExpr.Proofs.Exchange.Given
import MessageExpr.Proofs.Function.Names
import MessageExpr.Proofs.Language.Caching
import MessageExpr.Proofs.Template.Call

/-!
# Headers and properties by their names

A header can be asked for by every name that neither starts nor ends with white space or a quote and
in which nothing is escaped and no function starts or ends. The name may be full of operators,
numbers, brackets and quotes: it is put together again when the function is read. What is found is
the value itself, under the name in any case of its ASCII letters. With properties it is the same,
up to the case of letters.

## Main definitions

* `Language.Gives` — a text has the same value as a function of the surroundings

## Main results

* `Language.gives_call` — a function with a name that is known
* `Language.gives_form` — a name in one of the ways of writing it
* `Language.gives_name` — headers and properties by their names
-/

namespace MessageExpr

/-- A function whose name is known is compiled to this function. -/
theorem Compile.plain_expression_call [PatternLibrary] {children : List Node} {f : Function}
    (noFunctions : Node.hasFunctions children = false)
    (named : Function.ofName? (Node.literalTexts children) = some f) (kind : BlockKind)
    (token : Token) : (plain (expression [.block .function kind token children])).map Object.value =
      .ok (.function f) := by
  have named : Function.ofName? (trimmed (Node.literalTexts children)) = some f := by
    rwa [Function.ofName?_trimmed]
  rw [expression, single, if_neg (by simp [noFunctions])]
  simp only [function, named]
  rfl

namespace Language

section

variable [PatternLibrary] {language : Language}

/-- Whether a text can be compiled to an expression, whose value is told by the surroundings. -/
def Gives (language : Language) (text : String) (value : Surroundings → Value) : Prop :=
  ∃ object, (language.createExpression text).1 = .ok object ∧
    ∀ s, object.value.evaluate s = .ok (value s)

/-- A function with a name that is known gives the value of the function. -/
theorem gives_call (coherent : language.IsCoherent) {t : List Char} (inner : IsInner t)
    {f : Function} (named : Function.ofName? (String.ofList t) = some f)
    {value : Surroundings → Value} (called : ∀ s, f.call s = .ok (value s)) :
    language.Gives (callText t) value := by
  obtain ⟨start, tokens, parsed, joined⟩ := Template.parse_call inner language.escapes
  obtain ⟨noFunctions, text⟩ := Condition.texts_ofTexts tokens
  rw [joined] at text
  rw [← text] at named
  obtain ⟨object, created, same⟩ := (coherent.createExpression_eq_ok (callText t) _).mpr
    ⟨_, parsed, Compile.plain_expression_call noFunctions named .function start⟩
  refine ⟨object, created, fun s => ?_⟩
  rw [same]
  exact called s

/-- The word before a name decides which function it is, in both ways of writing the name. -/
theorem gives_form (coherent : language.IsCoherent) {name word : String}
    (isName : Function.IsName name.toList)
    (mem : word ∈ "exchangeProperty" :: Function.headerWords) (form : Function.KeyForm)
    {f : Function}
    (named : (if word ∈ Function.headerWords then .header name else .property name) = f)
    {value : Surroundings → Value} (called : ∀ s, f.call s = .ok (value s)) :
    language.Gives ("$\x7b" ++ word ++ String.ofList form.before ++ name ++
      String.ofList form.after ++ "\x7d") value := by
  have text : "$\x7b" ++ word ++ String.ofList form.before ++ name ++
      String.ofList form.after ++ "\x7d" = callText (word.toList ++ form.text name.toList) := by
    rw [← String.toList_inj]
    simp [callText, Function.KeyForm.text]
  have isWord := Function.isKeyWord_of_mem word mem
  have named' := isName.ofName?_text mem form
  rw [String.ofList_toList, named] at named'
  rw [text]
  exact gives_call coherent (isName.isInner_text form isWord) named' called

/-- After any operations on a language, with or without shared functions, a header is found by its
name after any of the four words, and a property after its word, with a point before the name or
with brackets around it. What is found is the value that was given last: for a header under the name
in any case of its ASCII letters, for a property under exactly the name. It is null when there is
none. -/
theorem gives_name (escapes : Bool) (capacity : Nat) (shared : Option Nat)
    (operations : List LanguageOperation) (name : String) :
    let language := (start escapes capacity (shared.map .empty)).performAll operations
    Function.IsName name.toList →
      (∀ marks ∈ [(".", ""), ("[", "]")],
        (∀ word ∈ ["header", "headers", "in.header", "in.headers"],
          language.Gives ("$\x7b" ++ word ++ marks.1 ++ name ++ marks.2 ++ "\x7d")
            fun s => s.exchange.header name) ∧
        language.Gives ("$\x7b" ++ "exchangeProperty" ++ marks.1 ++ name ++ marks.2 ++ "\x7d")
          fun s => s.exchange.property name) ∧
      ∀ (exchange : Exchange) given,
        (exchange.headers = .ofEntries given → exchange.header name =
          (lastGiven? (fun other =>
            Text.sameIgnoringCase other.toList name.toList) given).getD .null) ∧
        (exchange.properties = .ofEntries given → exchange.property name =
          (lastGiven? (· == name) given).getD .null) := by
  intro language isName
  have coherent : language.IsCoherent :=
    (isCoherent_start escapes capacity shared).performAll operations
  refine ⟨fun marks mem => ?_, fun exchange given => ⟨fun headers => ?_, fun properties => ?_⟩⟩
  rotate_left
  · exact Exchange.header_eq headers name
  · exact Exchange.property_eq properties name
  obtain ⟨form, rfl⟩ : ∃ form : Function.KeyForm,
      (String.ofList form.before, String.ofList form.after) = marks := by
    simp only [List.mem_cons, List.not_mem_nil, or_false] at mem
    rcases mem with rfl | rfl
    · exact ⟨.point, rfl⟩
    · exact ⟨.brackets, rfl⟩
  refine ⟨fun word mem => ?_, ?_⟩
  · have isHeader : word ∈ Function.headerWords := by
      revert word
      decide
    exact gives_form coherent isName (List.mem_cons_of_mem _ isHeader) form (if_pos isHeader)
      fun _ => rfl
  · exact gives_form coherent isName List.mem_cons_self form (if_neg (by decide)) fun _ => rfl

end

/-- A name may hold brackets, operators, quotes, numbers, a dollar sign and a brace. -/
theorem gives_name_operators :
    Function.IsName "x] == 'a' not in 1.5\x7b$ null".toList ∧
      ∃ object, ((start true 0 none).createExpression
          "$\x7bin.headers[x] == 'a' not in 1.5\x7b$ null]\x7d").1 = .ok object ∧
        object.value.evaluate
          ⟨Exchange.empty.withHeader "X] == 'A' not in 1.5\x7b$ Null" (.integer 7), []⟩ =
            .ok (.integer 7) := by
  have isName : Function.IsName "x] == 'a' not in 1.5\x7b$ null".toList :=
    { noEscape := by decide
      noEnd := by decide
      noStart := by
        rw [← Text.contains_iff]
        decide
      noLongStart := by
        rw [← Text.contains_iff]
        decide
      nonempty := by decide
      first := by
        intro c mem
        obtain rfl : 'x' = c := Option.some.inj mem
        decide +kernel
      last := by
        intro c mem
        obtain rfl : 'l' = c := Option.some.inj mem
        decide +kernel }
  have text : "$\x7b" ++ "in.headers" ++ "[" ++ "x] == 'a' not in 1.5\x7b$ null" ++ "]" ++ "\x7d" =
      "$\x7bin.headers[x] == 'a' not in 1.5\x7b$ null]\x7d" := by
    decide
  have alike : Text.sameIgnoringCase "X] == 'A' not in 1.5\x7b$ Null".toList
      "x] == 'a' not in 1.5\x7b$ null".toList = true := by
    decide
  obtain ⟨gives, given⟩ := gives_name true 0 none [] "x] == 'a' not in 1.5\x7b$ null" isName
  have header := (given (Exchange.empty.withHeader "X] == 'A' not in 1.5\x7b$ Null" (.integer 7))
    [("X] == 'A' not in 1.5\x7b$ Null", .integer 7)]).1 rfl
  have given := (gives ("[", "]") (by simp)).1 "in.headers" (by simp)
  rw [text] at given
  obtain ⟨object, created, evaluates⟩ := given
  refine ⟨isName, object, created, (evaluates _).trans ?_⟩
  simp only [header, lastGiven?, List.reverse_singleton, List.find?_cons, alike, Option.map_some,
    Option.getD_some]

end Language

end MessageExpr
