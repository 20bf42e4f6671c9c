import MessageExpr.Proofs.Text.Trim
import MessageExpr.Proofs.Token.Inner

/-!
# Names of headers and properties

A name that neither starts nor ends with white space or a quote is read back as it is, after a point
as well as between brackets, also when it holds brackets, points or quotes inside.

## Main definitions

* `Function.IsName` — a name that a function can be given as it is
* `Function.KeyForm` — the ways in which the name is written after a word

## Main results

* `Function.IsName.isInner_text` — what is written may stand inside a function
* `Function.IsName.ofName?_text` — the function that is named
-/

namespace MessageExpr

/-! ## Pieces of a text -/

private theorem infix_of_append_left {front t word : List Char} {c : Char} (h : c ∉ front)
    (found : c :: word <:+: front ++ t) : c :: word <:+: t := by
  induction front with
  | nil => exact found
  | cons d front ih =>
    rw [List.cons_append, List.infix_cons_iff] at found
    rcases found with starts | later
    · exact absurd (List.cons_prefix_cons.mp starts).1 (List.ne_of_not_mem_cons h)
    · exact ih (List.not_mem_of_not_mem_cons h) later

private theorem infix_of_append_right {t back : List Char} (word : List Char) {c : Char}
    (h : c ∉ back)
    (found : word ++ [c] <:+: t ++ back) : word ++ [c] <:+: t := by
  rw [← List.reverse_infix] at found ⊢
  rw [List.reverse_append] at found
  rw [List.reverse_append, List.reverse_singleton] at found ⊢
  exact infix_of_append_left (by simpa using h) found

/-- What stands between other texts is inner text when these have none of the characters that mean
something inside a function. -/
theorem IsInner.between {front t back : List Char} (h : IsInner t)
    (plain : ∀ c ∈ front ++ back, c ∉ ['\\', '$', '\x7b', '\x7d']) :
    IsInner (front ++ t ++ back) := by
  have other (c : Char) (special : c ∈ ['\\', '$', '\x7b', '\x7d']) : c ∉ front ∧ c ∉ back :=
    ⟨fun mem => plain c (List.mem_append_left back mem) special,
      fun mem => plain c (List.mem_append_right front mem) special⟩
  have start (word : List Char) (found : '$' :: (word ++ ['\x7b']) <:+: front ++ t ++ back) :
      '$' :: (word ++ ['\x7b']) <:+: t := by
    rw [List.append_assoc] at found
    have found := infix_of_append_left (other '$' (by decide)).1 found
    exact infix_of_append_right ('$' :: word) (other '\x7b' (by decide)).2 found
  refine ⟨?_, ?_, fun found => h.noStart (start [] found),
    fun found => h.noLongStart (start ['s', 'i', 'm', 'p', 'l', 'e'] found)⟩
  · simp only [List.mem_append, not_or]
    exact ⟨⟨(other _ (by decide)).1, h.noEscape⟩, (other _ (by decide)).2⟩
  · simp only [List.mem_append, not_or]
    exact ⟨⟨(other _ (by decide)).1, h.noEnd⟩, (other _ (by decide)).2⟩

namespace Function

/-- A name that can be given to a function as it is: inner text that neither starts nor ends with
white space or a quote. -/
structure IsName (name : List Char) : Prop extends IsInner name where
  nonempty : name ≠ []
  first : ∀ c ∈ name.head?, Unicode.isBlank c = false ∧ isQuote c = false
  last : ∀ c ∈ name.getLast?, Unicode.isBlank c = false ∧ isQuote c = false

/-- The ways in which a name is written after a word. -/
inductive KeyForm where
  | point
  | brackets

/-- What stands before the name. -/
def KeyForm.before : KeyForm → List Char
  | point => ['.']
  | brackets => ['[']

/-- What stands after the name. -/
def KeyForm.after : KeyForm → List Char
  | point => []
  | brackets => [']']

/-- A name as it is written after a word. -/
def KeyForm.text (form : KeyForm) (name : List Char) : List Char :=
  form.before ++ name ++ form.after

/-- The words before the name of a header. -/
def headerWords : List String := ["in.headers", "in.header", "headers", "header"]

/-! ## Words before names -/

theorem KeyForm.before_mem (form : KeyForm) : form.before ∈ [['.'], ['[']] := by
  cases form <;> decide

/-- Whether a word is no word for a name where another one stands before it: where it is found
there, neither a point nor a colon nor a bracket follows it. -/
def IsApart (word other : String) : Prop :=
  ∀ before ∈ [['.'], ['[']], ¬word.toList ++ before <+: other.toList ∧
    ∀ next ∈ [['.'], [':'], ['[']], ¬other.toList ++ next <+: word.toList ++ before

/-- What is needed of a word before a name: it has no white space and nothing that means something
inside a function, and no other function is named by what starts with it. -/
structure IsKeyWord (word : String) : Prop where
  nonempty : word.toList ≠ []
  noBlank : ∀ c ∈ word.toList, Unicode.isBlank c = false
  noSpecial : ∀ c ∈ word.toList, c ∉ ['\\', '$', '\x7b', '\x7d']
  notPlain : ∀ plain ∈ ["body", "in.body", "exchangeId", "id", "messageId", "null"],
    ¬word.toList <+: plain.toList
  notBodyAs : ¬"bodyAs(".toList <+: word.toList ∧ ¬word.toList <+: "bodyAs(".toList
  apart : ∀ other ∈ "exchangeProperty" :: headerWords, other ≠ word → IsApart word other

theorem isKeyWord_of_mem : ∀ word ∈ "exchangeProperty" :: headerWords, IsKeyWord word := by
  have nonempty : ∀ word ∈ "exchangeProperty" :: headerWords, word.toList ≠ [] := by decide
  have noBlank : ∀ word ∈ "exchangeProperty" :: headerWords,
      word.toList.all (fun c => decide (Unicode.isBlank c = false)) = true := by
    decide +kernel
  have noSpecial : ∀ word ∈ "exchangeProperty" :: headerWords,
      word.toList.all (fun c => decide (c ∉ ['\\', '$', '\x7b', '\x7d'])) = true := by
    decide
  have notPlain : ∀ word ∈ "exchangeProperty" :: headerWords,
      ∀ plain ∈ ["body", "in.body", "exchangeId", "id", "messageId", "null"],
        ¬word.toList <+: plain.toList := by
    decide
  have notBodyAs : ∀ word ∈ "exchangeProperty" :: headerWords,
      ¬"bodyAs(".toList <+: word.toList ∧ ¬word.toList <+: "bodyAs(".toList := by
    decide
  have apart : ∀ word ∈ "exchangeProperty" :: headerWords,
      ∀ other ∈ "exchangeProperty" :: headerWords, other ≠ word → IsApart word other := by
    unfold IsApart
    decide +kernel
  intro word mem
  refine ⟨nonempty word mem, fun c here => ?_, fun c here => ?_, notPlain word mem,
    notBodyAs word mem, apart word mem⟩
  · exact of_decide_eq_true (List.all_eq_true.mp (noBlank word mem) c here)
  · exact of_decide_eq_true (List.all_eq_true.mp (noSpecial word mem) c here)

private theorem after?_eq_none {start t : List Char} (h : ¬start <+: t) :
    Text.after? start t = none := by
  rw [Text.after?, if_neg (by simpa using h)]

private theorem after?_append (word rest : List Char) :
    Text.after? word (word ++ rest) = some rest := by
  rw [Text.after?, if_pos (by simp), List.drop_left]

theorem IsApart.bind_after?_eq {word other : String} (h : IsApart word other) (form : KeyForm)
    (name : List Char) :
    (Text.after? other.toList (word.toList ++ form.text name)).bind key? = none := by
  obtain ⟨shorter, follows⟩ := h form.before form.before_mem
  by_cases found : other.toList <+: word.toList ++ form.text name
  · have whole : word.toList ++ form.before <+: word.toList ++ form.text name :=
      ⟨name ++ form.after, by simp [KeyForm.text]⟩
    -- The word reaches beyond the other one, and another character follows that there.
    obtain ⟨more, same⟩ := (List.prefix_or_prefix_of_prefix found whole).resolve_right shorter
    cases more with
    | nil => exact absurd ⟨[], by simpa using same.symm⟩ shorter
    | cons d more =>
      have other' (e : Char) (special : [e] ∈ [['.'], [':'], ['[']]) : d ≠ e := by
        rintro rfl
        exact follows [d] special ⟨more, by simpa using same⟩
      have split : word.toList ++ form.text name =
          other.toList ++ (d :: (more ++ (name ++ form.after))) := by
        have := congrArg (· ++ (name ++ form.after)) same
        simpa [KeyForm.text] using this.symm
      have raw : rawKey? (d :: (more ++ (name ++ form.after))) = none := by
        unfold rawKey?
        split <;> simp_all
      rw [split, after?_append, Option.bind_some, key?, raw]
  · rw [after?_eq_none found, Option.bind_none]

/-- Of some words only the one that stands before the name is found. -/
theorem keyAfter?_eq (words : List String) {word : String}
    (apart : ∀ other ∈ words, other ≠ word → IsApart word other) (form : KeyForm)
    (name : List Char) : keyAfter? words (word.toList ++ form.text name) =
      if word ∈ words then key? (form.text name) else none := by
  induction words with
  | nil => rfl
  | cons other words ih =>
    obtain ⟨here, apart⟩ := List.forall_mem_cons.mp apart
    have rest := ih apart
    rw [keyAfter?] at rest ⊢
    by_cases same : other = word
    · subst same
      rw [List.findSome?_cons, after?_append, Option.bind_some, rest, if_pos List.mem_cons_self]
      split <;> simp_all
    · rw [List.findSome?_cons, (here same).bind_after?_eq, rest]
      simp [Ne.symm same]

/-- What starts with none of the functions without a parameter is none of them. -/
theorem IsKeyWord.plain?_eq {word : String} (h : IsKeyWord word) (rest : List Char) :
    plain? (String.ofList (word.toList ++ rest)) = none := by
  have apart : ∀ plain ∈ ["body", "in.body", "exchangeId", "id", "messageId", "null"],
      (String.ofList (word.toList ++ rest) == plain) = false := by
    intro plain mem
    refine beq_eq_false_iff_ne.mpr ?_
    rintro rfl
    exact h.notPlain _ mem (by simp)
  simp only [List.mem_cons, List.not_mem_nil, or_false, forall_eq_or_imp, forall_eq] at apart
  simp only [plain?, apart, Bool.or_self, Bool.false_eq_true, if_false]

namespace IsName

variable {name : List Char} (h : IsName name)

include h

/-- A name is read back from what is written. -/
theorem key?_text (form : KeyForm) : key? (form.text name) = some (String.ofList name) := by
  have raw : rawKey? (form.text name) = some name := by
    cases form with
    | point => simp [KeyForm.text, KeyForm.before, KeyForm.after, rawKey?]
    | brackets => simp [KeyForm.text, KeyForm.before, KeyForm.after, rawKey?, Text.before?]
  have trimmed : Text.trim name = name :=
    Text.strip_eq_self (fun c mem => (h.first c mem).1) fun c mem => (h.last c mem).1
  have stripped : Text.strip isQuote name = name :=
    Text.strip_eq_self (fun c mem => (h.first c mem).2) fun c mem => (h.last c mem).2
  simp [key?, raw, trimmed, stripped, h.nonempty]

/-- What is written may stand inside a function. -/
theorem isInner_text (form : KeyForm) {word : String} (isWord : IsKeyWord word) :
    IsInner (word.toList ++ form.text name) := by
  have noSpecial : ∀ c ∈ word.toList ++ form.before ++ form.after,
      c ∉ ['\\', '$', '\x7b', '\x7d'] := by
    intro c mem
    rw [List.append_assoc] at mem
    rcases List.mem_append.mp mem with inWord | inMarks
    · exact isWord.noSpecial c inWord
    · cases form with
      | point =>
        obtain rfl : c = '.' := by simpa [KeyForm.before, KeyForm.after] using inMarks
        decide
      | brackets =>
        have either : c = '[' ∨ c = ']' := by
          simpa [KeyForm.before, KeyForm.after] using inMarks
        rcases either with rfl | rfl <;> decide
  have between := h.toIsInner.between noSpecial
  rwa [List.append_assoc, List.append_assoc, ← List.append_assoc form.before] at between

/-- There is no white space around what is written. -/
theorem trim_text (form : KeyForm) {word : String} (isWord : IsKeyWord word) :
    Text.trim (word.toList ++ form.text name) = word.toList ++ form.text name := by
  refine Text.strip_eq_self (fun c mem => ?_) fun c mem => ?_
  · rw [List.head?_append_of_ne_nil _ isWord.nonempty] at mem
    exact isWord.noBlank c (List.mem_of_mem_head? mem)
  · cases form with
    | point =>
      have whole : word.toList ++ KeyForm.point.text name = word.toList ++ ['.'] ++ name := by
        simp [KeyForm.text, KeyForm.before, KeyForm.after]
      rw [whole, List.getLast?_append_of_ne_nil _ h.nonempty] at mem
      exact (h.last c mem).1
    | brackets =>
      have whole : word.toList ++ KeyForm.brackets.text name =
          word.toList ++ ['['] ++ name ++ [']'] := by
        simp [KeyForm.text, KeyForm.before, KeyForm.after]
      rw [whole, List.getLast?_concat] at mem
      obtain rfl : ']' = c := Option.some.inj mem
      decide +kernel

/-- A word before a name decides which function is named. -/
theorem ofName?_text {word : String} (mem : word ∈ "exchangeProperty" :: headerWords)
    (form : KeyForm) : ofName? (String.ofList (word.toList ++ form.text name)) =
      some (if word ∈ headerWords then header (String.ofList name)
        else property (String.ofList name)) := by
  have isWord := isKeyWord_of_mem word mem
  have bodyAs : Text.after? "bodyAs(".toList (word.toList ++ form.text name) = none := by
    refine after?_eq_none fun found => ?_
    exact (List.prefix_or_prefix_of_prefix found (List.prefix_append _ _)).elim
      isWord.notBodyAs.1 isWord.notBodyAs.2
  have headers := keyAfter?_eq headerWords (fun other mem =>
    isWord.apart other (List.mem_cons_of_mem _ mem)) form name
  have properties := keyAfter?_eq ["exchangeProperty"] (fun other mem =>
    isWord.apart other (by simp_all)) form name
  rw [h.key?_text] at headers properties
  rw [headerWords] at headers
  rw [ofName?, String.toList_ofList, h.trim_text form isWord, ofTrimmed?, isWord.plain?_eq, bodyAs]
  simp only [Option.bind_none, headers, properties]
  by_cases isHeader : word ∈ headerWords
  · rw [if_pos isHeader]
    rw [headerWords] at isHeader
    simp only [if_pos isHeader]
  · have isProperty : word = "exchangeProperty" :=
      (List.mem_cons.mp mem).resolve_right isHeader
    rw [if_neg isHeader]
    simp [isProperty]

end IsName

end Function

end MessageExpr
