import MessageExpr.Library

/-!
# What libraries of regular expressions document

A library is known by what it documents: which texts are regular expressions, and which parts of a
text an expression matches. Only little of that matters for patterns that are to match whole texts,
namely what is documented of the marks for the start and the end of a text, of groups, and of
searching.

Texts cannot be put together carelessly. A comment at the end of an expression swallows what is put
after it, and a parenthesis in a text may close a group that was opened before the text. So it is
not enough for a text to be an expression on its own, it must also be one inside a group.

## Main definitions

* `IsExpression` — a text is a regular expression
* `IsGroupable` — a regular expression that can stand in a group
* `Loose` — a text goes on behind a parenthesis that nothing in it opened
* `Documented` — what a library documents

## Main results

* `Documented.isGroupable_of_anchored` — what an accepted text between the marks is on its own
* `Documented.matches_anchored` — what an expression matches between the marks
-/

namespace MessageExpr.PatternLibrary

/-! ## Texts with marks -/

/-- A text in a group that captures nothing. -/
def grouped (text : String) : String := "(?:" ++ text ++ ")"

private theorem anchored_eq (text : String) : anchored text = "^" ++ (grouped text ++ "$") := by
  have opened : "^(?:" = "^" ++ "(?:" := rfl
  have closed : ")$" = ")" ++ "$" := rfl
  rw [anchored, grouped, opened, closed]
  simp only [String.append_assoc]

/-- A closing parenthesis in a text before the marks for the end of a group and of the text is the
one after the text, or it stands in the text. -/
theorem eq_or_exists_of_append {text front back : String}
    (eq : text ++ ")$" = front ++ ")" ++ back) :
    front = text ∨ ∃ more, text = front ++ ")" ++ more := by
  have eq : text.toList ++ [')', '$'] = front.toList ++ ')' :: back.toList := by
    simpa [String.toList_append] using congrArg String.toList eq
  rcases List.append_eq_append_iff.mp eq with ⟨between, front_eq, rest⟩ | ⟨between, text_eq, rest⟩
  · cases between with
    | nil => exact .inl (String.ext (by simpa using front_eq))
    | cons c between =>
      -- Behind the first parenthesis nothing but the mark for the end is left.
      have mem : ')' ∈ ['$'] := by
        rw [(List.cons_eq_cons.mp rest).2]
        simp
      exact absurd mem (by decide)
  · cases between with
    | nil => exact .inl (String.ext (by simpa using text_eq.symm))
    | cons c between =>
      obtain rfl := (List.cons_eq_cons.mp rest).1
      exact .inr ⟨String.ofList between, String.ext (by simp [text_eq, String.toList_append])⟩

/-! ## Libraries -/

variable [PatternLibrary]

/-- A text is a regular expression when the library does not call it malformed. An expression may
still be too large to be compiled. -/
def IsExpression (text : String) : Prop := ∀ report, compile text ≠ .error (.malformed report)

/-- A regular expression that can stand in a group. -/
structure IsGroupable (text : String) : Prop where
  alone : IsExpression text
  inside : IsExpression (grouped text)

/-- A closing parenthesis stands in a text after an expression, so that it closes nothing that the
text opened. -/
def Loose (text : String) : Prop := ∃ front back, text = front ++ ")" ++ back ∧ IsGroupable front

/-- What a library documents, where `Matches e t i j` means that the expression `e` matches what
stands between the places `i` and `j` of the text `t`. -/
structure Documented (Matches : String → String → Nat → Nat → Prop) : Prop where
  /-- A search succeeds if the expression matches anywhere in the text, and only then. -/
  isMatch_iff {e : String} {p : Compiled} (compiled : compile e = .ok p) (t : String) :
    isMatch p t = true ↔ ∃ i j, Matches e t i j
  /-- A group is opened, then an expression stands in it, and then it is closed. -/
  exists_group {rest : String} (h : IsExpression ("^(?:" ++ rest)) :
    ∃ e more, rest = e ++ ")" ++ more ∧ IsGroupable e
  /-- A parenthesis that closes no group is an error. -/
  unopened {e : String} (h : IsGroupable e) (rest : String) : ¬IsExpression (e ++ ")" ++ rest)
  /-- A group matches what the expression in it matches. -/
  matches_grouped {e : String} (h : IsGroupable e) (t : String) (i j : Nat) :
    Matches (grouped e) t i j ↔ Matches e t i j
  /-- The mark for the end stands at the end of the text and takes no character. -/
  matches_endMark {e : String} (h : IsGroupable e) (row : IsExpression (grouped e ++ "$"))
    (t : String) (i j : Nat) :
    Matches (grouped e ++ "$") t i j ↔ Matches (grouped e) t i j ∧ j = t.length
  /-- What follows the mark for the start is an expression as well. -/
  of_startMark {e : String} (h : IsGroupable e) (row : IsExpression ("^" ++ (grouped e ++ "$"))) :
    IsExpression (grouped e ++ "$")
  /-- The mark for the start stands at the start of the text and takes no character. -/
  matches_startMark {e : String} (h : IsGroupable e)
    (row : IsExpression ("^" ++ (grouped e ++ "$"))) (t : String) (i j : Nat) :
    Matches ("^" ++ (grouped e ++ "$")) t i j ↔ i = 0 ∧ Matches (grouped e ++ "$") t i j

/-- A text without a closing parenthesis is not loose. -/
theorem not_loose_of_notMem {text : String} (notMem : ')' ∉ text.toList) : ¬Loose text := by
  rintro ⟨front, back, rfl, -⟩
  exact notMem (by simp [String.toList_append])

namespace Documented

variable {Matches : String → String → Nat → Nat → Prop} (h : Documented Matches) {text : String}

include h

/-- What is loose is no expression. -/
theorem not_isExpression_of_loose (loose : Loose text) : ¬IsExpression text := by
  obtain ⟨front, back, rfl, groupable⟩ := loose
  exact h.unopened groupable back

/-- What is an expression between the marks is one in a group, unless it is loose. -/
theorem isGroupable_of_anchored (row : IsExpression (anchored text)) (tight : ¬Loose text) :
    IsGroupable text := by
  have opened : anchored text = "^(?:" ++ (text ++ ")$") := String.append_assoc
  rw [opened] at row
  obtain ⟨front, back, eq, groupable⟩ := h.exists_group row
  rcases eq_or_exists_of_append eq with rfl | ⟨more, rfl⟩
  · exact groupable
  · exact absurd ⟨front, more, rfl, groupable⟩ tight

/-- Between the marks an expression matches whole texts, as far as it does so on its own. -/
theorem matches_anchored (groupable : IsGroupable text) (row : IsExpression (anchored text))
    (t : String) (i j : Nat) :
    Matches (anchored text) t i j ↔ i = 0 ∧ j = t.length ∧ Matches text t i j := by
  rw [anchored_eq] at row ⊢
  rw [h.matches_startMark groupable row, h.matches_endMark groupable (h.of_startMark groupable row),
    h.matches_grouped groupable]
  exact and_congr_right fun _ => and_comm

end Documented

end MessageExpr.PatternLibrary
