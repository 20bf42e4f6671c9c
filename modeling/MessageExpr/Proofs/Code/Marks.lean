import MessageExpr.Code
import MessageExpr.Proofs.Text.Literal
import MessageExpr.Proofs.Text.Remove

/-!
# Marks in generated code

The marks are taken out of the finished code wherever they stand. A text that holds a mark is then
no longer shown by its string literal; every other text is. Between two literals stands a character
that no mark holds, so that each of them can be looked at alone.

## Main definitions

* `Clean` — texts without marks
* `ComesTo` — code with marks comes to other code exactly when some texts are clean

## Main results

* `strip_quoted_iff` — a string literal stays as it is exactly when its text is clean
* `ComesTo.append` — codes with a joint between them
-/

namespace MessageExpr.Code

open Text (removeAll encode)

/-- A text in whose string literal no mark occurs: it does not start with the first mark or end
with the second one, as far as these lie between the quotes, and does not hold the first one. The
second one cannot lie inside a literal, where a backslash stands before a quote. -/
def Clean (t : String) : Prop :=
  ¬ "@@code[[".toList <+: t.toList ∧ ¬ "\"@@code[[".toList <:+: t.toList ∧
    ¬ "]]code@@".toList <:+ t.toList

instance (t : String) : Decidable (Clean t) :=
  inferInstanceAs (Decidable (_ ∧ _ ∧ _))

/-- What is left of code without the marks in it. -/
def stripped (code : List Char) : List Char :=
  removeAll markEnd.toList (removeAll markStart.toList code)

@[simp] theorem toList_strip (code : String) : (strip code).toList = stripped code.toList := by
  simp [strip, stripped]

theorem markStart_ne_nil : markStart.toList ≠ [] := by decide

theorem markEnd_ne_nil : markEnd.toList ≠ [] := by decide

private theorem length_stripped_le (code : List Char) : (stripped code).length ≤ code.length :=
  (Text.length_removeAll_le _ _).trans (Text.length_removeAll_le _ _)

private theorem stripped_eq_self_iff {code : List Char} :
    stripped code = code ↔ ¬ markStart.toList <:+: code ∧ ¬ markEnd.toList <:+: code :=
  Text.removeAll_removeAll_eq_self_iff markStart_ne_nil markEnd_ne_nil

/-- A mark holds a quote. -/
theorem stripped_of_noQuote {code : List Char} (h : '"' ∉ code) : stripped code = code := by
  rw [stripped_eq_self_iff]
  exact ⟨fun start => h (start.subset (by decide)), fun stop => h (stop.subset (by decide))⟩

theorem strip_quoted_iff (t : String) : strip (quoted t) = quoted t ↔ Clean t := by
  have shape : (quoted t).toList = '"' :: (encode t.toList ++ ['"']) := by simp [quoted]
  have start : markStart.toList = '"' :: "@@code[[".toList := by decide
  have stop : markEnd.toList = "]]code@@".toList ++ ['"'] := by decide
  have plain : Text.IsPlain "@@code[[".toList := by decide
  have plain' : Text.IsPlain "]]code@@".toList := by decide
  -- The first mark starts with a quote: it is the one in front of the literal, or one of the
  -- text.
  have first : '"' :: "@@code[[".toList <:+: '"' :: (encode t.toList ++ ['"']) ↔
      "@@code[[".toList <+: t.toList ∨ '"' :: "@@code[[".toList <:+: t.toList := by
    rw [List.infix_cons_iff, List.cons_prefix_cons, Text.prefix_encode_iff plain,
      Text.quote_infix_encode_iff plain (by decide)]
    simp
  -- The second mark ends with a quote. Those of the text have a backslash in front, so it can
  -- only be the one at the end of the literal.
  have last : "]]code@@".toList ++ ['"'] <:+: '"' :: (encode t.toList ++ ['"']) ↔
      "]]code@@".toList <:+ t.toList := by
    have bracket : "]]code@@".toList = ']' :: "]code@@".toList := by decide
    rw [bracket] at plain' ⊢
    rw [List.infix_cons_iff, Text.infix_quote_encode_iff plain' rfl, List.cons_append,
      List.cons_prefix_cons]
    simp
  rw [← String.toList_inj, toList_strip, stripped_eq_self_iff, shape, start, stop, first, last,
    not_or, and_assoc]
  rfl

/-! ## Codes with joints -/

/-- A nonempty run of characters that no mark holds. -/
def IsJoint (joint : String) : Prop :=
  joint.toList ≠ [] ∧ ∀ c ∈ joint.toList, c ∉ markStart.toList ∧ c ∉ markEnd.toList

instance (joint : String) : Decidable (IsJoint joint) :=
  have := List.decidableBAll (fun c => c ∉ markStart.toList ∧ c ∉ markEnd.toList) joint.toList
  inferInstanceAs (Decidable (_ ∧ _))

private theorem stripped_append_joint {joint : String} (h : IsJoint joint) (a b : List Char) :
    stripped (a ++ (joint.toList ++ b)) = stripped a ++ (joint.toList ++ stripped b) := by
  obtain ⟨nonempty, outside⟩ := h
  generalize joint.toList = run at nonempty outside
  induction run generalizing a with
  | nil => exact absurd rfl nonempty
  | cons c run ih =>
    obtain ⟨start, stop⟩ := outside c (by simp)
    -- One character of the joint is enough to keep its two sides apart.
    have step : ∀ rest, stripped (a ++ c :: rest) = stripped a ++ c :: stripped rest := by
      intro rest
      rw [stripped, Text.removeAll_append_cons markStart_ne_nil start,
        Text.removeAll_append_cons markEnd_ne_nil stop, stripped, stripped]
    rw [List.cons_append, step, List.cons_append]
    cases run with
    | nil => rfl
    | cons d run =>
      have := ih [] (by simp) fun c hc => outside c (List.mem_cons_of_mem _ hc)
      have empty : stripped [] = [] := stripped_of_noQuote (by simp)
      rw [List.nil_append, empty, List.nil_append] at this
      rw [this]

/-- Code with marks comes to code without marks when all of some texts are clean, and to shorter
code when one of them is not. -/
structure ComesTo (code plain : String) (texts : List String) : Prop where
  length_le : (stripped code.toList).length ≤ plain.toList.length
  eq_iff : stripped code.toList = plain.toList ↔ ∀ t ∈ texts, Clean t

namespace ComesTo

variable {a b p q : String} {s t : List String}

theorem strip_eq_iff (h : ComesTo a p s) : strip a = p ↔ ∀ t ∈ s, Clean t := by
  rw [← h.eq_iff, ← String.toList_inj, toList_strip]

theorem of_eq (h : stripped a.toList = p.toList) : ComesTo a p [] :=
  ⟨by rw [h], by simp [h]⟩

theorem noQuote (h : '"' ∉ a.toList) : ComesTo a a [] := of_eq (stripped_of_noQuote h)

theorem quoted (t : String) : ComesTo (quoted t) (quoted t) [t] := by
  refine ⟨length_stripped_le _, ?_⟩
  rw [← toList_strip, String.toList_inj, strip_quoted_iff]
  simp

/-- What is too short on one side of a joint cannot be made up for on the other side. -/
theorem append {joint : String} (h : IsJoint joint) (ha : ComesTo a p s) (hb : ComesTo b q t) :
    ComesTo (a ++ (joint ++ b)) (p ++ (joint ++ q)) (s ++ t) := by
  have shape : stripped (a ++ (joint ++ b)).toList =
      stripped a.toList ++ (joint.toList ++ stripped b.toList) := by
    rw [← stripped_append_joint h, String.toList_append, String.toList_append]
  have shorter := ha.length_le
  have shorter' := hb.length_le
  refine ⟨?_, ?_⟩
  · rw [shape]
    simp only [String.toList_append, List.length_append]
    omega
  · rw [shape, List.forall_mem_append, ← ha.eq_iff, ← hb.eq_iff, String.toList_append,
      String.toList_append]
    refine ⟨fun h => ?_, fun h => by rw [h.1, h.2]⟩
    have lengths := congrArg List.length h
    simp only [List.length_append] at lengths
    -- Neither side is too long, so both are of the right length and are the codes themselves.
    obtain ⟨front, back⟩ := List.append_inj h (by omega)
    exact ⟨front, List.append_cancel_left back⟩

theorem after {joint : String} (h : IsJoint joint) (hb : ComesTo b q t) :
    ComesTo (joint ++ b) (joint ++ q) t := by
  simpa using append h (noQuote (a := "") (by decide)) hb

theorem before {joint : String} (h : IsJoint joint) (ha : ComesTo a p s) :
    ComesTo (a ++ joint) (p ++ joint) s := by
  simpa using append h ha (noQuote (a := "") (by decide))

/-! ### Marks -/

/-- The first mark before code without quotes. -/
theorem start (h : '"' ∉ a.toList) : ComesTo (markStart ++ a) a [] := by
  refine of_eq ?_
  rw [stripped, String.toList_append, Text.removeAll_piece_append markStart_ne_nil,
    Text.removeAll_of_notMem (c := '"') (by decide) h,
    Text.removeAll_of_notMem (c := '"') (by decide) h]

/-- The second mark after code without quotes and brackets. -/
theorem stop (opening : '[' ∉ a.toList) (closing : ']' ∉ a.toList) :
    ComesTo (a ++ markEnd) a [] := by
  refine of_eq ?_
  have noStart : '[' ∉ (a ++ markEnd).toList := by
    rw [String.toList_append, List.mem_append, not_or]
    exact ⟨opening, by decide⟩
  have head : markEnd.toList = ']' :: "]code@@\"".toList := by decide
  rw [stripped, Text.removeAll_of_notMem (c := '[') (by decide) noStart, String.toList_append,
    head, Text.removeAll_cons_append a.toList closing, ← head]
  have := Text.removeAll_piece_append markEnd_ne_nil []
  rw [List.append_nil] at this
  rw [this, Text.removeAll_nil, List.append_nil]

/-- Code without brackets between both marks. -/
theorem marked (opening : '[' ∉ a.toList) (closing : ']' ∉ a.toList) :
    ComesTo (marked a) a [] := by
  have after := (stop opening closing).eq_iff.2 nofun
  refine of_eq ?_
  rw [Code.marked, stripped, String.append_assoc, String.toList_append,
    Text.removeAll_piece_append markStart_ne_nil]
  exact after

end ComesTo

end MessageExpr.Code
