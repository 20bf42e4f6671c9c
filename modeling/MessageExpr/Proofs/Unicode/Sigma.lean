import Mathlib.Logic.Basic
import MessageExpr.Unicode.Case

/-!
# Lowercase parts of a text

The lowercase form of a text is the one of its characters one after the other, but for the capital
sigma: whether it becomes the final small sigma depends on the letters before it and after it. So a
part of a text may have another lowercase form than the text has in this place, and then the text
need not have the lowercase form of its part as a part at all.

## Main definitions

* `lowercaseBetween` — the lowercase form of a part between what stands before it and after it
* `IsUnsettled`, `IsSteady` — a capital sigma whose form depends on the text around a part, and
  parts without one

## Main results

* `isSteady_iff` — the steady texts are those whose lowercase form is a part of the lowercase form
  of every text that they are a part of
-/

namespace MessageExpr.Unicode

variable {text before before' after after' first last : List Char} {c : Char}

/-! ## The letters around a character -/

/-- Whether a capital sigma becomes a final one. -/
def isFinal (before after : List Char) : Bool := meetsCased before && !meetsCased after

private theorem lowerChar_sigma (before after : List Char) :
    lowerChar before 'Σ' after = [if isFinal before after then 'ς' else 'σ'] := by
  rw [lowerChar, if_neg (by decide), if_pos (by decide), isFinal]
  split <;> rfl

private theorem lowerChar_of_ne (h : c ≠ 'Σ') :
    lowerChar before c after = lowerChar before' c after' := by
  have other : (c == 'Σ') = false := beq_eq_false_iff_ne.mpr h
  simp only [lowerChar, other, Bool.false_eq_true, if_false]

/-- What case contexts ignore does not stop the search for a cased letter. -/
theorem meetsCased_append_of_ignorable (ignorable : ∀ c ∈ first, isCaseIgnorable c = true)
    (last : List Char) : meetsCased (first ++ last) = meetsCased last := by
  induction first with
  | nil => rfl
  | cons c first ih =>
    rw [List.cons_append, meetsCased, if_pos (ignorable c List.mem_cons_self),
      ih fun d mem => ignorable d (List.mem_cons_of_mem c mem)]

/-- The search for a cased letter ends at a character that is not ignored. -/
theorem meetsCased_append_of_mem (mem : c ∈ first) (counts : isCaseIgnorable c = false)
    (last : List Char) : meetsCased (first ++ last) = meetsCased first := by
  induction first with
  | nil => cases mem
  | cons d first ih =>
    rw [List.cons_append, meetsCased, meetsCased]
    by_cases ignored : isCaseIgnorable d = true
    · rw [if_pos ignored, if_pos ignored]
      rcases List.mem_cons.mp mem with rfl | mem
      · rw [ignored] at counts
        cases counts
      · exact ih mem
    · rw [if_neg ignored, if_neg ignored]

private theorem meetsCased_of_ignorable (ignorable : ∀ c ∈ text, isCaseIgnorable c = true) :
    meetsCased text = false := by
  have whole := meetsCased_append_of_ignorable ignorable []
  rwa [List.append_nil] at whole

private theorem meetsCased_append_of_not (h : ¬∀ c ∈ first, isCaseIgnorable c = true)
    (last : List Char) :
    meetsCased (first ++ last) = meetsCased first := by
  simp only [not_forall, Bool.not_eq_true] at h
  obtain ⟨c, mem, counts⟩ := h
  exact meetsCased_append_of_mem mem counts last

/-- A capital sigma is a letter, so that none is among what case contexts ignore. -/
theorem not_ignorable_of_sigma (first last : List Char) :
    ¬∀ c ∈ first ++ 'Σ' :: last, isCaseIgnorable c = true := by
  intro ignorable
  have counts : isCaseIgnorable 'Σ' = false := by decide +kernel
  rw [ignorable 'Σ' (by simp)] at counts
  cases counts

/-! ## Parts of a text -/

/-- The lowercase form of a part of a text between what stands before it, nearest first, and what
stands after it. -/
def lowercaseBetween (before : List Char) : List Char → List Char → List Char
  | [], _ => []
  | c :: rest, after =>
    lowerChar before c (rest ++ after) ++ lowercaseBetween (c :: before) rest after

private theorem lowercaseAfter_append (before first last : List Char) :
    lowercaseAfter before (first ++ last) =
      lowercaseBetween before first last ++ lowercaseAfter (first.reverse ++ before) last := by
  induction first generalizing before with
  | nil => rfl
  | cons c first ih =>
    rw [List.cons_append, lowercaseAfter, ih, lowercaseBetween, List.append_assoc,
      List.reverse_cons, List.append_assoc, List.singleton_append]

theorem lowercaseBetween_append (before first last after : List Char) :
    lowercaseBetween before (first ++ last) after =
      lowercaseBetween before first (last ++ after) ++
        lowercaseBetween (first.reverse ++ before) last after := by
  induction first generalizing before with
  | nil => rfl
  | cons c first ih =>
    rw [List.cons_append, lowercaseBetween, ih, lowercaseBetween, List.append_assoc,
      List.append_assoc, List.reverse_cons, List.append_assoc, List.singleton_append]

theorem lowercase_eq_lowercaseBetween (text : List Char) :
    lowercase text = lowercaseBetween [] text [] := by
  have whole := lowercaseAfter_append [] text []
  rwa [List.append_nil, lowercaseAfter, List.append_nil] at whole

/-- A part has one lowercase form in two places when its capital sigmas have. -/
theorem lowercaseBetween_congr
    (alike : ∀ first last, text = first ++ 'Σ' :: last →
      isFinal (first.reverse ++ before) (last ++ after) =
        isFinal (first.reverse ++ before') (last ++ after')) :
    lowercaseBetween before text after = lowercaseBetween before' text after' := by
  -- What stands before the rest has the first character added to it, on both sides alike.
  induction text generalizing before before' with
  | nil => rfl
  | cons c rest ih =>
    have head : lowerChar before c (rest ++ after) = lowerChar before' c (rest ++ after') := by
      by_cases sigma : c = 'Σ'
      · subst sigma
        have here := alike [] rest rfl
        rw [lowerChar_sigma, lowerChar_sigma]
        exact congrArg (fun final : Bool => [if final then 'ς' else 'σ']) here
      · exact lowerChar_of_ne sigma
    rw [lowercaseBetween, lowercaseBetween, head]
    refine congrArg _ (ih fun first last same => ?_)
    have here := alike (c :: first) last (congrArg (c :: ·) same)
    rwa [List.reverse_cons, List.append_assoc, List.append_assoc] at here

/-! ## Steady texts -/

/-- Whether the form of a capital sigma depends on what stands around the text that it is in: no
letter of the text comes before it and no cased one right after it, or a cased letter before it and
none after it. -/
def IsUnsettled (before after : List Char) : Prop :=
  ((∀ c ∈ before, isCaseIgnorable c = true) ∧ meetsCased after = false) ∨
    ((∀ c ∈ after, isCaseIgnorable c = true) ∧ meetsCased before.reverse = true)

/-- A text whose lowercase form does not depend on what stands around it. -/
def IsSteady (text : List Char) : Prop :=
  ∀ first last, text = first ++ 'Σ' :: last → ¬IsUnsettled first last

private theorem isFinal_of_settled (settled : ¬IsUnsettled first last) (before after : List Char) :
    isFinal (first.reverse ++ before) (last ++ after) = isFinal first.reverse last := by
  obtain ⟨left, right⟩ := not_or.mp settled
  rw [isFinal, isFinal]
  by_cases bareStart : ∀ c ∈ first, isCaseIgnorable c = true
  · -- A cased letter follows, so the sigma is not final wherever the text stands.
    have cased : meetsCased last = true := by
      rw [← Bool.not_eq_false]
      exact fun none => left ⟨bareStart, none⟩
    have counts : ¬∀ c ∈ last, isCaseIgnorable c = true := by
      intro ignorable
      rw [meetsCased_of_ignorable ignorable] at cased
      cases cased
    rw [meetsCased_append_of_not counts, cased, Bool.not_true, Bool.and_false, Bool.and_false]
  · have counts : ¬∀ c ∈ first.reverse, isCaseIgnorable c = true := by
      simpa only [List.mem_reverse] using bareStart
    rw [meetsCased_append_of_not counts]
    by_cases bareEnd : ∀ c ∈ last, isCaseIgnorable c = true
    · have none : meetsCased first.reverse = false := by
        rw [← Bool.not_eq_true]
        exact fun cased => right ⟨bareEnd, cased⟩
      rw [none, Bool.false_and, Bool.false_and]
    · rw [meetsCased_append_of_not bareEnd]

/-- A steady text is lowercased alike wherever it stands. -/
theorem lowercaseBetween_of_isSteady (steady : IsSteady text) (before after : List Char) :
    lowercaseBetween before text after = lowercase text := by
  rw [lowercase_eq_lowercaseBetween]
  refine lowercaseBetween_congr fun first last same => ?_
  rw [isFinal_of_settled (steady first last same), List.append_nil, List.append_nil]

theorem infix_lowercase_of_isSteady {whole : List Char} (steady : IsSteady text)
    (part : text <:+: whole) : lowercase text <:+: lowercase whole := by
  obtain ⟨before, after, rfl⟩ := part
  rw [lowercase_eq_lowercaseBetween (before ++ text ++ after), lowercaseBetween_append,
    lowercaseBetween_append, lowercaseBetween_of_isSteady steady]
  exact ⟨_, _, rfl⟩

/-! ## Texts that are not steady -/

/-- The lowercase form of a part around one of its capital sigmas. -/
theorem lowercaseBetween_sigma (before first last after : List Char) :
    lowercaseBetween before (first ++ 'Σ' :: last) after =
      lowercaseBetween before first ('Σ' :: (last ++ after)) ++
        (if isFinal (first.reverse ++ before) (last ++ after) then 'ς' else 'σ') ::
          lowercaseBetween ('Σ' :: (first.reverse ++ before)) last after := by
  rw [lowercaseBetween_append, lowercaseBetween, lowerChar_sigma, List.cons_append]
  rfl

/-- The search for a cased letter ends at a capital sigma. -/
theorem meetsCased_append_sigma (first last : List Char) :
    meetsCased (first ++ 'Σ' :: last) = meetsCased (first ++ ['Σ']) := by
  rw [List.append_cons, meetsCased_append_of_not (not_ignorable_of_sigma first [])]

/-- What follows a capital sigma is lowercased alike whatever stands before the sigma. -/
theorem lowercaseBetween_after_sigma (before before' last after : List Char) :
    lowercaseBetween ('Σ' :: before) last after = lowercaseBetween ('Σ' :: before') last after := by
  refine lowercaseBetween_congr fun first last _ => ?_
  rw [isFinal, isFinal, meetsCased_append_sigma first.reverse before,
    meetsCased_append_sigma first.reverse before']

/-- What comes before a capital sigma is lowercased alike whatever stands after the sigma. -/
theorem lowercaseBetween_before_sigma (before first after after' : List Char) :
    lowercaseBetween before first ('Σ' :: after) =
      lowercaseBetween before first ('Σ' :: after') := by
  refine lowercaseBetween_congr fun first last _ => ?_
  rw [isFinal, isFinal, meetsCased_append_sigma last after, meetsCased_append_sigma last after']

/-- Without capital sigmas a part is lowercased alike everywhere. -/
theorem lowercaseBetween_of_ignorable (ignorable : ∀ c ∈ text, isCaseIgnorable c = true)
    (before before' after after' : List Char) :
    lowercaseBetween before text after = lowercaseBetween before' text after' :=
  lowercaseBetween_congr fun first last same =>
    absurd (same ▸ ignorable) (not_ignorable_of_sigma first last)

/-- A text is no part of one that has a character less often. -/
theorem not_infix_of_count_lt {part whole : List Char} (less : whole.count c < part.count c) :
    ¬part <:+: whole :=
  fun inside => Nat.not_lt.mpr (inside.sublist.count_le c) less

private theorem meetsCased_letter : meetsCased ['a'] = true := by decide +kernel

/-- A sigma that comes first and is not final by itself is final after a letter, and all else stays
as it is. -/
theorem not_infix_lowercase_after_letter (ignorable : ∀ c ∈ first, isCaseIgnorable c = true)
    (none : meetsCased last = false) : ¬lowercase (first ++ 'Σ' :: last) <:+:
      lowercase (['a'] ++ (first ++ 'Σ' :: last)) := by
  refine not_infix_of_count_lt (c := 'σ') ?_
  have ignorable' : ∀ c ∈ first.reverse, isCaseIgnorable c = true := by
    simpa only [List.mem_reverse] using ignorable
  have alone : isFinal (first.reverse ++ []) (last ++ []) = false := by
    rw [isFinal, meetsCased_append_of_ignorable ignorable']
    rfl
  have beside : isFinal (first.reverse ++ ['a']) (last ++ []) = true := by
    rw [isFinal, meetsCased_append_of_ignorable ignorable', meetsCased_letter, List.append_nil,
      none]
    rfl
  have whole : lowercase (['a'] ++ (first ++ 'Σ' :: last)) =
      'a' :: lowercaseBetween ['a'] (first ++ 'Σ' :: last) [] := by
    rw [lowercase_eq_lowercaseBetween]
    rfl
  have left : lowercaseBetween ['a'] first ('Σ' :: (last ++ [])) =
      lowercaseBetween [] first ('Σ' :: (last ++ [])) :=
    lowercaseBetween_of_ignorable ignorable _ _ _ _
  rw [whole, lowercase_eq_lowercaseBetween, lowercaseBetween_sigma, lowercaseBetween_sigma, alone,
    beside, left, lowercaseBetween_after_sigma (first.reverse ++ ['a']) (first.reverse ++ [])]
  simp

/-- A sigma that comes last and is final by itself is not final before a letter, and all else stays
as it is. -/
theorem not_infix_lowercase_before_letter (ignorable : ∀ c ∈ last, isCaseIgnorable c = true)
    (cased : meetsCased first.reverse = true) : ¬lowercase (first ++ 'Σ' :: last) <:+:
      lowercase ((first ++ 'Σ' :: last) ++ ['a']) := by
  refine not_infix_of_count_lt (c := 'ς') ?_
  have alone : isFinal (first.reverse ++ []) (last ++ []) = true := by
    rw [isFinal, List.append_nil, cased, meetsCased_append_of_ignorable ignorable]
    rfl
  have beside : isFinal (first.reverse ++ []) (last ++ ['a']) = false := by
    rw [isFinal, meetsCased_append_of_ignorable ignorable, meetsCased_letter, Bool.not_true,
      Bool.and_false]
  have whole : lowercase ((first ++ 'Σ' :: last) ++ ['a']) =
      lowercaseBetween [] (first ++ 'Σ' :: last) ['a'] ++ ['a'] := by
    rw [lowercase_eq_lowercaseBetween, lowercaseBetween_append]
    rfl
  have right : lowercaseBetween ('Σ' :: (first.reverse ++ [])) last ['a'] =
      lowercaseBetween ('Σ' :: (first.reverse ++ [])) last [] :=
    lowercaseBetween_of_ignorable ignorable _ _ _ _
  rw [whole, lowercase_eq_lowercaseBetween, lowercaseBetween_sigma, lowercaseBetween_sigma, alone,
    beside, right, lowercaseBetween_before_sigma [] first (last ++ ['a']) (last ++ [])]
  simp

/-- The steady texts are those whose lowercase form is a part of the lowercase form of every text
that they are a part of. -/
theorem isSteady_iff : IsSteady text ↔
    ∀ whole, text <:+: whole → lowercase text <:+: lowercase whole := by
  constructor
  · exact fun steady whole part => infix_lowercase_of_isSteady steady part
  · rintro kept first last rfl (⟨ignorable, none⟩ | ⟨ignorable, cased⟩)
    · exact not_infix_lowercase_after_letter ignorable none
        (kept _ (List.suffix_append _ _).isInfix)
    · exact not_infix_lowercase_before_letter ignorable cased
        (kept _ (List.prefix_append _ _).isInfix)

end MessageExpr.Unicode
