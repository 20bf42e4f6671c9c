import Mathlib.Data.List.DropRight
import MessageExpr.Function

/-!
# Cutting off both ends of a text

Cutting the characters of a class off both ends leaves a text that neither starts nor ends with
one, and leaves such a text as it is. So a name may be cut again without any change.

## Main results

* `Text.strip_eq_self` — a text with other characters at its ends stays as it is
* `Text.strip_padded` — characters of the class around a text are cut off with its own
* `Text.strip_strip` — cutting again changes nothing
* `Function.ofName?_trimmed` — white space around a name makes no other function of it
-/

namespace MessageExpr

namespace Text

variable {p : Char → Bool} {t : List Char}

private theorem strip_eq_rdropWhile (p : Char → Bool) (t : List Char) :
    strip p t = (t.dropWhile p).rdropWhile p := rfl

/-- A text that neither starts nor ends with a character of the class stays as it is. -/
theorem strip_eq_self (first : ∀ c ∈ t.head?, p c = false)
    (last : ∀ c ∈ t.getLast?, p c = false) : strip p t = t := by
  have front : t.dropWhile p = t := by
    rw [List.dropWhile_eq_self_iff]
    intro positive
    simp [first t[0] (by simp [List.head?_eq_getElem?, List.getElem?_eq_getElem positive])]
  rw [strip_eq_rdropWhile, front, List.rdropWhile_eq_self_iff]
  intro nonempty
  simp [last (t.getLast nonempty) (by simp [List.getLast?_eq_some_getLast nonempty])]

private theorem head?_strip : ∀ c ∈ (strip p t).head?, p c = false := by
  intro c mem
  have front : strip p t <+: t.dropWhile p := List.rdropWhile_prefix p _
  obtain ⟨rest, same⟩ := front
  have mem : c ∈ (t.dropWhile p).head? := by
    rw [← same]
    simp [List.head?_append, Option.mem_def.mp mem]
  have stopped := List.head?_dropWhile_not p t
  rw [Option.mem_def.mp mem] at stopped
  simpa using stopped

private theorem getLast?_strip : ∀ c ∈ (strip p t).getLast?, p c = false := by
  intro c mem
  rw [strip, List.getLast?_reverse] at mem
  have stopped := List.head?_dropWhile_not p (t.dropWhile p).reverse
  rw [Option.mem_def.mp mem] at stopped
  simpa using stopped

private theorem strip_append_left {before : List Char} (blank : ∀ c ∈ before, p c) :
    strip p (before ++ t) = strip p t := by
  rw [strip, List.dropWhile_append_of_pos blank, strip]

private theorem strip_append_right {after : List Char} (blank : ∀ c ∈ after, p c) :
    strip p (t ++ after) = strip p t := by
  rw [strip, List.dropWhile_append, strip]
  split_ifs with nothing
  · rw [List.dropWhile_eq_nil_iff.mpr blank, List.isEmpty_iff.mp nothing]
  · rw [List.reverse_append, List.dropWhile_append_of_pos (by simpa using blank)]

/-- Characters of the class around a text are cut off with its own. -/
theorem strip_padded {before after : List Char} (first : ∀ c ∈ before, p c)
    (last : ∀ c ∈ after, p c) : strip p (before ++ (t ++ after)) = strip p t := by
  rw [strip_append_left first, strip_append_right last]

/-- Cutting again changes nothing. -/
theorem strip_strip (p : Char → Bool) (t : List Char) : strip p (strip p t) = strip p t :=
  strip_eq_self head?_strip getLast?_strip

end Text

private theorem toList_trimmed (s : String) : (trimmed s).toList = Text.trim s.toList :=
  String.toList_ofList

/-- White space around a name makes no other function of it. -/
theorem Function.ofName?_trimmed (name : String) : ofName? (trimmed name) = ofName? name := by
  rw [ofName?, toList_trimmed, Text.trim, Text.trim, Text.strip_strip]
  rfl

end MessageExpr
