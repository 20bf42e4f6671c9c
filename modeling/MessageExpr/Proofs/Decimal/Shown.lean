import MessageExpr.Number

/-!
# Characters of written numbers

A written number holds digits, letters, points and minus signs only, so that it can stand in code
without being taken for anything else.

## Main results

* `Digits.areDigits_shortest` — the digits of a double are digits
* `Number.isNumeral_of_mem_shown` — the characters of a written number
-/

namespace MessageExpr

namespace Decimal

/-- The characters that numbers are written with. -/
def IsNumeral (c : Char) : Prop := c.isAlphanum = true ∨ c = '.' ∨ c = '-'

instance : DecidablePred IsNumeral := fun c =>
  inferInstanceAs (Decidable (c.isAlphanum = true ∨ c = '.' ∨ c = '-'))

/-- Whether a text is written with them. -/
def AreNumerals (text : String) : Prop := ∀ c ∈ text.toList, IsNumeral c

instance (text : String) : Decidable (AreNumerals text) := List.decidableBAll _ text.toList

theorem isNumeral_of_isDigit {c : Char} (h : c.isDigit = true) : IsNumeral c :=
  .inl (by rw [Char.isAlphanum, h, Bool.or_true])

theorem isDigit_of_mem_naturalText {n : Nat} {c : Char} (h : c ∈ naturalText n) :
    c.isDigit = true :=
  Nat.isDigit_of_mem_toDigits (by decide) (by decide) h

private theorem isNumeral_of_mem_integerText {n : Int} {c : Char} (h : c ∈ integerText n) :
    IsNumeral c := by
  cases n with
  | ofNat n => exact isNumeral_of_isDigit (isDigit_of_mem_naturalText h)
  | negSucc n =>
    rcases List.mem_cons.1 h with rfl | h
    · exact .inr (.inr rfl)
    · exact isNumeral_of_isDigit (isDigit_of_mem_naturalText h)

/-! ## Doubles -/

/-- Whether digits are digits. -/
def Digits.AreDigits (d : Digits) : Prop := ∀ c ∈ d.digits, c.isDigit = true

theorem Digits.areDigits_of (n : Nat) (unit : Int) : (Digits.of n unit).AreDigits := by
  intro c h
  rw [Digits.of] at h
  dsimp only at h
  split at h
  · rw [List.mem_singleton.1 h]
    decide
  · exact isDigit_of_mem_naturalText
      (List.mem_reverse.1 ((List.dropWhile_sublist _).subset (List.mem_reverse.1 h)))

theorem Digits.areDigits_shortest (tie : Tie) (significand : Nat) (exponent : Int) :
    (shortest tie significand exponent).AreDigits := by
  rw [shortest]
  split
  · intro c h
    rw [List.mem_singleton.1 h]
    decide
  · dsimp only
    -- Whichever precision is enough, what is found are the digits of a whole number.
    generalize found : List.findSome? _ _ = result
    cases result with
    | none => exact Digits.areDigits_of significand exponent
    | some d =>
      obtain ⟨more, _, h⟩ := List.exists_of_findSome?_eq_some found
      obtain ⟨n, _, rfl⟩ := Option.map_eq_some_iff.1 h
      exact Digits.areDigits_of n _

theorem Digits.isNumeral_of_mem_plain {d : Digits} (digits : d.AreDigits) {c : Char}
    (h : c ∈ d.plain) : IsNumeral c := by
  have zero : IsNumeral '0' := .inl (by decide)
  have point : IsNumeral '.' := .inr (.inl rfl)
  have taken : ∀ n, c ∈ d.digits.take n → IsNumeral c := fun n h =>
    isNumeral_of_isDigit (digits c (List.mem_of_mem_take h))
  have dropped : ∀ n, c ∈ d.digits.drop n → IsNumeral c := fun n h =>
    isNumeral_of_isDigit (digits c (List.mem_of_mem_drop h))
  rw [Digits.plain] at h
  split at h
  · simp only [List.cons_append, List.mem_cons, List.mem_append, List.mem_replicate] at h
    rcases h with rfl | rfl | ⟨_, rfl⟩ | h
    · exact zero
    · exact point
    · exact zero
    · exact isNumeral_of_isDigit (digits c h)
  · dsimp only at h
    simp only [List.mem_append, List.mem_cons, List.mem_replicate] at h
    rcases h with (h | ⟨_, rfl⟩) | rfl | h
    · exact taken _ h
    · exact zero
    · exact point
    · split at h
      · rw [List.mem_singleton.1 h]
        exact zero
      · exact dropped _ h

theorem Digits.isNumeral_of_mem_scientific {d : Digits} (digits : d.AreDigits) {c : Char}
    (h : c ∈ d.scientific false) : IsNumeral c := by
  rw [Digits.scientific] at h
  simp only [List.mem_append, List.mem_cons, Bool.false_and] at h
  rcases h with ((h | h) | rfl | h) | h
  · exact isNumeral_of_isDigit (digits c (List.mem_of_mem_take h))
  · split at h
    · cases h
    · rcases List.mem_cons.1 h with rfl | h
      · exact .inr (.inl rfl)
      · exact isNumeral_of_isDigit (digits c (List.mem_of_mem_drop h))
  · exact .inl (by decide)
  · simp at h
  · exact isNumeral_of_mem_integerText h

theorem Style.isNumeral_of_mem_write {style : Style} (plus : style.plus = false)
    (nan : AreNumerals style.nan) (infinity : AreNumerals style.infinity)
    (negativeInfinity : AreNumerals style.negativeInfinity)
    {x : Float} {c : Char} (h : c ∈ (style.write x).toList) : IsNumeral c := by
  rw [Style.write] at h
  split at h
  · exact nan c h
  · split at h
    · exact negativeInfinity c h
    · exact infinity c h
  · next negative significand exponent _ =>
    have digits := Digits.areDigits_shortest style.tie significand exponent
    have text : ∀ c ∈ (if style.plainFrom ≤ (shortest style.tie significand exponent).exponent ∧
        (shortest style.tie significand exponent).exponent < style.plainBelow
        then (shortest style.tie significand exponent).plain
        else (shortest style.tie significand exponent).scientific style.plus), IsNumeral c := by
      intro c h
      split at h
      · exact Digits.isNumeral_of_mem_plain digits h
      · rw [plus] at h
        exact Digits.isNumeral_of_mem_scientific digits h
    rw [String.toList_ofList] at h
    split at h
    · rcases List.mem_cons.1 h with rfl | h
      · exact .inr (.inr rfl)
      · exact text c h
    · exact text c h

end Decimal

/-- A written number holds digits, letters, points and minus signs only. -/
theorem Number.isNumeral_of_mem_shown {n : Number} {c : Char} (h : c ∈ n.shown.toList) :
    Decimal.IsNumeral c := by
  cases n with
  | integer n =>
    rw [Number.shown, integerShown, String.toList_ofList] at h
    exact Decimal.isNumeral_of_mem_integerText h
  | float x =>
    exact Decimal.Style.isNumeral_of_mem_write rfl (by decide) (by decide)
      (by decide) h

end MessageExpr
