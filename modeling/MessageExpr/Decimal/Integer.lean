/-!
# Decimal text of integers

An integer is written with its decimal digits and no leading zero, after a minus sign when it
is negative. It is read from a nonempty run of decimal digits, which may start with zeros,
after an optional sign.

## Main definitions

* `naturalText`, `integerText` — the written form
* `natural?`, `integer?`, `word?` — the number that a text denotes, the last one only when it
  fits in 64 bits

## Main results

* `natural?_naturalText`, `integer?_integerText` — the written form is read back
-/

namespace MessageExpr.Decimal

/-- The decimal digits of a number. -/
def naturalText (n : Nat) : List Char := Nat.toDigits 10 n

/-- The decimal text of an integer. -/
def integerText : Int → List Char
  | .ofNat n => naturalText n
  | .negSucc n => '-' :: naturalText (n + 1)

/-- The number that a run of decimal digits denotes. -/
def natural? (t : List Char) : Option Nat :=
  if t.isEmpty || !t.all Char.isDigit then none else some (Nat.ofDigitChars 10 t 0)

/-- Takes the sign off a text: whether it is a minus sign, and the rest. -/
def splitSign : List Char → Bool × List Char
  | '-' :: rest => (true, rest)
  | '+' :: rest => (false, rest)
  | rest => (false, rest)

/-- The integer that a text denotes. -/
def integer? (t : List Char) : Option Int :=
  (natural? (splitSign t).2).map fun n => if (splitSign t).1 then -(n : Int) else n

/-- The word that stands for an integer, when it fits. -/
def toWord? (n : Int) : Option Int64 :=
  if Int64.minValue.toInt ≤ n ∧ n ≤ Int64.maxValue.toInt then some (Int64.ofInt n) else none

/-- The word nearest to an integer. -/
def clampWord (n : Int) : Int64 := Int64.ofIntClamp n

/-- The 64-bit integer that a text denotes. -/
def word? (t : List Char) : Option Int64 := (integer? t).bind toWord?

theorem natural?_naturalText (n : Nat) : natural? (naturalText n) = some n := by
  have nonempty : (naturalText n).isEmpty = false := by
    rw [naturalText, Nat.toDigits_eq_if (by decide)]
    split <;> simp
  have digits : (naturalText n).all Char.isDigit = true :=
    List.all_eq_true.2 fun c h => Nat.isDigit_of_mem_toDigits (by decide) (by decide) h
  rw [natural?, nonempty, digits]
  exact congrArg some (Nat.ofDigitChars_toDigits (by decide) (by decide))

/-- Digits start with no sign. -/
theorem splitSign_naturalText (n : Nat) :
    splitSign (naturalText n) = (false, naturalText n) := by
  have digits : ∀ c ∈ naturalText n, c.isDigit = true :=
    fun c h => Nat.isDigit_of_mem_toDigits (by decide) (by decide) h
  cases h : naturalText n with
  | nil => rfl
  | cons c rest =>
    have digit : c.isDigit = true := digits c (by simp [h])
    unfold splitSign
    split
    · simp_all
    · simp_all
    · rfl

theorem integer?_integerText (n : Int) : integer? (integerText n) = some n := by
  cases n with
  | ofNat n => simp [integer?, integerText, splitSign_naturalText, natural?_naturalText]
  | negSucc n =>
    simp [integer?, integerText, splitSign, natural?_naturalText, Int.negSucc_eq]

end MessageExpr.Decimal
