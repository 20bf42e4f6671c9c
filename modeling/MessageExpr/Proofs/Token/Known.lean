import MessageExpr.Node.Basic
import MessageExpr.Token.Scan

/-!
# Tokens that were read

A token that was read from a text is a number, a single character, or one of the spellings. So
the nodes that are made from such tokens can always be made: every operator is known and every
number can be read.

## Main definitions

* `Token.IsRead` — the token stands somewhere in a text

## Main results

* `ofUnary_of_isRead`, `ofBinary_of_isRead`, `ofLogical_of_isRead`, `ofNumber_of_isRead` — the
  nodes of tokens that were read
* `Token.digit_of_read_minus` — a minus sign is read directly before a digit only
-/

namespace MessageExpr

/-- The token was read from a text, before its end. -/
def Token.IsRead (token : Token) : Prop :=
  ∃ escapes filter before index t, t ≠ [] ∧
    token = Token.read escapes filter before index t

namespace Token

variable {token : Token}

theorem isRead_readAt (escapes : Bool) (filter : List TokenKind) {t : List Char} {index : Nat}
    (h : index < t.length) : (readAt escapes filter t index).IsRead :=
  ⟨escapes, filter, _, index, _, by simpa using h, rfl⟩

/-- A token is a number, a character or a spelling. -/
theorem IsRead.number_or_character_or_spelling (h : token.IsRead) :
    (token.kind = .numericValue ∧
        ∃ t digits, number? t = some digits ∧ token.text = String.ofList digits) ∨
      token.kind = .character ∨
      ∃ s ∈ spellings, s.kind = token.kind ∧ token.text = String.ofList s.text := by
  obtain ⟨escapes, filter, before, index, t, nonempty, rfl⟩ := h
  cases t with
  | nil => exact absurd rfl nonempty
  | cons c rest =>
    simp only [read]
    split
    · rename_i digits hd
      split at hd
      · exact .inl ⟨rfl, _, digits, hd, rfl⟩
      · cases hd
    · split
      · exact .inr (.inl rfl)
      · split
        · rename_i s hs
          exact .inr (.inr ⟨s, mem_spellings_of_spelling? hs, rfl, rfl⟩)
        · exact .inr (.inl rfl)

/-- A token that was read has a text. -/
theorem IsRead.text_ne (h : token.IsRead) : token.text ≠ "" := by
  obtain ⟨escapes, filter, before, index, t, nonempty, rfl⟩ := h
  cases t with
  | nil => exact absurd rfl nonempty
  | cons c rest =>
    simp only [read]
    split
    · rename_i digits hd
      split at hd
      · have := length_pos_of_number? hd
        simpa using List.ne_nil_of_length_pos this
      · cases hd
    · split
      · simp
      · split
        · rename_i s hs
          have := length_pos_of_mem_spellings s (mem_spellings_of_spelling? hs)
          simpa using List.ne_nil_of_length_pos this.1
        · simp

/-- A token of a kind with spellings is one of them. -/
theorem IsRead.exists_spelling (h : token.IsRead) (number : token.kind ≠ .numericValue)
    (character : token.kind ≠ .character) :
    ∃ s ∈ spellings, s.kind = token.kind ∧ token.text = String.ofList s.text := by
  rcases h.number_or_character_or_spelling with ⟨kind, -⟩ | kind | spelled
  · exact absurd kind number
  · exact absurd kind character
  · exact spelled

end Token

/-! ## Operators -/

theorem ofSpelling?_of_mem_spellings : ∀ s ∈ spellings,
    (s.kind = .unaryOperator → (UnaryOperator.ofSpelling? (String.ofList s.text)).isSome) ∧
      (s.kind = .binaryOperator → (BinaryOperator.ofSpelling? (String.ofList s.text)).isSome) ∧
      (s.kind = .logicalOperator →
        (LogicalOperator.ofSpelling? (String.ofList s.text)).isSome) := by
  decide

variable {token : Token}

theorem ofUnary_of_isRead (h : token.IsRead) (kind : token.kind = .unaryOperator) :
    ∃ operator, Node.ofUnary token = .ok (.unary operator token none) := by
  obtain ⟨s, mem, same, text⟩ := h.exists_spelling (by simp [kind]) (by simp [kind])
  obtain ⟨operator, known⟩ := Option.isSome_iff_exists.mp
    ((ofSpelling?_of_mem_spellings s mem).1 (same.trans kind))
  exact ⟨operator, by rw [Node.ofUnary, text, known]⟩

theorem ofBinary_of_isRead (h : token.IsRead) (kind : token.kind = .binaryOperator) :
    ∃ operator, BinaryOperator.ofSpelling? token.text = some operator ∧
      Node.ofBinary token = .ok (.binary operator token none none) := by
  obtain ⟨s, mem, same, text⟩ := h.exists_spelling (by simp [kind]) (by simp [kind])
  obtain ⟨operator, known⟩ := Option.isSome_iff_exists.mp
    ((ofSpelling?_of_mem_spellings s mem).2.1 (same.trans kind))
  rw [← text] at known
  exact ⟨operator, known, by rw [Node.ofBinary, known]⟩

theorem ofLogical_of_isRead (h : token.IsRead) (kind : token.kind = .logicalOperator) :
    ∃ operator, Node.ofLogical token = .ok (.logical operator token none none) := by
  obtain ⟨s, mem, same, text⟩ := h.exists_spelling (by simp [kind]) (by simp [kind])
  obtain ⟨operator, known⟩ := Option.isSome_iff_exists.mp
    ((ofSpelling?_of_mem_spellings s mem).2.2 (same.trans kind))
  exact ⟨operator, by rw [Node.ofLogical, text, known]⟩

/-! ## Numbers -/

/-- A number is digits, or digits, a point and more digits. -/
theorem eq_digits_of_number? {t digits : List Char} (h : number? t = some digits) :
    ∃ whole after, whole ≠ [] ∧ (∀ c ∈ whole, c.isDigit) ∧ (∀ c ∈ after, c.isDigit) ∧
      (digits = whole ∨ digits = whole ++ '.' :: after) := by
  have isDigit (t : List Char) : ∀ c ∈ t.takeWhile Char.isDigit, c.isDigit :=
    fun c hc => List.all_eq_true.mp List.all_takeWhile c hc
  simp only [number?] at h
  split at h
  · cases h
  · rename_i nonempty
    have nonempty : t.takeWhile Char.isDigit ≠ [] := by simpa using nonempty
    refine ⟨_, (t.dropWhile Char.isDigit).tail.takeWhile Char.isDigit, nonempty, isDigit t,
      isDigit _, ?_⟩
    split at h
    · rename_i rest heq
      split at h <;> cases h
      · rw [heq]
        exact .inr rfl
      · exact .inl rfl
    · cases h
      exact .inl rfl

namespace Decimal

theorem takeWhile_isDigit_append {whole : List Char} (digits : ∀ c ∈ whole, c.isDigit)
    (rest : List Char) (stop : ∀ c ∈ rest.head?, c.isDigit = false) :
    (whole ++ rest).takeWhile Char.isDigit = whole ∧
      (whole ++ rest).dropWhile Char.isDigit = rest := by
  rw [List.takeWhile_append_of_pos digits, List.dropWhile_append_of_pos digits]
  cases rest with
  | nil => simp
  | cons c rest => simp [stop c rfl]

private theorem isSome_numeral? {whole after : List Char} (nonempty : whole ≠ [])
    (digits : ∀ c ∈ whole, c.isDigit) (more : ∀ c ∈ after, c.isDigit) :
    (numeral? whole).isSome ∧ (numeral? (whole ++ '.' :: after)).isSome := by
  have plain := takeWhile_isDigit_append digits [] (by simp)
  have point := takeWhile_isDigit_append digits ('.' :: after) (by simp)
  have ending := takeWhile_isDigit_append more [] (by simp)
  rw [List.append_nil] at plain ending
  constructor
  · simp [numeral?, plain, nonempty, exponent?]
  · simp [numeral?, point, ending, nonempty, exponent?]

/-- Digits start with no sign. -/
theorem splitSign_of_isDigit {t : List Char} (h : ∀ c ∈ t.head?, c.isDigit) :
    splitSign t = (false, t) := by
  unfold splitSign
  split
  · exact absurd (h _ rfl) (by decide)
  · exact absurd (h _ rfl) (by decide)
  · rfl

private theorem isSome_float? {t : List Char} (h : (numeral? (splitSign t).2).isSome) :
    (float? t).isSome := by
  simp only [float?, Option.isSome_map]
  split
  · rfl
  · split
    · rfl
    · rw [Option.isSome_map]
      exact h

end Decimal

private theorem isSome_read? {t : List Char}
    (h : (Decimal.numeral? (Decimal.splitSign t).2).isSome) :
    (Number.read? t).isSome := by
  have double := Decimal.isSome_float? h
  unfold Number.read?
  split
  · rwa [Option.isSome_map]
  · split
    · rfl
    · rwa [Option.isSome_map]

namespace Token

/-- What starts with a digit is read as a number. -/
theorem kind_read_of_isDigit (escapes : Bool) (before : Option Char) (index : Nat) {c : Char}
    (isDigit : c.isDigit = true) (rest : List Char) :
    (read escapes [] before index (c :: rest)).kind = .numericValue := by
  have number : ∃ digits, number? (c :: rest) = some digits := by
    simp only [number?, List.takeWhile_cons, isDigit, if_true, List.isEmpty_cons,
      Bool.false_eq_true, if_false]
    split
    · split <;> exact ⟨_, rfl⟩
    · exact ⟨_, rfl⟩
  obtain ⟨digits, found⟩ := number
  simp only [read, allows, List.isEmpty_nil, Bool.true_or, if_true, found]

/-- A minus sign is one character, directly before a digit. -/
theorem digit_of_read_minus {escapes : Bool} {filter : List TokenKind} {before : Option Char}
    {index : Nat} {t : List Char} (h : (read escapes filter before index t).kind = .minus) :
    (read escapes filter before index t).length = 1 ∧
      ∃ c rest, t.drop 1 = c :: rest ∧ c.isDigit = true := by
  cases t with
  | nil => cases h
  | cons c rest =>
    simp only [read] at h ⊢
    split
    · rename_i number
      simp only [number] at h
      cases h
    · rename_i number
      simp only [number] at h
      split
      · rename_i escape
        simp only [escape] at h
        cases h
      · rename_i escape
        simp only [escape] at h
        split
        · rename_i s found
          simp only [found] at h
          have only : ∀ s ∈ spellings, s.kind = .minus → s.text = ['-'] := by decide
          have text := only s (mem_spellings_of_spelling? found) h
          have fits := List.find?_some found
          simp only [Spelling.startsAt, Spelling.fits, h, text, if_true, Bool.and_eq_true] at fits
          refine ⟨by rw [text]; rfl, ?_⟩
          obtain ⟨d, head, isDigit⟩ := (Option.any_eq_true _ _).mp fits.2.2
          obtain ⟨more, same⟩ := List.head?_eq_some_iff.mp head
          exact ⟨d, more, same, isDigit⟩
        · rename_i found
          simp only [found] at h
          cases h

end Token

/-- Every number can be read, also after a minus sign. -/
theorem ofNumber_of_isRead (h : token.IsRead) (kind : token.kind = .numericValue)
    (negative : Bool) :
    ∃ value, Node.ofNumber token negative = .ok (.number token value negative) := by
  rcases h.number_or_character_or_spelling with
    ⟨-, t, digits, found, text⟩ | character | ⟨s, mem, same, -⟩
  · obtain ⟨whole, after, nonempty, isWhole, isAfter, either⟩ := eq_digits_of_number? found
    have readable : (Decimal.numeral? digits).isSome := by
      have both := Decimal.isSome_numeral? nonempty isWhole isAfter
      rcases either with rfl | rfl
      · exact both.1
      · exact both.2
    have unsigned : Decimal.splitSign digits = (false, digits) := by
      apply Decimal.splitSign_of_isDigit
      obtain ⟨c, rest, rfl⟩ := List.exists_cons_of_ne_nil nonempty
      rcases either with rfl | rfl <;> simpa using isWhole c (by simp)
    have some :
        (Number.read? (if negative then "-" ++ token.text else token.text).toList).isSome := by
      apply isSome_read?
      cases negative
      · simpa [text, unsigned] using readable
      · simpa [text, Decimal.splitSign] using readable
    obtain ⟨value, known⟩ := Option.isSome_iff_exists.mp some
    exact ⟨value, by simp only [Node.ofNumber, known]⟩
  -- Neither characters nor spellings are of the kind of numbers.
  · rw [kind] at character
    cases character
  · rw [kind] at same
    exact absurd same ((by decide : ∀ s ∈ spellings, s.kind ≠ .numericValue) s mem)

end MessageExpr
