import MessageExpr.Token.Scan

/-!
# Reading escaped text

A backslash in front takes the meaning off a character that could open or close a block. What is
read at the start of a text that was escaped in this way is always a part of the text, whichever
kinds of tokens are looked for.

## Main definitions

* `isSpecial`, `escaped` — the characters that are escaped, and escaped text
* `TokenKind.isText` — whether tokens of a kind neither open nor close a block

## Main results

* `exists_read_escaped` — escaped text is read as text
-/

namespace MessageExpr

/-- The characters that may open or close a block, and the backslash. -/
def isSpecial (c : Char) : Bool := ['$', '\x7b', '\x7d', '\'', '"', '\\'].contains c

/-- The text with a backslash before each special character. -/
def escaped : List Char → List Char
  | [] => []
  | c :: rest => if isSpecial c then '\\' :: c :: escaped rest else c :: escaped rest

theorem escaped_append (s t : List Char) : escaped (s ++ t) = escaped s ++ escaped t := by
  induction s with
  | nil => rfl
  | cons c rest ih =>
    rw [List.cons_append, escaped, escaped]
    split <;> simp [ih]

private theorem escaped_of_plain {s : List Char} (plain : ∀ c ∈ s, isSpecial c = false) :
    escaped s = s := by
  induction s with
  | nil => rfl
  | cons c rest ih =>
    rw [escaped, plain c (by simp), ih fun d mem => plain d (List.mem_cons_of_mem _ mem)]
    rfl

private theorem escapeLetter?_of_isSpecial {c : Char} (h : isSpecial c = true) :
    escapeLetter? c = some c := by
  simp only [isSpecial, List.contains_iff_mem, List.mem_cons, List.not_mem_nil, or_false] at h
  rcases h with rfl | rfl | rfl | rfl | rfl | rfl <;> rfl

/-- Plain characters in front of an escaped text are characters of the text. -/
theorem eq_append_of_prefix {w s rest : List Char}
    (stop : ∀ c ∈ rest.head?, isSpecial c = true) (plain : ∀ c ∈ w, isSpecial c = false)
    (h : w <+: escaped s ++ rest) : ∃ back, s = w ++ back := by
  induction w generalizing s with
  | nil => exact ⟨s, rfl⟩
  | cons c w ih =>
    have plainHead := plain c (by simp)
    have plain := fun d mem => plain d (List.mem_cons_of_mem _ mem)
    cases s with
    | nil =>
      -- A special character is not plain, so that the run has ended before it.
      obtain ⟨more, rfl⟩ := h
      rw [stop c rfl] at plainHead
      cases plainHead
    | cons d s =>
      rw [escaped] at h
      split at h
      · obtain ⟨rfl, -⟩ := List.cons_prefix_cons.mp h
        cases plainHead
      · obtain ⟨rfl, h'⟩ := List.cons_prefix_cons.mp h
        obtain ⟨back, rfl⟩ := ih plain h'
        exact ⟨back, rfl⟩

/-! ## What starts no number and no escape sequence -/

theorem number?_eq_none {c : Char} (notDigit : c.isDigit = false) (rest : List Char) :
    number? (c :: rest) = none := by
  simp [number?, notDigit]

theorem escape?_eq_none {c : Char} (h : c ≠ '\\') (rest : List Char) :
    escape? (c :: rest) = none := by
  unfold escape?
  split
  · rename_i same
    exact absurd (List.cons.inj same).1 h
  · rfl

/-- Where no escape sequence starts it does not matter whether a backslash escapes. -/
theorem Token.read_of_ne_backslash {c : Char} (h : c ≠ '\\') (escapes : Bool)
    (filter : List TokenKind) (before : Option Char) (index : Nat) (rest : List Char) :
    read escapes filter before index (c :: rest) = read true filter before index (c :: rest) := by
  simp only [read, escape?_eq_none h, ite_self]

/-! ## Tokens in escaped text -/

/-- Whether tokens of this kind neither open nor close a block. -/
def TokenKind.isText : TokenKind → Bool
  | functionStart | functionEnd | singleQuote | doubleQuote | endOfLine => false
  | _ => true

private theorem isSpecial_of_isDigit {c : Char} (h : c.isDigit = true) : isSpecial c = false := by
  cases special : isSpecial c with
  | false => rfl
  | true =>
    simp only [isSpecial, List.contains_iff_mem, List.mem_cons, List.not_mem_nil,
      or_false] at special
    rcases special with rfl | rfl | rfl | rfl | rfl | rfl <;> cases h

/-- A number stands in front of the text that it is read from. -/
theorem prefix_of_number? {t digits : List Char} (h : number? t = some digits) :
    digits <+: t ∧ ∀ c ∈ digits, isSpecial c = false := by
  have plain (t : List Char) : ∀ c ∈ t.takeWhile Char.isDigit, isSpecial c = false :=
    fun c mem => isSpecial_of_isDigit (List.all_eq_true.mp List.all_takeWhile c mem)
  have whole : t.takeWhile Char.isDigit <+: t := List.takeWhile_prefix _
  simp only [number?] at h
  split at h
  · cases h
  · split at h
    · rename_i c rest found
      split at h <;> cases h
      · refine ⟨?_, ?_⟩
        -- The digits after a point are taken from what the digits before it leave.
        · have both : t.takeWhile Char.isDigit ++ '.' :: c :: rest = t := by
            rw [← found, List.takeWhile_append_dropWhile]
          have : t.takeWhile Char.isDigit ++ '.' :: (c :: rest).takeWhile Char.isDigit <+:
              t.takeWhile Char.isDigit ++ '.' :: c :: rest :=
            (List.prefix_append_right_inj _).mpr
              (List.cons_prefix_cons.mpr ⟨rfl, List.takeWhile_prefix _⟩)
          rwa [both] at this
        · intro d mem
          rcases List.mem_append.mp mem with mem | mem
          · exact plain t d mem
          · rcases List.mem_cons.mp mem with rfl | mem
            · rfl
            · exact plain _ d mem
      · exact ⟨whole, plain t⟩
    · cases h
      exact ⟨whole, plain t⟩

/-- A spelling without a special character in front has none at all, and is text. -/
theorem plain_of_mem_spellings : ∀ s ∈ spellings, (s.text.head?.all fun c => !isSpecial c) = true →
    (s.text.all fun c => !isSpecial c) = true ∧ s.kind.isText = true := by
  decide

/-- What is read at the start of an escaped text is a part of the text, when nothing follows the
text or a special character. -/
theorem exists_read_escaped (filter : List TokenKind) (before : Option Char) (index : Nat)
    {s : List Char} (nonempty : s ≠ []) (rest : List Char)
    (stop : ∀ c ∈ rest.head?, isSpecial c = true) :
    ∃ front back kind, s = front ++ back ∧ front ≠ [] ∧
      Token.read true filter before index (escaped s ++ rest) =
        ⟨kind, String.ofList front, index, (escaped front).length⟩ ∧
      kind.isText = true := by
  obtain ⟨c, s, rfl⟩ := List.exists_cons_of_ne_nil nonempty
  by_cases isEscaped : isSpecial c = true
  · refine ⟨[c], s, .character, rfl, by simp, ?_, rfl⟩
    have number : (if allows filter .numericValue then
        number? ('\\' :: c :: escaped s ++ rest) else none) = none := by
      split <;> rfl
    simp only [escaped, isEscaped, if_true, List.cons_append] at number ⊢
    rw [Token.read, number]
    simp [escape?, escapeLetter?_of_isSpecial isEscaped]
  · have plain : isSpecial c = false := by simpa using isEscaped
    have start : escaped (c :: s) ++ rest = c :: (escaped s ++ rest) := by
      simp [escaped, plain]
    -- A run of plain characters at the start is a part of the text itself.
    have part {w : List Char} (prefix' : w <+: c :: (escaped s ++ rest))
        (plain : ∀ d ∈ w, isSpecial d = false) :
        ∃ back, c :: s = w ++ back ∧ (escaped w).length = w.length := by
      rw [← start] at prefix'
      obtain ⟨back, same⟩ := eq_append_of_prefix stop plain prefix'
      exact ⟨back, same, by rw [escaped_of_plain plain]⟩
    have noEscape : escape? (c :: (escaped s ++ rest)) = none := by
      refine escape?_eq_none ?_ _
      rintro rfl
      cases plain
    rw [start]
    simp only [Token.read, noEscape, if_true]
    split
    · rename_i digits found
      split at found
      · obtain ⟨prefix', plain⟩ := prefix_of_number? found
        obtain ⟨back, same, length⟩ := part prefix' plain
        have digits' := Token.length_pos_of_number? found
        refine ⟨digits, back, .numericValue, same, ?_, by rw [length], rfl⟩
        rintro rfl
        cases digits'
      · cases found
    · split
      · rename_i spelled found
        have mem := Token.mem_spellings_of_spelling? found
        have pos := (Token.length_pos_of_mem_spellings spelled mem).1
        have prefix' : spelled.text <+: c :: (escaped s ++ rest) := by
          have startsAt := List.find?_some found
          simp only [Spelling.startsAt, Bool.and_eq_true] at startsAt
          exact List.isPrefixOf_iff_prefix.mp startsAt.2.1
        have head : (spelled.text.head?.all fun d => !isSpecial d) = true := by
          cases text : spelled.text with
          | nil => rfl
          | cons d more =>
            rw [text] at prefix'
            obtain ⟨rfl, -⟩ := List.cons_prefix_cons.mp prefix'
            simpa using plain
        obtain ⟨all, kind⟩ := plain_of_mem_spellings spelled mem head
        obtain ⟨back, same, length⟩ := part prefix' (by simpa using all)
        refine ⟨spelled.text, back, spelled.kind, same, ?_, by rw [length], kind⟩
        intro empty
        simp [empty] at pos
      · refine ⟨[c], s, .character, rfl, by simp, ?_, rfl⟩
        simp [escaped, plain]

end MessageExpr
