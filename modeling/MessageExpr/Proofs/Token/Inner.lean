import MessageExpr.Proofs.Token.Seam

/-!
# Text inside a function

A text in which no function starts or ends and nothing is escaped may stand inside a function as it
is. It may hold anything else: what is read in it are operators, numbers, quotes and white space as
well as characters, but all of these are parts of the text, and the function ends right after it.

## Main definitions

* `IsInner` — a text that may stand inside a function as it is

## Main results

* `IsInner.exists_read` — what is read in the text is a part of it
* `IsInner.exists_tokenize` — the tokens of a function with the text inside
-/

namespace MessageExpr

/-- A text that may stand inside a function as it is: nothing in it is escaped, ends the function or
starts another one. -/
structure IsInner (t : List Char) : Prop where
  noEscape : '\\' ∉ t
  noEnd : '\x7d' ∉ t
  noStart : ¬['$', '\x7b'] <:+: t
  noLongStart : ¬['$', 's', 'i', 'm', 'p', 'l', 'e', '\x7b'] <:+: t

/-- Of the spellings only one holds the character that ends a function. -/
theorem noEnd_of_mem_spellings : ∀ s ∈ spellings, s.kind ≠ .functionEnd → '\x7d' ∉ s.text := by
  decide

private theorem text_of_mem_spellings : ∀ s ∈ spellings,
    (s.kind = .functionEnd → s.text = ['\x7d']) ∧
      (s.kind = .functionStart →
        s.text = ['$', '\x7b'] ∨ s.text = ['$', 's', 'i', 'm', 'p', 'l', 'e', '\x7b']) := by
  decide

/-- What neither ends a function nor starts one, in front of the end of a text or of a token. -/
def TokenKind.IsInner (kind : TokenKind) : Prop :=
  kind ≠ .functionEnd ∧ kind ≠ .functionStart ∧ kind ≠ .endOfLine

namespace IsInner

variable {t : List Char}

private theorem of_append {front : List Char} (h : IsInner (front ++ t)) : IsInner t := by
  have part : t <:+: front ++ t := (List.suffix_append front t).isInfix
  refine ⟨fun mem => h.noEscape ?_, fun mem => h.noEnd ?_,
    fun start => h.noStart (start.trans part), fun start => h.noLongStart (start.trans part)⟩
  · exact List.mem_append_right front mem
  · exact List.mem_append_right front mem

/-- What stands before the end of the function, and does not reach it, is a part of the text. -/
theorem exists_append {word rest : List Char} (h : word <+: t ++ '\x7d' :: rest)
    (noEnd : '\x7d' ∉ word) : ∃ back, t = word ++ back := by
  have closed : t ++ ['\x7d'] <+: t ++ '\x7d' :: rest :=
    (List.prefix_append_right_inj t).mpr (List.cons_prefix_cons.mpr ⟨rfl, List.nil_prefix⟩)
  rcases List.prefix_or_prefix_of_prefix h closed with within | beyond
  · rcases List.prefix_concat_iff.mp within with rfl | ⟨back, same⟩
    · exact absurd (by simp) noEnd
    · exact ⟨back, same.symm⟩
  · exact absurd (beyond.subset (by simp)) noEnd

/-- What is read in the text is a part of it that neither ends the function nor starts another. -/
theorem exists_read (h : IsInner t) (nonempty : t ≠ []) (escapes : Bool) (before : Option Char)
    (index : Nat) (rest : List Char) :
    ∃ word back kind, t = word ++ back ∧ word ≠ [] ∧ kind.IsInner ∧
      Token.read escapes [] before index (t ++ '\x7d' :: rest) =
        ⟨kind, String.ofList word, index, word.length⟩ := by
  obtain ⟨c, t, rfl⟩ := List.exists_cons_of_ne_nil nonempty
  have noBackslash : c ≠ '\\' := by
    rintro rfl
    exact h.noEscape List.mem_cons_self
  have noEscape := escape?_eq_none noBackslash (t ++ '\x7d' :: rest)
  rw [List.cons_append, Token.read]
  simp only [Token.allows_nil, if_true, noEscape, ite_self]
  split
  · rename_i digits found
    obtain ⟨within, plain⟩ := prefix_of_number? found
    have noEnd : '\x7d' ∉ digits := fun mem => absurd (plain _ mem) (by decide)
    obtain ⟨back, same⟩ := exists_append (t := c :: t) within noEnd
    have positive := Token.length_pos_of_number? found
    exact ⟨digits, back, .numericValue, same, List.ne_nil_of_length_pos positive,
      by simp [TokenKind.IsInner], rfl⟩
  · split
    · rename_i s found
      obtain ⟨mem, within, -⟩ := prefix_of_spelling? found
      obtain ⟨ofEnd, ofStart⟩ := text_of_mem_spellings s mem
      obtain ⟨positive, notLast⟩ := Token.length_pos_of_mem_spellings s mem
      -- The spelling starts with a character of the text, which does not end the function.
      have notEnd : s.kind ≠ .functionEnd := by
        intro isEnd
        have head := head?_of_spelling? found
        rw [ofEnd isEnd] at head
        exact h.noEnd (Option.some.inj head ▸ List.mem_cons_self)
      obtain ⟨back, same⟩ :=
        exists_append (t := c :: t) within (noEnd_of_mem_spellings s mem notEnd)
      have notStart : s.kind ≠ .functionStart := by
        intro isStart
        have part : s.text <:+: c :: t := same ▸ (List.prefix_append s.text back).isInfix
        rcases ofStart isStart with text | text
        · exact h.noStart (text ▸ part)
        · exact h.noLongStart (text ▸ part)
      exact ⟨s.text, back, s.kind, same, List.ne_nil_of_length_pos positive,
        ⟨notEnd, notStart, notLast⟩, rfl⟩
    · exact ⟨[c], t, .character, rfl, by simp, by simp [TokenKind.IsInner], rfl⟩

/-- The tokens of the text inside a function are the text, and the function ends after them. -/
theorem exists_tokensFrom (h : IsInner t) (escapes : Bool) (front rest : List Char) :
    ∃ tokens, tokensFrom escapes (front ++ (t ++ '\x7d' :: rest)) front.length =
        tokens ++ tokensFrom escapes (front ++ (t ++ '\x7d' :: rest)) (front ++ t).length ∧
      (∀ token ∈ tokens, token.kind.IsInner) ∧
      String.join (tokens.map Token.text) = String.ofList t := by
  induction length : t.length using Nat.strongRecOn generalizing t front with
  | ind n ih =>
    subst length
    by_cases empty : t = []
    · subst empty
      exact ⟨[], by simp, by simp, rfl⟩
    -- One token takes a part of the text that is not empty, and the rest is left to the induction.
    obtain ⟨word, back, kind, rfl, nonempty, isInner, read⟩ := h.exists_read empty escapes
      (if front.length = 0 then none else
        (front ++ (t ++ '\x7d' :: rest))[front.length - 1]?) front.length rest
    have shorter : back.length < (word ++ back).length := by
      have := List.length_pos_iff.mpr nonempty
      simpa using this
    obtain ⟨tokens, same, inner, joined⟩ := ih _ shorter h.of_append (front ++ word) rfl
    have read : Token.readAt escapes [] (front ++ (word ++ back ++ '\x7d' :: rest)) front.length =
        ⟨kind, String.ofList word, front.length, word.length⟩ := by
      rw [Token.readAt, List.drop_left]
      exact read
    have inside : front.length < (front ++ (word ++ back ++ '\x7d' :: rest)).length := by
      rw [List.length_append, List.length_append, List.length_cons]
      omega
    refine ⟨⟨kind, String.ofList word, front.length, word.length⟩ :: tokens, ?_,
      List.forall_mem_cons.mpr ⟨isInner, inner⟩, ?_⟩
    · rw [tokensFrom_of_lt inside, read, List.cons_append]
      simpa [List.append_assoc, Nat.add_assoc] using same
    · rw [List.map_cons, String.join_cons, joined, ← String.ofList_append]

/-- The tokens of a function with the text inside: between its start and its end there is nothing
but the text. -/
theorem exists_tokenize (h : IsInner t) (escapes : Bool) :
    ∃ start tokens close place,
      tokenize escapes (String.ofList ('$' :: '\x7b' :: (t ++ ['\x7d']))) =
        start :: tokens ++ [close, Token.endOfLine place] ∧
      start.kind = .functionStart ∧ close.kind = .functionEnd ∧
      (∀ token ∈ tokens, token.kind.IsInner) ∧
      String.join (tokens.map Token.text) = String.ofList t := by
  have start (rest : List Char) : Token.readAt escapes [] ('$' :: '\x7b' :: rest) 0 =
      ⟨.functionStart, "$\x7b", 0, 2⟩ := by
    rw [Token.readAt, List.drop_zero, Token.read_of_ne_backslash (by decide)]
    exact Token.read_mark none 0 rest (s := ⟨.functionStart, ['$', '\x7b']⟩) (by decide) rfl
  obtain ⟨tokens, same, inner, joined⟩ := h.exists_tokensFrom escapes ['$', '\x7b'] []
  have close : Token.readAt escapes [] ('$' :: '\x7b' :: (t ++ ['\x7d'])) (t.length + 2) =
      ⟨.functionEnd, "\x7d", t.length + 2, 1⟩ := by
    have rest : ('$' :: '\x7b' :: (t ++ ['\x7d'])).drop (t.length + 2) = ['\x7d'] := by simp
    rw [Token.readAt, rest, Token.read_of_ne_backslash (by decide)]
    exact Token.read_mark _ _ [] (s := ⟨.functionEnd, ['\x7d']⟩) (by decide) rfl
  refine ⟨⟨.functionStart, "$\x7b", 0, 2⟩, tokens, ⟨.functionEnd, "\x7d", t.length + 2, 1⟩,
    t.length + 3, ?_, rfl, rfl, inner, joined⟩
  have length : ('$' :: '\x7b' :: (t ++ ['\x7d'])).length = t.length + 3 := by simp
  have last : tokensFrom escapes ('$' :: '\x7b' :: (t ++ ['\x7d'])) (t.length + 2) =
      [⟨.functionEnd, "\x7d", t.length + 2, 1⟩, Token.endOfLine (t.length + 3)] := by
    rw [tokensFrom_of_lt (by omega), close]
    exact congrArg _ (tokensFrom_of_le (Nat.le_of_eq length))
  rw [tokenize, String.toList_ofList, tokensFrom_of_lt (by omega), start, ← last]
  exact congrArg _ same

end IsInner

end MessageExpr
