import MessageExpr.Proofs.Token.Beside

/-!
# The tokens of two texts with a space between them

When two texts are put together with a space between them, the tokens stay what they are but for one
place: a first text that ends in the first word of an operator and a second one that goes on with
its second word have the operator at the seam. Otherwise the space is a token of its own.

## Main definitions

* `Token.IsPlain` — a token that is text wherever functions have a meaning
* `Seam` — the tokens of two texts and those of both together

## Main results

* `tokensFrom_word` — the tokens of a word are the word
* `exists_seam` — two texts with a space between them have a seam
-/

namespace MessageExpr

/-- The token is neither the mark of a block nor an operator that may stand after one. -/
def Token.IsPlain (token : Token) : Prop :=
  token.kind.isText = true ∧ token.kind ≠ .unaryOperator

section tokensFrom

variable {escapes : Bool} {t : List Char} {index : Nat}

theorem tokensFrom_of_lt (inside : index < t.length) :
    tokensFrom escapes t index = Token.readAt escapes [] t index ::
      tokensFrom escapes t (index + (Token.readAt escapes [] t index).length) := by
  rw [tokensFrom, dif_pos inside]

theorem tokensFrom_of_le (outside : t.length ≤ index) :
    tokensFrom escapes t index = [Token.endOfLine index] := by
  rw [tokensFrom, dif_neg (Nat.not_lt.mpr outside)]

/-- The tokens of a text after another one stand at later places. -/
theorem tokensFrom_after (escapes : Bool) {front : List Char} (edge : Token.Edge front.getLast?)
    (t : List Char) (index : Nat) : tokensFrom escapes (front ++ t) (index + front.length) =
      (tokensFrom escapes t index).map (Token.shifted front.length) := by
  fun_induction tokensFrom escapes t index with
  | case1 index inside _ token ih =>
    have read := Token.readAt_beside_of_isAlone escapes [] edge
      (.inl rfl : Token.Edge ([] : List Char).head?) inside (.inr rfl)
    rw [List.append_nil] at read
    rw [tokensFrom_of_lt (by simpa using by omega), read, List.map_cons, Token.length_shifted,
      Nat.add_right_comm, ih]
  | case2 index outside =>
    rw [tokensFrom_of_le (by simpa using by omega)]
    rfl

end tokensFrom

section dropLast

variable {escapes : Bool} {t : List Char} {index : Nat}

private theorem tokensFrom_ne_nil (escapes : Bool) (t : List Char) (index : Nat) :
    tokensFrom escapes t index ≠ [] := by
  obtain ⟨found, place, same, -⟩ := exists_tokensFrom_eq escapes t index
  simp [same]

theorem dropLast_tokensFrom_of_lt (inside : index < t.length) :
    (tokensFrom escapes t index).dropLast = Token.readAt escapes [] t index ::
      (tokensFrom escapes t (index + (Token.readAt escapes [] t index).length)).dropLast := by
  rw [tokensFrom_of_lt inside, List.dropLast_cons_of_ne_nil (tokensFrom_ne_nil _ _ _)]

private theorem dropLast_tokensFrom_of_eq {tokens : List Token} {later : Nat}
    (h : tokensFrom escapes t index = tokens ++ tokensFrom escapes t later) :
    (tokensFrom escapes t index).dropLast = tokens ++ (tokensFrom escapes t later).dropLast := by
  rw [h, List.dropLast_append_of_ne_nil (tokensFrom_ne_nil _ _ _)]

end dropLast

/-! ## Words -/

/-- The second words of the spellings of two words. -/
def secondWords : List (List Char) :=
  ["is".toList, "contains".toList, "regex".toList, "in".toList, "range".toList, "with".toList]

/-- A letter, which belongs to a word. -/
def IsLetter (c : Char) : Prop := c.isAlpha = true ∧ isWordPart c = true

theorem isLetter_of_mem {word : List Char} (mem : word ∈ firstWords ++ secondWords) :
    ∃ c more, word = c :: more ∧ IsLetter c ∧ ∀ d ∈ more, IsLetter d := by
  have letters : ∀ word ∈ firstWords ++ secondWords, word ≠ [] ∧
      word.all (fun c => c.isAlpha && isWordPart c) = true := by
    decide +kernel
  obtain ⟨nonempty, all⟩ := letters word mem
  obtain ⟨c, more, rfl⟩ := List.exists_cons_of_ne_nil nonempty
  exact ⟨c, more, rfl, by simpa [IsLetter] using all⟩

/-- What is spelled with a letter in front is an operator or a value. -/
theorem kind_of_mem_spellings : ∀ s ∈ spellings, (s.text.head?.any Char.isAlpha) = true →
    s.kind.isText = true ∧ s.kind ≠ .unaryOperator ∧ s.kind ≠ .whitespace ∧ s.kind ≠ .minus := by
  decide

theorem IsLetter.notDigit {c : Char} (h : IsLetter c) : c.isDigit = false := by
  rw [Bool.eq_false_iff]
  intro isDigit
  have isDigit : ('0'.val ≤ c.val && c.val ≤ '9'.val) = true := isDigit
  have high : c.val ≤ '9'.val := of_decide_eq_true (Bool.and_eq_true_iff.mp isDigit).2
  -- All letters come after the digits, the capital ones first.
  have low : 'A'.val ≤ c.val := by
    have alpha : (c.isUpper || c.isLower) = true := h.1
    rcases Bool.or_eq_true_iff.mp alpha with isUpper | isLower
    · have bounds : 'A'.val ≤ c.val ∧ c.val ≤ 'Z'.val := of_decide_eq_true isUpper
      exact bounds.1
    · have isLower : ('a'.val ≤ c.val && c.val ≤ 'z'.val) = true := isLower
      have small : 'a'.val ≤ c.val := of_decide_eq_true (Bool.and_eq_true_iff.mp isLower).1
      exact UInt32.le_trans (by decide) small
  exact absurd (UInt32.le_trans low high) (by decide)

theorem IsLetter.number?_eq {c : Char} (h : IsLetter c) (rest : List Char) :
    number? (c :: rest) = none :=
  number?_eq_none h.notDigit rest

theorem IsLetter.escape?_eq {c : Char} (h : IsLetter c) (rest : List Char) :
    escape? (c :: rest) = none := by
  refine escape?_eq_none ?_ rest
  rintro rfl
  exact absurd h.1 (by decide)

/-- What is spelled at a letter is read as it is spelled, and otherwise the letter is read. -/
theorem IsLetter.read_eq {c : Char} (h : IsLetter c) (escapes : Bool) (before : Option Char)
    (index : Nat) (rest : List Char) :
    Token.read escapes [] before index (c :: rest) =
      match spelling? [] before (c :: rest) with
      | some s => ⟨s.kind, String.ofList s.text, index, s.text.length⟩
      | none => ⟨.character, String.ofList [c], index, 1⟩ := by
  have noEscape : (if escapes then escape? (c :: rest) else none) = none := by
    rw [h.escape?_eq, ite_self]
  cases spelled : spelling? [] before (c :: rest) <;>
    simp only [Token.read, h.number?_eq, ite_self, noEscape, spelled]

theorem prefix_of_spelling? {before : Option Char} {t : List Char} {s : Spelling}
    (h : spelling? [] before t = some s) :
    s ∈ spellings ∧ s.text <+: t ∧ s.fits before (t.drop s.text.length).head? = true := by
  have found := List.find?_some h
  simp only [Spelling.startsAt, Bool.and_eq_true] at found
  exact ⟨Token.mem_spellings_of_spelling? h, List.isPrefixOf_iff_prefix.mp found.2.1, found.2.2⟩

theorem head?_of_spelling? {c : Char} {before : Option Char}
    {rest : List Char} {s : Spelling} (found : spelling? [] before (c :: rest) = some s) :
    s.text.head? = some c := by
  obtain ⟨mem, starts, -⟩ := prefix_of_spelling? found
  have positive := (Token.length_pos_of_mem_spellings s mem).1
  cases text : s.text with
  | nil =>
    rw [text] at positive
    cases positive
  | cons d more =>
    rw [text] at starts
    rw [(List.cons_prefix_cons.mp starts).1]
    rfl

/-- Inside a word nothing is spelled. -/
theorem IsLetter.spelling?_eq {c : Char} (h : IsLetter c) {before : Option Char}
    (inside : before.any isWordPart = true) (rest : List Char) :
    spelling? [] before (c :: rest) = none := by
  cases found : spelling? [] before (c :: rest) with
  | none => rfl
  | some s =>
    obtain ⟨mem, starts, fits⟩ := prefix_of_spelling? found
    have head := head?_of_spelling? found
    have isAlpha : s.text.head?.any Char.isAlpha = true := by simp [head, h.1]
    obtain ⟨-, -, -, notMinus⟩ := kind_of_mem_spellings s mem isAlpha
    simp [Spelling.fits, notMinus, isAlpha, inside] at fits

/-- The tokens of letters inside a word are the letters. -/
theorem tokensFrom_letters (escapes : Bool) {t word rest : List Char} {index : Nat}
    (letters : ∀ c ∈ word, IsLetter c) (here : t.drop (index + 1) = word ++ rest)
    (inside : t[index]?.any isWordPart = true) :
    ∃ tokens, tokensFrom escapes t (index + 1) =
        tokens ++ tokensFrom escapes t (index + 1 + word.length) ∧
      (∀ token ∈ tokens, token.IsPlain) ∧ Token.texts tokens = String.ofList word := by
  -- A letter is a token of its own behind another letter, and the next one stands behind it.
  induction word generalizing index with
  | nil => exact ⟨[], rfl, by simp, rfl⟩
  | cons c word ih =>
    obtain ⟨letter, letters⟩ := List.forall_mem_cons.mp letters
    have less : index + 1 < t.length := by
      refine Nat.lt_of_not_le fun outside => ?_
      rw [List.drop_of_length_le outside] at here
      cases here
    have next : t[index + 1]? = some c := by
      rw [← List.head?_drop, here]
      rfl
    have here' : t.drop (index + 1 + 1) = word ++ rest := by
      rw [← List.drop_drop, here]
      rfl
    obtain ⟨tokens, same, plain, texts⟩ := ih letters here' (by simp [next, letter.2])
    have read : Token.readAt escapes [] t (index + 1) =
        ⟨.character, String.ofList [c], index + 1, 1⟩ := by
      rw [Token.readAt, here, List.cons_append, letter.read_eq, letter.spelling?_eq]
      simpa using inside
    refine ⟨⟨.character, String.ofList [c], index + 1, 1⟩ :: tokens, ?_, ?_, ?_⟩
    · rw [tokensFrom_of_lt less, read, same, List.cons_append, List.length_cons]
      congr 3
      omega
    · exact List.forall_mem_cons.mpr ⟨⟨rfl, by simp⟩, plain⟩
    · rw [Token.texts, texts, ← String.ofList_append]
      rfl

/-- The tokens of a word are the word, where nothing is spelled that is longer or shorter. -/
theorem tokensFrom_word (escapes : Bool) {t word rest : List Char} {index : Nat}
    (mem : word ∈ firstWords ++ secondWords) (here : t.drop index = word ++ rest)
    (whole : ∀ s ∈ spellings, s.text <+: word ++ rest → s.text = word) :
    ∃ tokens, tokensFrom escapes t index =
        tokens ++ tokensFrom escapes t (index + word.length) ∧
      (∀ token ∈ tokens, token.IsPlain) ∧ Token.texts tokens = String.ofList word ∧
      ∃ first ∈ tokens.head?, first.kind ≠ .whitespace := by
  obtain ⟨c, more, rfl, letter, letters⟩ := isLetter_of_mem mem
  have less : index < t.length := by
    refine Nat.lt_of_not_le fun outside => ?_
    rw [List.drop_of_length_le outside] at here
    cases here
  rw [List.cons_append] at here whole
  rw [tokensFrom_of_lt less, Token.readAt, here, letter.read_eq]
  cases found : spelling? [] (if index = 0 then none else t[index - 1]?) (c :: (more ++ rest)) with
  | some s =>
    -- The whole word is spelled.
    obtain ⟨mem, starts, -⟩ := prefix_of_spelling? found
    have text := whole s mem starts
    obtain ⟨isText, notUnary, notSpace, -⟩ := kind_of_mem_spellings s mem (by simp [text, letter.1])
    refine ⟨[⟨s.kind, String.ofList s.text, index, s.text.length⟩], by rw [← text]; rfl, ?_, ?_,
      _, rfl, notSpace⟩
    · simpa using ⟨isText, notUnary⟩
    · simp [Token.texts, text]
  | none =>
    have next : t.drop (index + 1) = more ++ rest := by
      rw [← List.drop_drop, here]
      rfl
    have first : t[index]? = some c := by
      rw [← List.head?_drop, here]
      rfl
    obtain ⟨tokens, same, plain, texts⟩ :=
      tokensFrom_letters escapes letters next (by simp [first, letter.2])
    refine ⟨⟨.character, String.ofList [c], index, 1⟩ :: tokens, ?_, ?_, ?_, _, rfl, by simp⟩
    · rw [same, List.length_cons, Nat.add_assoc index, Nat.add_comm 1]
      rfl
    · exact List.forall_mem_cons.mpr ⟨⟨rfl, by simp⟩, plain⟩
    · rw [Token.texts, texts, ← String.ofList_append]
      rfl

/-! ## The seam -/

/-- Nothing is spelled at the start of a first word of a text alone. -/
theorem not_prefix_of_mem_firstWords : ∀ s ∈ spellings, ∀ word ∈ firstWords,
    ¬s.text <+: word := by
  decide

/-- What is spelled with two words goes on with a second word after the space. -/
theorem mem_secondWords_of_mem_spellings : ∀ s ∈ spellings, ∀ word ∈ firstWords,
    word ++ [' '] <+: s.text →
      s.text = word ++ ' ' :: s.text.drop (word.length + 1) ∧
        s.text.drop (word.length + 1) ∈ secondWords ∧ s.kind = .binaryOperator := by
  decide

/-- At a second word nothing else is spelled than the word. -/
theorem eq_of_mem_secondWords : ∀ s ∈ spellings, ∀ word ∈ secondWords,
    s.text <+: word ∨ word <+: s.text → s.text = word := by
  decide

/-- The tokens of two texts, and those of the texts with a space between them: one token at the
seam stands for the end of the first text, the space and the start of the second one, and the others
stay, at their places. -/
structure Seam (offset : Nat) (front back both : List Token) : Prop where
  exists_joint : ∃ kept last joint first rest,
    front = kept ++ last ∧ back = first ++ rest ∧
      both = kept ++ joint :: rest.map (Token.shifted offset) ∧
      joint.IsPlain ∧ (∀ token ∈ last, token.IsPlain) ∧ (∀ token ∈ first, token.IsPlain) ∧
      Token.texts last ++ " " ++ Token.texts first = joint.text ∧
      (joint.kind = .whitespace ∨ ∃ token ∈ last.head?, token.kind ≠ .whitespace)

theorem Seam.cons {offset : Nat} {front back both : List Token} (h : Seam offset front back both)
    (token : Token) : Seam offset (token :: front) back (token :: both) := by
  obtain ⟨kept, last, joint, first, rest, rfl, same, rfl, more⟩ := h
  exact ⟨token :: kept, last, joint, first, rest, rfl, same, rfl, more⟩

section seam

variable {escapes : Bool} {t : List Char} {index : Nat} (t' : List Char)

/-- After the seam stands what follows the first word or the space in the second text. -/
theorem tokensFrom_after_seam (later : Nat) :
    (tokensFrom escapes (t ++ ' ' :: t') (t.length + 1 + later)).dropLast =
      (tokensFrom escapes t' later).dropLast.map (Token.shifted (t.length + 1)) := by
  have edge : Token.Edge (t ++ [' ']).getLast? := Token.edge_append (by decide) _
  have after := tokensFrom_after escapes edge t' later
  rw [List.append_assoc, List.length_append, Nat.add_comm later] at after
  exact (congrArg List.dropLast after).trans List.map_dropLast.symm

/-- Where the first text ends the space is a token of its own. -/
theorem seam_space :
    Seam (t.length + 1) [] (tokensFrom escapes t' 0).dropLast
      (tokensFrom escapes (t ++ ' ' :: t') t.length).dropLast := by
  have inside : t.length < (t ++ ' ' :: t').length := by simp
  have read : Token.readAt escapes [] (t ++ ' ' :: t') t.length = Token.space ' ' t.length := by
    rw [Token.readAt, List.drop_left, Token.read_space _ _ _ (by decide)]
  refine ⟨[], [], Token.space ' ' t.length, [], _, rfl, rfl, ?_, ⟨rfl, by simp⟩, by simp, by simp,
    rfl, .inl rfl⟩
  rw [dropLast_tokensFrom_of_lt inside, read]
  exact congrArg _ (tokensFrom_after_seam t' 0)

/-- Before the last word of the first text nothing has changed. -/
theorem readAt_before_seam (inside : index < t.length) (alone : IsAlone (t.drop index)) :
    Token.readAt escapes [] (t ++ ' ' :: t') index = Token.readAt escapes [] t index :=
  @Token.readAt_beside_of_isAlone escapes [] [] t (' ' :: t') (.inl rfl)
    (Token.edge_cons (by decide) _) index inside (.inl alone)

/-- What stands before and after an index in the first of the two texts. -/
theorem readAt_of_drop (index_le : index ≤ t.length) :
    Token.readAt escapes [] (t ++ ' ' :: t') index =
      Token.read escapes [] (if index = 0 then none else t[index - 1]?) index
        (t.drop index ++ ' ' :: t') := by
  rw [Token.readAt, List.drop_append_of_le_length index_le]
  by_cases start : index = 0
  · rw [if_pos start, if_pos start]
  · rw [if_neg start, if_neg start, List.getElem?_append_left (by omega)]

/-- At a first word at the end of a text nothing is spelled in the text alone. -/
theorem spelling?_of_mem_firstWords (before : Option Char) {word : List Char}
    (mem : word ∈ firstWords) : spelling? [] before word = none := by
  cases found : spelling? [] before word with
  | none => rfl
  | some s =>
    obtain ⟨memS, starts, -⟩ := prefix_of_spelling? found
    exact absurd starts (not_prefix_of_mem_firstWords s memS word mem)

/-- What is spelled at a first word and a space goes on with a second word. -/
theorem exists_second_of_spelling? {before : Option Char} {word : List Char} {s : Spelling}
    (mem : word ∈ firstWords) (found : spelling? [] before (word ++ ' ' :: t') = some s) :
    ∃ second back, second ∈ secondWords ∧ t' = second ++ back ∧
      s.text = word ++ ' ' :: second ∧ s.kind = .binaryOperator := by
  obtain ⟨memS, starts, -⟩ := prefix_of_spelling? found
  have space : word ++ [' '] <+: word ++ ' ' :: t' := ⟨t', by simp⟩
  have longer : word ++ [' '] <+: s.text := by
    rcases List.prefix_or_prefix_of_prefix starts space with short | long
    · rcases List.prefix_concat_iff.mp short with same | short
      · exact same ▸ List.prefix_rfl
      · exact absurd short (not_prefix_of_mem_firstWords s memS word mem)
    · exact long
  obtain ⟨text, mem', kind⟩ := mem_secondWords_of_mem_spellings s memS word mem longer
  rw [text] at starts
  obtain ⟨back, same⟩ := (List.prefix_append_right_inj word).mp starts
  exact ⟨_, back, mem', (List.cons.inj same).2.symm, text, kind⟩

/-- What is spelled at a first word at the end of the first text reaches into the second text. -/
theorem seam_word {s : Spelling} (inside : index < t.length) (mem : t.drop index ∈ firstWords)
    (found : spelling? [] (if index = 0 then none else t[index - 1]?) (t.drop index ++ ' ' :: t') =
      some s) :
    Seam (t.length + 1) (tokensFrom escapes t index).dropLast (tokensFrom escapes t' 0).dropLast
      (tokensFrom escapes (t ++ ' ' :: t') index).dropLast := by
  obtain ⟨second, back, mem', rfl, text, kind⟩ := exists_second_of_spelling? t' mem found
  have here : t.drop index = t.drop index ++ [] := (List.append_nil _).symm
  obtain ⟨last, sameLast, plainLast, textsLast, head, memHead, notSpace⟩ :=
    tokensFrom_word escapes (List.mem_append_left _ mem) here fun s memS starts =>
      absurd (here ▸ starts) (not_prefix_of_mem_firstWords s memS _ mem)
  obtain ⟨first, sameFirst, plainFirst, textsFirst, -⟩ :=
    tokensFrom_word escapes (List.mem_append_right _ mem') (List.drop_zero (l := second ++ back))
      fun s memS starts => eq_of_mem_secondWords s memS _ mem'
        (List.prefix_or_prefix_of_prefix starts (List.prefix_append _ back))
  have ended : (tokensFrom escapes t (index + (t.drop index).length)).dropLast = [] := by
    rw [tokensFrom_of_le (by simp; omega)]
    rfl
  have read : Token.readAt escapes [] (t ++ ' ' :: (second ++ back)) index =
      ⟨.binaryOperator, String.ofList s.text, index, s.text.length⟩ := by
    rw [readAt_of_drop _ (Nat.le_of_lt inside)]
    obtain ⟨c, more, word, letter, -⟩ := isLetter_of_mem (List.mem_append_left secondWords mem)
    rw [word, List.cons_append] at found ⊢
    rw [letter.read_eq, found, ← kind]
  -- The operator is over where the second word is.
  have length : index + s.text.length = t.length + 1 + second.length := by
    rw [text]
    simp
    omega
  have longer : index < (t ++ ' ' :: (second ++ back)).length := by
    simp
    omega
  rw [dropLast_tokensFrom_of_eq sameLast, dropLast_tokensFrom_of_eq sameFirst, ended,
    List.append_nil, dropLast_tokensFrom_of_lt longer, read, length, tokensFrom_after_seam,
    Nat.zero_add]
  refine ⟨[], last, _, first, _, rfl, rfl, rfl, ⟨rfl, by simp⟩, plainLast, plainFirst, ?_,
    .inr ⟨head, memHead, notSpace⟩⟩
  rw [textsLast, textsFirst, text, ← String.toList_inj]
  simp

end seam

/-- Two texts with a space between them have a seam. -/
theorem exists_seam (escapes : Bool) {t : List Char} {index : Nat} (t' : List Char)
    (index_le : index ≤ t.length) :
    Seam (t.length + 1) (tokensFrom escapes t index).dropLast (tokensFrom escapes t' 0).dropLast
      (tokensFrom escapes (t ++ ' ' :: t') index).dropLast := by
  induction todo : t.length - index using Nat.strongRecOn generalizing index with
  | ind n ih =>
    subst todo
    rcases Nat.lt_or_ge index t.length with inside | outside
    · obtain ⟨-, stands⟩ := Token.stands_readAt escapes [] inside
      have length := stands.length_le
      rw [List.length_drop] at length
      have positive := (Token.length_pos_of_readAt escapes [] inside).1
      have longer : index < (t ++ ' ' :: t').length := by
        simp
        omega
      -- Unless an operator goes on after the seam, the same is read here in both texts.
      have onward (same : Token.readAt escapes [] (t ++ ' ' :: t') index =
          Token.readAt escapes [] t index) :
          Seam (t.length + 1) (tokensFrom escapes t index).dropLast
            (tokensFrom escapes t' 0).dropLast
            (tokensFrom escapes (t ++ ' ' :: t') index).dropLast := by
        rw [dropLast_tokensFrom_of_lt inside, dropLast_tokensFrom_of_lt longer, same]
        exact (ih _ (by omega) (by omega) rfl).cons _
      by_cases mem : t.drop index ∈ firstWords
      · cases found : spelling? [] (if index = 0 then none else t[index - 1]?)
            (t.drop index ++ ' ' :: t') with
        | some s => exact seam_word t' inside mem found
        | none =>
          -- In both texts the first letter of the word is a character.
          obtain ⟨c, more, word, letter, -⟩ :=
            isLetter_of_mem (List.mem_append_left secondWords mem)
          have alone := spelling?_of_mem_firstWords (if index = 0 then none else t[index - 1]?) mem
          refine onward ?_
          rw [readAt_of_drop _ index_le, Token.readAt]
          rw [word] at found alone ⊢
          rw [List.cons_append] at found ⊢
          rw [letter.read_eq, letter.read_eq, found, alone]
      · exact onward (readAt_before_seam t' inside
          (isAlone_of_not_mem_firstWords (by simpa using inside) mem))
    · obtain rfl : index = t.length := Nat.le_antisymm index_le outside
      have ended : (tokensFrom escapes t t.length).dropLast = [] := by
        rw [tokensFrom_of_le (Nat.le_refl _)]
        rfl
      rw [ended]
      exact seam_space t'

end MessageExpr
