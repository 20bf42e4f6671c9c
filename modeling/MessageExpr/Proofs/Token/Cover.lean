import MessageExpr.Proofs.Token.Escaped
import MessageExpr.Proofs.Token.Known

/-!
# Tokens that cover a text

The tokens that are read from a text one after the other are pieces of it that leave nothing out.
So their texts, put together, are what the text means: the text itself or, where a backslash
escapes the character after it, the text with its escape sequences read from left to right.

## Main definitions

* `unescaped`, `meaning` — what a text means
* `Token.Stands` — a token at the start of a text
* `Covers` — tokens that stand one after the other, up to the end of a text
* `Token.texts` — the texts of tokens, put together

## Main results

* `Token.stands_readAt` — what is read at a place stands there
* `Covers.texts_eq` — the texts of tokens that cover a text are what it means
* `exists_tokensFrom_eq` — the tokens of a text cover it
-/

namespace MessageExpr

/-! ## Meanings -/

/-- The text with its escape sequences read from left to right. -/
def unescaped : List Char → List Char
  | [] => []
  | '\\' :: letter :: rest =>
    match escapeLetter? letter with
    | some c => c :: unescaped rest
    | none => '\\' :: unescaped (letter :: rest)
  | c :: rest => c :: unescaped rest

/-- What a text means. -/
def meaning (escapes : Bool) (t : List Char) : List Char := if escapes then unescaped t else t

private theorem exists_letter_of_escape? {t : List Char} {e : Char} (h : escape? t = some e) :
    ∃ letter rest, t = '\\' :: letter :: rest ∧ escapeLetter? letter = some e := by
  unfold escape? at h
  split at h
  · exact ⟨_, _, rfl, h⟩
  · cases h

private theorem unescaped_cons {c : Char} {rest : List Char} (h : escape? (c :: rest) = none) :
    unescaped (c :: rest) = c :: unescaped rest := by
  rw [unescaped.eq_def]
  split
  · rename_i same
    cases same
  · rename_i letter rest' same
    obtain ⟨rfl, rfl⟩ := List.cons.inj same
    rw [escape?] at h
    rw [h]
  · rename_i same
    obtain ⟨rfl, rfl⟩ := List.cons.inj same
    rfl

/-- What has no backslash means itself, whatever follows. -/
theorem meaning_append {piece : List Char} (h : '\\' ∉ piece) (escapes : Bool)
    (rest : List Char) : meaning escapes (piece ++ rest) = piece ++ meaning escapes rest := by
  cases escapes with
  | false => rfl
  | true =>
    induction piece with
    | nil => rfl
    | cons c piece ih =>
      have head : c ≠ '\\' := by
        rintro rfl
        exact h List.mem_cons_self
      have next : unescaped (piece ++ rest) = piece ++ unescaped rest :=
        ih fun mem => h (List.mem_cons_of_mem _ mem)
      change unescaped (c :: (piece ++ rest)) = c :: (piece ++ unescaped rest)
      rw [unescaped_cons (escape?_eq_none head _), next]

private theorem meaning_nil (escapes : Bool) : meaning escapes [] = [] := by
  cases escapes <;> rfl

/-! ## One token -/

namespace Token

/-- A token stands at the start of a text, before a rest of it. Its text is what the characters
before the rest mean, and is these characters themselves unless it is a single one. -/
structure Stands (escapes : Bool) (t : List Char) (token : Token) (rest : List Char) : Prop where
  exists_piece : ∃ piece, t = piece ++ rest ∧ piece.length = token.length ∧
    (token.kind ≠ .character → token.text.toList = piece)
  meaning_eq : meaning escapes t = token.text.toList ++ meaning escapes rest

theorem Stands.length_le {escapes : Bool} {t rest : List Char} {token : Token}
    (h : Stands escapes t token rest) : token.length ≤ t.length := by
  obtain ⟨piece, rfl, length, -⟩ := h.exists_piece
  rw [← length, List.length_append]
  exact Nat.le_add_right _ _

private theorem noBackslash_of_mem_spellings : ∀ s ∈ spellings, '\\' ∉ s.text := by
  decide

/-- A piece without a backslash stands before whatever follows it. -/
theorem stands_plain {escapes : Bool} {piece : List Char} (h : '\\' ∉ piece) (kind : TokenKind)
    (index : Nat) (rest : List Char) :
    Stands escapes (piece ++ rest) ⟨kind, String.ofList piece, index, piece.length⟩ rest := by
  refine ⟨⟨piece, rfl, rfl, fun _ => String.toList_ofList⟩, ?_⟩
  rw [String.toList_ofList, meaning_append h]

/-- A character stands where what means it does. -/
theorem stands_character {escapes : Bool} (piece : List Char) {rest : List Char} {c : Char}
    (means : meaning escapes (piece ++ rest) = c :: meaning escapes rest) (index : Nat) :
    Stands escapes (piece ++ rest) ⟨.character, String.ofList [c], index, piece.length⟩ rest := by
  refine ⟨⟨piece, rfl, rfl, fun other => absurd rfl other⟩, ?_⟩
  rw [means, String.toList_ofList]
  rfl

/-- What starts no escape sequence starts none either when the text is cut off after it. -/
theorem escape?_take {c : Char} {rest : List Char} (h : escape? (c :: rest) = none) (k : Nat) :
    escape? (c :: rest.take k) = none := by
  by_cases isBackslash : c = '\\'
  · subst isBackslash
    cases rest with
    | nil => rwa [List.take_nil]
    | cons letter rest =>
      cases k with
      | zero => rfl
      | succ k => exact h
  · exact escape?_eq_none isBackslash _

/-- What is read at the start of a text stands there, also when the text is cut off somewhere
after it. -/
theorem exists_piece_of_read (escapes : Bool) (filter : List TokenKind) (before : Option Char)
    (index : Nat) {t : List Char} (nonempty : t ≠ []) :
    ∃ piece rest, t = piece ++ rest ∧
      (read escapes filter before index t).length = piece.length ∧
      ∀ k, Stands escapes (piece ++ rest.take k) (read escapes filter before index t)
        (rest.take k) := by
  obtain ⟨c, rest, rfl⟩ := List.exists_cons_of_ne_nil nonempty
  rw [read]
  split
  · rename_i digits found
    split at found
    · obtain ⟨⟨after, same⟩, plain⟩ := prefix_of_number? found
      have noBackslash : '\\' ∉ digits := fun mem => absurd (plain _ mem) (by decide)
      exact ⟨digits, after, same.symm, rfl, fun k => stands_plain noBackslash _ _ _⟩
    · cases found
  · split
    · rename_i e found
      split at found
      · rename_i isTrue
        subst isTrue
        obtain ⟨letter, after, same, escaped⟩ := exists_letter_of_escape? found
        have means (k : Nat) : meaning true (['\\', letter] ++ after.take k) =
            e :: meaning true (after.take k) := by
          show unescaped _ = e :: unescaped _
          rw [List.cons_append, List.cons_append, List.nil_append, unescaped, escaped]
        exact ⟨['\\', letter], after, same, rfl, fun k => stands_character _ (means k) index⟩
      · cases found
    · rename_i noEscape
      split
      · rename_i s found
        have mem := mem_spellings_of_spelling? found
        have startsAt := List.find?_some found
        simp only [Spelling.startsAt, Bool.and_eq_true] at startsAt
        obtain ⟨after, same⟩ := List.isPrefixOf_iff_prefix.mp startsAt.2.1
        exact ⟨s.text, after, same.symm, rfl,
          fun k => stands_plain (noBackslash_of_mem_spellings s mem) _ _ _⟩
      · have means (k : Nat) : meaning escapes ([c] ++ rest.take k) =
            c :: meaning escapes (rest.take k) := by
          cases escapes with
          | false => rfl
          | true => exact unescaped_cons (escape?_take noEscape k)
        exact ⟨[c], rest, rfl, rfl, fun k => stands_character _ (means k) index⟩

/-- What is read at the start of a text stands there, also when only a number of characters
follow. -/
theorem stands_read_take (escapes : Bool) (filter : List TokenKind) (before : Option Char)
    (index : Nat) {t : List Char} (nonempty : t ≠ []) (k : Nat) :
    Stands escapes (t.take ((read escapes filter before index t).length + k))
      (read escapes filter before index t)
      ((t.drop (read escapes filter before index t).length).take k) := by
  obtain ⟨piece, rest, same, length, stands⟩ :=
    exists_piece_of_read escapes filter before index nonempty
  have after : t.drop piece.length = rest := by rw [same, List.drop_left]
  have kept : t.take (piece.length + k) = piece ++ rest.take k := by
    rw [same, List.take_length_add_append]
  rw [length, after, kept]
  exact stands k

theorem index_read (escapes : Bool) (filter : List TokenKind) (before : Option Char)
    (index : Nat) (t : List Char) : (read escapes filter before index t).index = index := by
  cases t with
  | nil => rfl
  | cons c rest =>
    rw [read]
    split
    · rfl
    · split
      · rfl
      · split <;> rfl

/-- What is read at a place of a text stands there, also when only a number of characters
follow. -/
theorem stands_readAt_take (escapes : Bool) (filter : List TokenKind) {t : List Char}
    {index : Nat} (h : index < t.length) (k : Nat) :
    Stands escapes ((t.drop index).take ((readAt escapes filter t index).length + k))
      (readAt escapes filter t index)
      ((t.drop (index + (readAt escapes filter t index).length)).take k) := by
  rw [← List.drop_drop]
  exact stands_read_take _ _ _ _ (by simpa using h) k

/-- What is read at a place of a text stands there. -/
theorem stands_readAt (escapes : Bool) (filter : List TokenKind) {t : List Char} {index : Nat}
    (h : index < t.length) :
    (readAt escapes filter t index).index = index ∧
      Stands escapes (t.drop index) (readAt escapes filter t index)
        (t.drop (index + (readAt escapes filter t index).length)) := by
  refine ⟨index_read _ _ _ _ _, ?_⟩
  have stands := stands_readAt_take escapes filter h t.length
  rwa [List.take_of_length_le (by rw [List.length_drop]; omega),
    List.take_of_length_le (by rw [List.length_drop]; omega)] at stands

/-- The texts of tokens, put together. -/
def texts : List Token → String
  | [] => ""
  | token :: rest => token.text ++ texts rest

theorem texts_append (front back : List Token) :
    texts (front ++ back) = texts front ++ texts back := by
  induction front with
  | nil => rw [List.nil_append, texts, String.empty_append]
  | cons token rest ih => rw [List.cons_append, texts, ih, texts, String.append_assoc]

end Token

/-! ## All tokens -/

/-- The tokens stand one after the other from an index on, up to the end of the text. -/
inductive Covers (escapes : Bool) : Nat → List Char → List Token → Prop where
  | nil {index} : Covers escapes index [] []
  | cons {index t token rest tokens} : token.index = index → token.Stands escapes t rest →
      Covers escapes (index + token.length) rest tokens → Covers escapes index t (token :: tokens)

/-- The texts of tokens that cover a text are what it means. -/
theorem Covers.texts_eq {escapes : Bool} {index : Nat} {t : List Char} {tokens : List Token}
    (h : Covers escapes index t tokens) : (Token.texts tokens).toList = meaning escapes t := by
  induction h with
  | nil => rw [Token.texts, meaning_nil]; rfl
  | cons _ stands _ ih => rw [Token.texts, String.toList_append, ih, stands.meaning_eq]

/-- The tokens of a text end with its end. The others cover the text and were read from it. -/
theorem exists_tokensFrom_eq (escapes : Bool) (t : List Char) (index : Nat) :
    ∃ found place, tokensFrom escapes t index = found ++ [Token.endOfLine place] ∧
      Covers escapes index (t.drop index) found ∧ ∀ token ∈ found, token.IsRead := by
  fun_induction tokensFrom escapes t index with
  | case1 index inside _ token ih =>
    obtain ⟨found, place, same, covers, read⟩ := ih
    obtain ⟨here, stands⟩ := Token.stands_readAt escapes [] inside
    refine ⟨token :: found, place, by rw [same]; rfl, .cons here stands covers, ?_⟩
    exact List.forall_mem_cons.mpr ⟨Token.isRead_readAt escapes [] inside, read⟩
  | case2 index outside =>
    refine ⟨[], index, rfl, ?_, by simp⟩
    rw [List.drop_of_length_le (Nat.le_of_not_lt outside)]
    exact .nil

end MessageExpr
