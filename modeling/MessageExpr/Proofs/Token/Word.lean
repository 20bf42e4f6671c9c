import MessageExpr.Operator
import MessageExpr.Value.Basic
import MessageExpr.Proofs.Token.Escaped
import MessageExpr.Proofs.Token.Known

/-!
# Reading words

What opens and closes blocks, and the operators and values between white space, are read as the
tokens that they are written for.

## Main definitions

* `Token.spaces` — the characters that are white space
* `Token.Edge` — the end of a text or white space: what stands beside a word
* `Token.Reads` — a word that is read as a token of a kind

## Main results

* `read_mark` — the marks of blocks
* `reads_unary`, `reads_binary`, `reads_logical`, `reads_boolean`, `reads_null`, `read_number` —
  words between white space
-/

namespace MessageExpr

namespace Token

/-! ## The marks of blocks -/

section marks

variable {filter : List TokenKind} (before : Option Char) (index : Nat) (rest : List Char)

theorem read_of_spelling? {c : Char} {t : List Char} {s : Spelling} (notDigit : c.isDigit = false)
    (notEscape : c ≠ '\\') (found : spelling? filter before (c :: t) = some s) :
    read true filter before index (c :: t) =
      ⟨s.kind, String.ofList s.text, index, s.text.length⟩ := by
  have number : number? (c :: t) = none := number?_eq_none notDigit t
  have escape : escape? (c :: t) = none := escape?_eq_none notEscape t
  simp only [read, number, escape, ite_self, found]

theorem allows_nil (kind : TokenKind) : allows [] kind = true := rfl

/-- What opens and closes blocks. -/
def marks : List Spelling :=
  [⟨.functionStart, ['$', '\x7b']⟩,
   ⟨.functionStart, ['$', 's', 'i', 'm', 'p', 'l', 'e', '\x7b']⟩,
   ⟨.functionEnd, ['\x7d']⟩, ⟨.singleQuote, ['\'']⟩, ⟨.doubleQuote, ['"']⟩]

/-- A mark is read wherever its kind is looked for. -/
theorem read_mark {s : Spelling} (mem : s ∈ marks) (allowed : allows filter s.kind = true) :
    read true filter before index (s.text ++ rest) =
      ⟨s.kind, String.ofList s.text, index, s.text.length⟩ := by
  simp only [marks, List.mem_cons, List.not_mem_nil, or_false] at mem
  rcases mem with rfl | rfl | rfl | rfl | rfl <;>
    refine read_of_spelling? before index rfl (by decide) ?_ <;>
    simp [spelling?, spellings, Spelling.startsAt, List.isPrefixOf, Spelling.fits, allowed]

end marks

/-! ## Words -/

/-- The characters that are white space. -/
def spaces : List Char := [' ', '\t', '\n', '\r']

/-- Nothing or white space: what stands beside a word. -/
def Edge (c : Option Char) : Prop := c = none ∨ ∃ b ∈ spaces, c = some b

theorem edge_cons {b : Char} (mem : b ∈ spaces) (rest : List Char) : Edge (b :: rest).head? :=
  .inr ⟨b, mem, rfl⟩

theorem edge_append {b : Char} (mem : b ∈ spaces) (front : List Char) :
    Edge (front ++ [b]).getLast? :=
  .inr ⟨b, mem, List.getLast?_concat⟩

theorem eq_of_mem_spaces {b : Char} (mem : b ∈ spaces) :
    b = ' ' ∨ b = '\t' ∨ b = '\n' ∨ b = '\r' := by
  simpa [spaces] using mem

/-- White space belongs neither to words nor to numbers. -/
theorem not_isWordPart_of_mem_spaces {b : Char} (mem : b ∈ spaces) :
    isWordPart b = false ∧ b.isDigit = false ∧ b ≠ '.' := by
  rcases eq_of_mem_spaces mem with rfl | rfl | rfl | rfl <;> exact ⟨rfl, rfl, by decide⟩

theorem Edge.not_isWordPart {c : Option Char} (h : Edge c) : c.any isWordPart = false := by
  rcases h with rfl | ⟨b, mem, rfl⟩
  · rfl
  · exact (not_isWordPart_of_mem_spaces mem).1

theorem Edge.not_isDigit {c : Option Char} (h : Edge c) : c.any Char.isDigit = false := by
  rcases h with rfl | ⟨b, mem, rfl⟩
  · rfl
  · exact (not_isWordPart_of_mem_spaces mem).2.1

theorem Edge.ne_point {c : Option Char} (h : Edge c) : c ≠ some '.' := by
  rintro rfl
  rcases h with none | ⟨b, mem, point⟩
  · cases none
  · exact (not_isWordPart_of_mem_spaces mem).2.2 (Option.some.inj point).symm

/-- Between edges the word is read as a token of the kind. -/
def Reads (kind : TokenKind) (word : List Char) : Prop :=
  ∀ ⦃before rest⦄, Edge before → Edge rest.head? → ∀ index,
    read true [] before index (word ++ rest) =
      ⟨kind, String.ofList word, index, word.length⟩

/-- The word is the first spelling that it starts with, no spelling goes on after it, and it can
be neither a number nor escaped. -/
def IsSpelled (kind : TokenKind) (word : List Char) : Prop :=
  kind ≠ .minus ∧ word.head?.any (fun c => !c.isDigit && c != '\\') = true ∧
    spellings.find? (fun s => s.text.isPrefixOf word) = some ⟨kind, word⟩ ∧
    ∀ s ∈ spellings, (word ++ [' ']).isPrefixOf s.text = false

instance (kind : TokenKind) (word : List Char) : Decidable (IsSpelled kind word) :=
  inferInstanceAs (Decidable (_ ∧ _ ∧ _ ∧ _))

theorem find?_of_imp {α : Type} {p q : α → Bool} {l : List α} {a : α}
    (imp : ∀ x ∈ l, p x = true → q x = true) (found : l.find? q = some a) (h : p a = true) :
    l.find? p = some a := by
  obtain ⟨-, front, back, rfl, none⟩ := List.find?_eq_some_iff_append.mp found
  refine List.find?_eq_some_iff_append.mpr ⟨h, front, back, rfl, fun x mem => ?_⟩
  have := imp x (by simp [mem])
  have := none x mem
  simp_all

/-- Inside of a spelling there is no white space but a space. -/
theorem eq_space_of_mem_spellings {s : Spelling} (mem : s ∈ spellings) {b : Char}
    (space : b ∈ spaces) (inside : b ∈ s.text.tail) : b = ' ' := by
  have others : ∀ s ∈ spellings,
      '\t' ∉ s.text.tail ∧ '\n' ∉ s.text.tail ∧ '\r' ∉ s.text.tail := by decide
  obtain ⟨tab, newline, feed⟩ := others s mem
  rcases eq_of_mem_spaces space with rfl | rfl | rfl | rfl
  · rfl
  · exact absurd inside tab
  · exact absurd inside newline
  · exact absurd inside feed

/-- A spelling that goes on after a word, between edges, would go on with a space. -/
theorem prefix_of_edge {s : Spelling} (mem : s ∈ spellings) {word rest : List Char}
    (nonempty : word ≠ []) (edge : Edge rest.head?)
    (alone : (word ++ [' ']).isPrefixOf s.text = false) (h : s.text <+: word ++ rest) :
    s.text <+: word := by
  have onlySpace := @eq_space_of_mem_spellings s mem
  generalize s.text = t at alone h onlySpace
  rcases List.prefix_or_prefix_of_prefix h (List.prefix_append word rest) with
    shorter | ⟨more, longer⟩
  · exact shorter
  · subst longer
    cases more with
    | nil => simp
    | cons d more =>
      rw [List.prefix_append_right_inj] at h
      cases rest with
      | nil => simp at h
      | cons e rest =>
        obtain ⟨rfl, -⟩ := List.cons_prefix_cons.mp h
        rcases edge with none | ⟨b, memSpaces, space⟩
        · cases none
        -- What lies behind the word is the space that no spelling goes on with.
        · obtain rfl := Option.some.inj space
          obtain ⟨c, word, rfl⟩ := List.exists_cons_of_ne_nil nonempty
          obtain rfl := onlySpace memSpaces (by simp)
          have goesOn : (c :: word ++ [' ']).isPrefixOf (c :: word ++ ' ' :: more) = true := by
            rw [List.isPrefixOf_iff_prefix]
            exact ⟨more, by simp⟩
          rw [alone] at goesOn
          cases goesOn

theorem reads_of_isSpelled {kind : TokenKind} {word : List Char} (h : IsSpelled kind word) :
    Reads kind word := by
  obtain ⟨notMinus, start, first, alone⟩ := h
  have nonempty : word ≠ [] := by
    rintro rfl
    cases start
  intro before rest edge edge' index
  have found : spelling? [] before (word ++ rest) = some ⟨kind, word⟩ := by
    -- The word is the first spelling that it starts with, and no other can start there now.
    refine find?_of_imp (fun s mem startsAt => ?_) first ?_
    · simp only [Spelling.startsAt, Bool.and_eq_true, List.isPrefixOf_iff_prefix] at startsAt
      exact List.isPrefixOf_iff_prefix.mpr
        (prefix_of_edge mem nonempty edge' (alone s mem) startsAt.2.1)
    · have fits : Spelling.fits ⟨kind, word⟩ before rest.head? = true := by
        simp [Spelling.fits, notMinus, edge.not_isWordPart, edge'.not_isWordPart]
      simpa [allows, Spelling.startsAt] using fits
  cases word with
  | nil => cases start
  | cons c t =>
    simp only [List.head?_cons, Option.any_some, Bool.and_eq_true, Bool.not_eq_true',
      bne_iff_ne] at start
    exact read_of_spelling? before index start.1 start.2 found

theorem reads_unary (o : UnaryOperator) : Reads .unaryOperator o.symbol.toList := by
  cases o <;> exact reads_of_isSpelled (by decide)

theorem reads_binary (o : BinaryOperator) : Reads .binaryOperator o.symbol.toList := by
  cases o <;> exact reads_of_isSpelled (by decide)

theorem reads_logical (o : LogicalOperator) : Reads .logicalOperator o.symbol.toList := by
  cases o <;> exact reads_of_isSpelled (by decide)

theorem reads_boolean (b : Bool) : Reads .booleanValue (boolShown b).toList := by
  cases b <;> exact reads_of_isSpelled (by decide)

theorem reads_null : Reads .nullValue "null".toList := reads_of_isSpelled (by decide)

/-! ## Numbers -/

/-- Digits before an edge are a number. -/
theorem number?_append {digits rest : List Char} (nonempty : digits ≠ [])
    (isDigit : ∀ c ∈ digits, c.isDigit = true) (edge : Edge rest.head?) :
    number? (digits ++ rest) = some digits := by
  have stop : ∀ c ∈ rest.head?, c.isDigit = false := by
    intro c mem
    have notDigit := edge.not_isDigit
    rwa [mem] at notDigit
  obtain ⟨taken, dropped⟩ := Decimal.takeWhile_isDigit_append isDigit rest stop
  simp only [number?, taken, dropped]
  rw [if_neg (by simpa using nonempty)]
  split
  · exact absurd rfl edge.ne_point
  · rfl

theorem read_number (before : Option Char) (index : Nat) {digits rest : List Char}
    (nonempty : digits ≠ []) (isDigit : ∀ c ∈ digits, c.isDigit = true) (edge : Edge rest.head?) :
    read true [] before index (digits ++ rest) =
      ⟨.numericValue, String.ofList digits, index, digits.length⟩ := by
  obtain ⟨c, t, rfl⟩ := List.exists_cons_of_ne_nil nonempty
  have number := number?_append nonempty isDigit edge
  rw [List.cons_append] at number ⊢
  simp [read, allows, number]

/-- A minus sign stands directly before a digit. -/
theorem read_minus (before : Option Char) (index : Nat) {c : Char} (isDigit : c.isDigit = true)
    (rest : List Char) :
    read true [] before index ('-' :: c :: rest) = ⟨.minus, "-", index, 1⟩ := by
  have notMinus : c ≠ '-' := by
    rintro rfl
    cases isDigit
  rw [read_of_spelling? (s := ⟨.minus, ['-']⟩) before index rfl (by decide)]
  · rfl
  · simp [spelling?, spellings, Spelling.startsAt, List.isPrefixOf, Spelling.fits, allows,
      Ne.symm notMinus, isDigit]

end Token

end MessageExpr
