import MessageExpr.Proofs.Token.Cover
import MessageExpr.Proofs.Token.Word

/-!
# Reading a text beside others

Tokens are read in the same way whether a text stands alone or between other texts with white space
at the seams. The one exception is a text that ends in the first word of an operator of two words,
because that operator may go on after the seam.

## Main definitions

* `Token.shifted`, `Token.relocated` — a token at a later place, and at any other one
* `IsAlone` — no spelling goes on after a text with a space
* `IsFinished` — a text that ends in no such word

## Main results

* `Token.readAt_beside` — what is read in a text between others
* `Token.readAt_between` — what is read in a text that two other texts have in common
* `isFinished_of_suffix` — a text that ends with a token that is no character is finished
-/

namespace MessageExpr

/-- The token at a later place. -/
def Token.shifted (offset : Nat) (token : Token) : Token :=
  { token with index := token.index + offset }

/-- The token with its place mapped to another one. -/
def Token.relocated (place : Nat → Nat) (token : Token) : Token :=
  { token with index := place token.index }

/-- No spelling goes on after the text with a space. -/
def IsAlone (t : List Char) : Prop := ∀ s ∈ spellings, (t ++ [' ']).isPrefixOf s.text = false

/-- No rest of the text is one that a spelling goes on after with a space. -/
def IsFinished (t : List Char) : Prop := ∀ rest, rest <:+ t → rest ≠ [] → IsAlone rest

namespace Token

@[simp] theorem kind_shifted (offset : Nat) (token : Token) :
    (token.shifted offset).kind = token.kind := rfl

@[simp] theorem length_shifted (offset : Nat) (token : Token) :
    (token.shifted offset).length = token.length := rfl

@[simp] theorem kind_relocated (place : Nat → Nat) (token : Token) :
    (token.relocated place).kind = token.kind := rfl

@[simp] theorem text_relocated (place : Nat → Nat) (token : Token) :
    (token.relocated place).text = token.text := rfl

/-! ## What stands before and after -/

private theorem span_append {p : Char → Bool} {rest : List Char} (stop : rest.head?.any p = false)
    (t : List Char) :
    (t ++ rest).takeWhile p = t.takeWhile p ∧ (t ++ rest).dropWhile p = t.dropWhile p ++ rest := by
  induction t with
  | nil =>
    cases rest with
    | nil => exact ⟨rfl, rfl⟩
    | cons c rest =>
      have stop : p c = false := stop
      simp [stop]
  | cons c t ih =>
    rw [List.cons_append, List.takeWhile_cons, List.dropWhile_cons, List.takeWhile_cons,
      List.dropWhile_cons]
    split
    · exact ⟨congrArg (c :: ·) ih.1, ih.2⟩
    · exact ⟨rfl, rfl⟩

/-- A number does not go on after an edge. -/
theorem number?_append_edge {rest : List Char} (edge : Edge rest.head?) (t : List Char) :
    number? (t ++ rest) = number? t := by
  obtain ⟨taken, dropped⟩ := span_append edge.not_isDigit t
  rw [number?, number?, taken, dropped]
  split
  · rfl
  · -- Only a point with a digit after it goes on, and there is none at an edge.
    rcases found : t.dropWhile Char.isDigit with _ | ⟨c, _ | ⟨d, more⟩⟩
    · cases rest with
      | nil => rfl
      | cons e rest =>
        have notPoint := edge.ne_point
        simp only [List.nil_append]
        split
        · rename_i same
          exact absurd (List.cons.inj same).1 (by simpa using notPoint)
        · rfl
    · cases rest with
      | nil => rfl
      | cons e rest =>
        have notDigit : e.isDigit = false := edge.not_isDigit
        by_cases point : c = '.'
        · subst point
          simp [notDigit]
        · simp [point]
    · by_cases point : c = '.'
      · subst point
        have digits := (span_append edge.not_isDigit (d :: more)).1
        simp only [List.cons_append] at digits ⊢
        rw [digits]
      · simp [point]

private theorem escape?_append_edge {rest : List Char} (edge : Edge rest.head?) {t : List Char}
    (nonempty : t ≠ []) : escape? (t ++ rest) = escape? t := by
  obtain ⟨c, t, rfl⟩ := List.exists_cons_of_ne_nil nonempty
  by_cases backslash : c = '\\'
  · subst backslash
    cases t with
    | cons d more => rfl
    | nil =>
      cases rest with
      | nil => rfl
      | cons e rest =>
        rcases edge with none | ⟨b, mem, space⟩
        · cases none
        · obtain rfl := Option.some.inj space
          rcases eq_of_mem_spaces mem with rfl | rfl | rfl | rfl <;> rfl
  · rw [escape?_eq_none backslash, List.cons_append, escape?_eq_none backslash]

/-- Nothing at an edge and white space are the same to a spelling. -/
theorem fits_edge (s : Spelling) {before before' after after' : Option Char}
    (sameBefore : before.any isWordPart = before'.any isWordPart)
    (sameAfter : after = after' ∨ Edge after ∧ Edge after') :
    s.fits before after = s.fits before' after' := by
  have word : after.any isWordPart = after'.any isWordPart := by
    rcases sameAfter with rfl | ⟨edge, edge'⟩
    · rfl
    · rw [edge.not_isWordPart, edge'.not_isWordPart]
  have digit : after.any Char.isDigit = after'.any Char.isDigit := by
    rcases sameAfter with rfl | ⟨edge, edge'⟩
    · rfl
    · rw [edge.not_isDigit, edge'.not_isDigit]
  simp only [Spelling.fits, sameBefore, word, digit]

/-- A spelling starts at a text that stands alone as it does before an edge. -/
theorem startsAt_append_edge {s : Spelling} (mem : s ∈ spellings) {t rest : List Char}
    (nonempty : t ≠ []) (alone : IsAlone t ∨ rest = []) (edge : Edge rest.head?)
    {before before' : Option Char} (same : before.any isWordPart = before'.any isWordPart) :
    s.startsAt before (t ++ rest) = s.startsAt before' t := by
  have prefixes : s.text <+: t ++ rest ↔ s.text <+: t := by
    refine ⟨fun h => ?_, fun h => h.trans (List.prefix_append t rest)⟩
    rcases alone with alone | rfl
    · exact prefix_of_edge mem nonempty edge (alone s mem) h
    · rwa [List.append_nil] at h
  rw [Bool.eq_iff_iff]
  simp only [Spelling.startsAt, Bool.and_eq_true, List.isPrefixOf_iff_prefix, prefixes]
  refine and_congr_right fun h => ?_
  obtain ⟨more, rfl⟩ := h
  rw [List.append_assoc, List.drop_left, List.drop_left]
  -- What follows the spelling is the same unless the text ends with it.
  have after : (more ++ rest).head? = more.head? ∨ Edge (more ++ rest).head? ∧ Edge more.head? := by
    cases more with
    | nil => exact .inr ⟨edge, .inl rfl⟩
    | cons c more => exact .inl rfl
  rw [fits_edge s same after]

private theorem find?_congr_mem {α : Type} {p q : α → Bool} {l : List α} (h : ∀ a ∈ l, p a = q a) :
    l.find? p = l.find? q := by
  induction l with
  | nil => rfl
  | cons a l ih =>
    obtain ⟨head, tail⟩ := List.forall_mem_cons.mp h
    rw [List.find?_cons, List.find?_cons, head, ih tail]

/-- A text that stands alone is read as it is before an edge, and at a later place. -/
theorem read_beside {escapes : Bool} {filter : List TokenKind} {before before' : Option Char}
    {t rest : List Char} (nonempty : t ≠ []) (alone : IsAlone t ∨ rest = [])
    (edge : Edge rest.head?)
    (same : before.any isWordPart = before'.any isWordPart) (index offset : Nat) :
    read escapes filter before (index + offset) (t ++ rest) =
      (read escapes filter before' index t).shifted offset := by
  have spelled : spelling? filter before (t ++ rest) = spelling? filter before' t := by
    refine find?_congr_mem fun s mem => ?_
    rw [startsAt_append_edge mem nonempty alone edge same]
  have number := number?_append_edge edge t
  have escape := escape?_append_edge edge nonempty
  obtain ⟨c, t, rfl⟩ := List.exists_cons_of_ne_nil nonempty
  rw [List.cons_append] at spelled number escape ⊢
  rw [read, read, spelled, number, escape]
  split
  · rfl
  · split
    · rfl
    · split <;> rfl

/-- What is read in a text between others, where both seams are edges and no spelling goes on after
the text. -/
theorem readAt_beside_of_isAlone (escapes : Bool) (filter : List TokenKind)
    {front t back : List Char} (edge : Edge front.getLast?) (edge' : Edge back.head?) {index : Nat}
    (inside : index < t.length) (alone : IsAlone (t.drop index) ∨ back = []) :
    readAt escapes filter (front ++ t ++ back) (index + front.length) =
      (readAt escapes filter t index).shifted front.length := by
  have nonempty : t.drop index ≠ [] := by simpa using inside
  have ahead : (front ++ t ++ back).drop (index + front.length) = t.drop index ++ back := by
    rw [Nat.add_comm, List.append_assoc, ← List.drop_drop, List.drop_left,
      List.drop_append_of_le_length (Nat.le_of_lt inside)]
  rw [readAt, readAt, ahead]
  apply read_beside nonempty alone edge'
  cases index with
  | zero =>
    -- Before the first character there is nothing, or the seam.
    rw [Nat.zero_add, if_pos rfl]
    split
    · rfl
    · rename_i positive
      have last : front.length - 1 < front.length := by omega
      rw [List.append_assoc, List.getElem?_append_left last, ← List.getLast?_eq_getElem?]
      exact edge.not_isWordPart
  | succ i =>
    have here : i + 1 + front.length - 1 - front.length = i := by omega
    rw [if_neg (by omega), if_neg (by omega), List.append_assoc,
      List.getElem?_append_right (by omega), here, List.getElem?_append_left (by omega)]
    rfl

/-- What is read in a finished text between others, where both seams are edges. -/
theorem readAt_beside {escapes : Bool} {filter : List TokenKind} {front t back : List Char}
    (edge : Edge front.getLast?) (finished : IsFinished t ∨ back = []) (edge' : Edge back.head?)
    {index : Nat} (inside : index < t.length) :
    readAt escapes filter (front ++ t ++ back) (index + front.length) =
      (readAt escapes filter t index).shifted front.length := by
  have nonempty : t.drop index ≠ [] := by simpa using inside
  exact readAt_beside_of_isAlone _ _ edge edge' inside
    (finished.imp_left fun finished => finished _ (List.drop_suffix index t) nonempty)

/-- What is read in a text that two other texts have in common: at the end of both, or finished and
before white space. -/
theorem readAt_between {escapes : Bool} {filter : List TokenKind}
    {front mid back front' back' : List Char} {offset : Nat} (edge : Edge front.getLast?)
    (edge' : Edge front'.getLast?) (later : front'.length = front.length + offset)
    (ends : back = [] ∧ back' = [] ∨ IsFinished mid ∧ Edge back.head? ∧ Edge back'.head?)
    {index : Nat} (first : front.length ≤ index) (inside : index < front.length + mid.length) :
    readAt escapes filter (front' ++ mid ++ back') (index + offset) =
      (readAt escapes filter (front ++ mid ++ back) index).shifted offset := by
  obtain ⟨i, rfl⟩ : ∃ i, index = i + front.length := ⟨index - front.length, by omega⟩
  have inside : i < mid.length := by omega
  have finished : IsFinished mid ∨ back = [] := ends.symm.imp (·.1) (·.1)
  have finished' : IsFinished mid ∨ back' = [] := ends.symm.imp (·.1) (·.2)
  have edgeBack : Edge back.head? ∧ Edge back'.head? := by
    rcases ends with ⟨rfl, rfl⟩ | ⟨-, both⟩
    · exact ⟨.inl rfl, .inl rfl⟩
    · exact both
  have read := @readAt_beside escapes filter front mid back edge finished edgeBack.1 i inside
  have read' := @readAt_beside escapes filter front' mid back' edge' finished' edgeBack.2 i inside
  rw [later, ← Nat.add_assoc] at read'
  rw [read, read']
  simp [shifted, Nat.add_assoc]

/-- The token of a character of white space. -/
def space (b : Char) (index : Nat) : Token := ⟨.whitespace, String.ofList [b], index, 1⟩

@[simp] theorem kind_space (b : Char) (index : Nat) : (space b index).kind = .whitespace := rfl

@[simp] theorem length_space (b : Char) (index : Nat) : (space b index).length = 1 := rfl

theorem read_space (escapes : Bool) (before : Option Char) (index : Nat) {b : Char}
    (mem : b ∈ spaces) (rest : List Char) :
    read escapes [] before index (b :: rest) = space b index := by
  rcases eq_of_mem_spaces mem with rfl | rfl | rfl | rfl <;> cases escapes <;> rfl

end Token

/-! ## Finished texts -/

/-- The first words of the spellings of two words. -/
def firstWords : List (List Char) := ["not".toList, "starts".toList, "ends".toList]

private theorem mem_firstWords_of_mem_spellings : ∀ s ∈ spellings, ∀ n < s.text.length,
    s.text[n]? = some ' ' → s.text.take n = [] ∨ s.text.take n ∈ firstWords := by
  decide

theorem isAlone_of_not_mem_firstWords {t : List Char} (nonempty : t ≠ [])
    (h : t ∉ firstWords) : IsAlone t := by
  intro s mem
  apply Bool.eq_false_iff.mpr
  intro goesOn
  obtain ⟨more, text⟩ := List.isPrefixOf_iff_prefix.mp goesOn
  have length : t.length < s.text.length := by
    rw [← text]
    simp
  have space : s.text[t.length]? = some ' ' := by
    rw [← text]
    simp
  have first : s.text.take t.length = t := by
    rw [← text, List.append_assoc, List.take_left]
  rcases mem_firstWords_of_mem_spellings s mem _ length space with empty | found
  · exact nonempty (first.symm.trans empty)
  · rw [first] at found
    exact h found

/-- No spelling ends in a first word, or is an end of one. -/
theorem not_suffix_of_mem_spellings : ∀ s ∈ spellings, ∀ word ∈ firstWords,
    ¬word <:+ s.text ∧ ¬s.text <:+ word := by
  decide

/-- First words and numbers have no characters in common. -/
theorem not_mem_of_number? {t digits word : List Char} (h : number? t = some digits)
    (mem : word ∈ firstWords) : ∀ c ∈ digits, c ∉ word := by
  obtain ⟨whole, after, -, isWhole, isAfter, either⟩ := eq_digits_of_number? h
  have letters : ∀ word ∈ firstWords, word.all (fun c => !c.isDigit && c != '.') = true := by
    decide
  intro c mem' memWord
  have letter := List.all_eq_true.mp (letters word mem) c memWord
  obtain ⟨notDigit, notPoint⟩ : c.isDigit = false ∧ c ≠ '.' := by simpa using letter
  have digit : c.isDigit = true ∨ c = '.' := by
    rcases either with rfl | rfl
    · exact .inl (isWhole c mem')
    · rcases List.mem_append.mp mem' with mem' | mem'
      · exact .inl (isWhole c mem')
      · rcases List.mem_cons.mp mem' with point | mem'
        · exact .inr point
        · exact .inl (isAfter c mem')
  rcases digit with digit | point
  · rw [digit] at notDigit
    cases notDigit
  · exact notPoint point

/-- Two ends of a text have a character in common, unless one of them is empty. -/
theorem exists_mem_of_suffix {t word other : List Char} (h : word <:+ t) (h' : other <:+ t)
    (nonempty : word ≠ []) (nonempty' : other ≠ []) : ∃ c ∈ other, c ∈ word := by
  rcases List.suffix_or_suffix_of_suffix h h' with inside | inside
  · obtain ⟨c, mem⟩ := List.exists_mem_of_ne_nil word nonempty
    exact ⟨c, inside.subset mem, mem⟩
  · obtain ⟨c, mem⟩ := List.exists_mem_of_ne_nil other nonempty'
    exact ⟨c, mem, inside.subset mem⟩

/-- A text that ends with a token that is no character is finished. -/
theorem isFinished_of_suffix {t : List Char} {last : Token} (suffix' : last.text.toList <:+ t)
    (kind : last.kind ≠ .character) (isRead : last.IsRead) : IsFinished t := by
  intro rest suffix nonempty
  apply isAlone_of_not_mem_firstWords nonempty
  intro first
  rcases isRead.number_or_character_or_spelling with
    ⟨-, t', digits, found, text⟩ | character | ⟨s, memS, -, text⟩
  · rw [text, String.toList_ofList] at suffix'
    have positive := Token.length_pos_of_number? found
    obtain ⟨c, memDigits, memWord⟩ := exists_mem_of_suffix suffix suffix' nonempty
      (List.ne_nil_of_length_pos positive)
    exact not_mem_of_number? found first c memDigits memWord
  · exact kind character
  · rw [text, String.toList_ofList] at suffix'
    obtain ⟨notEnd, notInside⟩ := not_suffix_of_mem_spellings s memS rest first
    rcases List.suffix_or_suffix_of_suffix suffix suffix' with inside | inside
    · exact notEnd inside
    · exact notInside inside

end MessageExpr
