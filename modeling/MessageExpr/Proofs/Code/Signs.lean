import MessageExpr.Operator
import MessageExpr.Proofs.Text.Literal

/-!
# The signs of generated code

Code is read from left to right as characters, logical operators and string literals. What a
literal holds is no code, so that a sign is either a part of the code or a whole text.

## Main definitions

* `Sign`, `signs?` — the signs, and the signs of a code
* `Sign.texts`, `literals?` — the texts of the string literals of a code
* `Reads` — a piece of code is read as signs, whatever follows it
* `Balanced` — signs in which every parenthesis is closed
-/

namespace MessageExpr.Code

open Text (decodeInside? encode)

/-- A character of code, a logical operator, or a string literal with the text it stands for. -/
inductive Sign where
  | char (c : Char)
  | operator (o : LogicalOperator)
  | text (t : String)
  deriving DecidableEq, Repr

/-- The signs of a code, unless a string literal in it has no end. -/
def signs? : List Char → Option (List Sign)
  | [] => some []
  | c :: rest =>
    if c = '"' then
      match _ : decodeInside? rest with
      | none => none
      | some (text, after) => (signs? after).map (.text (String.ofList text) :: ·)
    -- A single sign of the two that an operator is written with is a character.
    else if c = '&' ∧ rest.head? = some '&' then (signs? rest.tail).map (.operator .and :: ·)
    else if c = '|' ∧ rest.head? = some '|' then (signs? rest.tail).map (.operator .or :: ·)
    else (signs? rest).map (.char c :: ·)
termination_by code => code.length
decreasing_by
  · have := Text.length_of_decodeInside? ‹_›
    simp only [List.length_cons]
    omega
  all_goals
    simp only [List.length_tail, List.length_cons]
    omega

namespace Sign

/-- The text of a string literal. -/
def text? : Sign → Option String
  | char _ | operator _ => none
  | text t => some t

/-- The texts of the string literals among signs. -/
def texts (signs : List Sign) : List String := signs.filterMap text?

@[simp] theorem texts_nil : texts [] = [] := rfl

@[simp] theorem texts_append (a b : List Sign) : texts (a ++ b) = texts a ++ texts b := by
  simp [texts]

@[simp] theorem texts_char (c : Char) (rest : List Sign) : texts (char c :: rest) = texts rest :=
  rfl

@[simp] theorem texts_operator (o : LogicalOperator) (rest : List Sign) :
    texts (operator o :: rest) = texts rest :=
  rfl

@[simp] theorem texts_text (t : String) (rest : List Sign) :
    texts (text t :: rest) = t :: texts rest :=
  rfl

/-- The characters of a code without string literals. -/
def chars (code : String) : List Sign := code.toList.map char

@[simp] theorem texts_chars (code : String) : texts (chars code) = [] := by
  rw [texts, chars, List.filterMap_map]
  exact List.filterMap_eq_nil_iff.2 fun _ _ => rfl

end Sign

/-- The texts of the string literals of a code, from left to right. -/
def literals? (code : String) : Option (List String) := (signs? code.toList).map Sign.texts

/-! ## Reading a piece -/

/-- A piece of code is read as signs, whatever follows it. -/
def Reads (code : String) (signs : List Sign) : Prop :=
  ∀ rest, signs? (code.toList ++ rest) = (signs? rest).map (signs ++ ·)

section

variable {a b : String} {s t : List Sign}

theorem Reads.append (ha : Reads a s) (hb : Reads b t) : Reads (a ++ b) (s ++ t) := by
  intro rest
  rw [String.toList_append, List.append_assoc, ha, hb, Option.map_map]
  congr 1
  funext more
  simp

theorem Reads.signs?_eq (h : Reads a s) : signs? a.toList = some s := by
  have := h []
  rw [List.append_nil, signs?] at this
  simpa using this

theorem Reads.literals?_eq (h : Reads a s) : literals? a = some (Sign.texts s) := by
  rw [literals?, h.signs?_eq]
  rfl

/-- Code without quotes and signs of operators is read as its characters. -/
theorem reads_chars (quote : '"' ∉ a.toList) (both : '&' ∉ a.toList) (either : '|' ∉ a.toList) :
    Reads a (Sign.chars a) := by
  intro rest
  rw [Sign.chars]
  generalize a.toList = code at quote both either
  induction code with
  | nil => simp
  | cons c code ih =>
    rw [List.mem_cons, not_or] at quote both either
    rw [List.cons_append, signs?, if_neg (Ne.symm quote.1), if_neg (fun h => both.1 h.1.symm),
      if_neg (fun h => either.1 h.1.symm), ih quote.2 both.2 either.2, Option.map_map]
    rfl

/-- A logical operator is read as such. -/
theorem reads_operator (o : LogicalOperator) : Reads o.symbol [.operator o] := by
  intro rest
  cases o with
  | and =>
    have shape : LogicalOperator.and.symbol.toList ++ rest = '&' :: '&' :: rest := rfl
    rw [shape, signs?]
    simp
  | or =>
    have shape : LogicalOperator.or.symbol.toList ++ rest = '|' :: '|' :: rest := rfl
    rw [shape, signs?]
    simp

/-- A string literal is read as its text. -/
theorem reads_quoted (text : String) : Reads (quoted text) [.text text] := by
  intro rest
  have shape : (quoted text).toList ++ rest = '"' :: (encode text.toList ++ '"' :: rest) := by
    simp [quoted]
  -- What is inside the quotes is read back as the text, so that the literal ends where it should.
  have inside : decodeInside? (encode text.toList ++ '"' :: rest) = some (text.toList, rest) :=
    Text.decodeInside?_encode text.toList rest
  rw [shape, signs?, if_pos rfl]
  split
  next h =>
    rw [inside] at h
    cases h
  next h =>
    obtain ⟨rfl, rfl⟩ := Prod.mk.inj (Option.some.inj (inside.symm.trans h))
    simp

end

/-! ## Parentheses -/

/-- Signs in which every parenthesis is closed. -/
inductive Balanced : List Sign → Prop
  | nil : Balanced []
  | sign {s : Sign} {rest : List Sign} (notOpening : s ≠ .char '(') (notClosing : s ≠ .char ')')
    (tail : Balanced rest) : Balanced (s :: rest)
  | group {inner rest : List Sign} (inside : Balanced inner) (tail : Balanced rest) :
    Balanced (.char '(' :: inner ++ .char ')' :: rest)

namespace Balanced

variable {s t : List Sign}

theorem append (hs : Balanced s) (ht : Balanced t) : Balanced (s ++ t) := by
  induction hs with
  | nil => exact ht
  | sign notOpening notClosing _ ih => exact .sign notOpening notClosing ih
  | @group inner rest inside _ _ ih => simpa using group inside ih

theorem chars {code : String} (opening : '(' ∉ code.toList) (closing : ')' ∉ code.toList) :
    Balanced (Sign.chars code) := by
  rw [Sign.chars]
  generalize code.toList = l at opening closing
  induction l with
  | nil => exact .nil
  | cons c l ih =>
    rw [List.mem_cons, not_or] at opening closing
    refine .sign ?_ ?_ (ih opening.2 closing.2)
    · simpa using Ne.symm opening.1
    · simpa using Ne.symm closing.1

theorem text (t : String) : Balanced [.text t] := .sign nofun nofun .nil

end Balanced

end MessageExpr.Code
