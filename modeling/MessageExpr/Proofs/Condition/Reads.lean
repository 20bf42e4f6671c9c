import MessageExpr.Proofs.Condition.Relocated

/-!
# Paths that are read from a text

A condition has tokens just where the steps of a path are read from its text one after the other. So
the grammar can be dealt with apart from the text, and the text apart from the grammar: a part of a
text that another text has as well is read there in the same way, between white space.

## Main definitions

* `Reads` — steps that are read from a part of a text
* `Step.spaces` — the steps over characters of white space

## Main results

* `Reads.moved` — what is read in a text that two other texts have in common
* `isFinished_of_reads` — white space may change after a token that is no character
* `exists_path_of_parse`, `tokens_of_reads` — the tokens of a condition are those of a path
-/

namespace MessageExpr.Condition

/-- The steps are read from a text one after the other, from one place up to another one. -/
def Reads (escapes : Bool) (t : List Char) : Nat → List Step → Nat → Prop
  | i, [], j => i = j
  | i, step :: rest, j =>
    i < t.length ∧ Token.readAt escapes step.filter t i = step.token ∧
      Reads escapes t (i + step.token.length) rest j

variable {escapes : Bool} {t : List Char} {i j : Nat} {steps : List Step}

theorem reads_append {front back : List Step} :
    Reads escapes t i (front ++ back) j ↔
      ∃ k, Reads escapes t i front k ∧ Reads escapes t k back j := by
  induction front generalizing i with
  | nil => exact ⟨fun h => ⟨i, rfl, h⟩, fun ⟨_, same, h⟩ => same ▸ h⟩
  | cons step rest ih =>
    simp only [List.cons_append, Reads, ih]
    constructor
    · rintro ⟨inside, read, k, reads, reads'⟩
      exact ⟨k, ⟨inside, read, reads⟩, reads'⟩
    · rintro ⟨k, ⟨inside, read, reads⟩, reads'⟩
      exact ⟨inside, read, k, reads, reads'⟩

theorem Reads.append {k : Nat} {front back : List Step} (h : Reads escapes t i front k)
    (h' : Reads escapes t k back j) : Reads escapes t i (front ++ back) j :=
  reads_append.mpr ⟨k, h, h'⟩

theorem Reads.le (h : Reads escapes t i steps j) : i ≤ j := by
  induction steps generalizing i with
  | nil => exact Nat.le_of_eq h
  | cons step rest ih => exact (Nat.le_add_right _ _).trans (ih h.2.2)

theorem Reads.le_length (h : Reads escapes t i steps j) (inside : i ≤ t.length) :
    j ≤ t.length := by
  induction steps generalizing i with
  | nil =>
    obtain rfl : i = j := h
    exact inside
  | cons step rest ih =>
    obtain ⟨inside, read, reads⟩ := h
    refine ih reads ?_
    have fits := (Token.stands_readAt escapes step.filter inside).2.length_le
    rw [List.length_drop, read] at fits
    omega

/-- The tokens stand in the part of the text that they are read from. -/
theorem Reads.index (h : Reads escapes t i steps j) :
    ∀ step ∈ steps, i ≤ step.token.index ∧ step.token.index < j := by
  induction steps generalizing i with
  | nil => simp
  | cons step rest ih =>
    obtain ⟨inside, read, reads⟩ := h
    have here : step.token.index = i := by rw [← read, (Token.stands_readAt _ _ inside).1]
    have positive := (Token.length_pos_of_readAt escapes step.filter inside).1
    rw [read] at positive
    have onward := reads.le
    refine List.forall_mem_cons.mpr ⟨by omega, fun s mem => ?_⟩
    have later := ih reads s mem
    omega

/-! ## Parts of two texts -/

/-- What is read in a text that two other texts have in common: at the end of both, or finished and
before white space. -/
theorem Reads.moved {front mid back front' back' : List Char} {offset : Nat}
    (h : Reads escapes (front ++ mid ++ back) i steps j) (edge : Token.Edge front.getLast?)
    (edge' : Token.Edge front'.getLast?) (later : front'.length = front.length + offset)
    (ends : back = [] ∧ back' = [] ∨
      IsFinished mid ∧ Token.Edge back.head? ∧ Token.Edge back'.head?)
    (first : front.length ≤ i) (last : j ≤ front.length + mid.length) :
    Reads escapes (front' ++ mid ++ back') (i + offset)
      (steps.map (Step.relocated (· + offset))) (j + offset) := by
  -- Each step starts inside of the common part, where both texts are read alike.
  induction steps generalizing i with
  | nil => exact congrArg (· + offset) h
  | cons step rest ih =>
    obtain ⟨inside, read, reads⟩ := h
    have positive := (Token.length_pos_of_readAt escapes step.filter inside).1
    have onward := reads.le
    rw [read] at positive
    have onward := ih reads (by omega)
    refine ⟨?_, ?_, ?_⟩
    · simp only [List.length_append]
      omega
    · have moved := @Token.readAt_between escapes step.filter _ _ _ _ _ _ edge edge' later ends i
        first (by omega)
      rw [read] at moved
      exact moved
    · rwa [Nat.add_right_comm] at onward

/-- White space may change after a token that is no character. -/
theorem isFinished_of_reads {front back : List Char}
    (h : Reads escapes (front ++ back) 0 steps front.length)
    (last : ∀ step ∈ steps.getLast?, step.token.kind ≠ .character) : IsFinished front := by
  rcases List.eq_nil_or_concat steps with rfl | ⟨init, step, rfl⟩
  · have empty : front = [] := List.length_eq_zero_iff.mp h.symm
    rw [empty]
    intro rest suffix nonempty
    exact absurd (List.suffix_nil.mp suffix) nonempty
  · -- The last step tells how the first part ends.
    rw [List.concat_eq_append] at h last
    obtain ⟨k, -, inside, read, ends⟩ := reads_append.mp h
    have ends : k + step.token.length = front.length := ends
    have kind := last step (by simp)
    obtain ⟨-, stands⟩ := Token.stands_readAt escapes step.filter inside
    rw [read] at stands
    obtain ⟨piece, whole, -, text⟩ := stands.exists_piece
    -- What the token is read from goes just up to the end of the first part.
    rw [ends, List.drop_left, List.drop_append_of_le_length (by omega)] at whole
    refine isFinished_of_suffix ?_ kind (read ▸ Token.isRead_readAt escapes step.filter inside)
    rw [text kind, ← List.append_cancel_right whole]
    exact List.drop_suffix k front

/-- What is read in a finished text does not depend on the white space after it. -/
theorem Reads.change_back {front back back' : List Char}
    (h : Reads escapes (front ++ back) 0 steps front.length) (finished : IsFinished front)
    (edge : Token.Edge back.head?) (edge' : Token.Edge back'.head?) :
    Reads escapes (front ++ back') 0 steps front.length := by
  have h : Reads escapes ([] ++ front ++ back) 0 steps front.length := h
  have moved : Reads escapes ([] ++ front ++ back') (0 + 0) (steps.map (Step.relocated (· + 0)))
      (front.length + 0) :=
    h.moved (.inl rfl) (.inl rfl) rfl (.inr ⟨finished, edge, edge'⟩) (Nat.zero_le _) (by simp)
  have same : steps.map (Step.relocated (· + 0)) = steps := List.map_id _
  rwa [same] at moved

/-- What is read after white space, up to the end of the text, does not depend on what comes
before. -/
theorem Reads.change_front {front front' back : List Char} {offset : Nat}
    (h : Reads escapes (front ++ back) front.length steps (front ++ back).length)
    (edge : Token.Edge front.getLast?) (edge' : Token.Edge front'.getLast?)
    (later : front'.length = front.length + offset) :
    Reads escapes (front' ++ back) front'.length (steps.map (Step.relocated (· + offset)))
      (front' ++ back).length := by
  have h : Reads escapes (front ++ back ++ []) front.length steps (front ++ back).length := by
    rwa [List.append_nil]
  have moved := h.moved edge edge' later (.inl ⟨rfl, rfl⟩) (Nat.le_refl _)
    (Nat.le_of_eq List.length_append)
  rw [List.append_nil, ← later] at moved
  rw [List.length_append] at moved ⊢
  rwa [later, Nat.add_right_comm, ← later]

/-- What is read in a text alone is read in it before white space. -/
theorem Reads.followed {back : List Char} (h : Reads escapes t 0 steps t.length)
    (last : ∀ step ∈ steps.getLast?, step.token.kind ≠ .character)
    (edge : Token.Edge back.head?) : Reads escapes (t ++ back) 0 steps t.length := by
  have alone : Reads escapes (t ++ []) 0 steps t.length := by rwa [List.append_nil]
  exact alone.change_back (isFinished_of_reads alone last) (.inl rfl) edge

/-- What is read in a text alone is read in it after white space. -/
theorem Reads.preceded {front : List Char} (h : Reads escapes t 0 steps t.length)
    (edge : Token.Edge front.getLast?) :
    Reads escapes (front ++ t) front.length (steps.map (Step.relocated (· + front.length)))
      (front ++ t).length := by
  have alone : Reads escapes ([] ++ t) 0 steps ([] ++ t).length := h
  exact alone.change_front (.inl rfl) edge (Nat.zero_add _).symm

/-! ## White space -/

/-- The steps over characters of white space, from a place on. -/
def Step.spaces : Nat → List Char → List Step
  | _, [] => []
  | i, b :: rest => ⟨[], Token.space b i⟩ :: Step.spaces (i + 1) rest

theorem blank_spaces (i : Nat) (w : List Char) : Blank (Step.spaces i w) := by
  induction w generalizing i with
  | nil => simp [Step.spaces, Blank]
  | cons b rest ih => exact blank_cons.mpr ⟨⟨rfl, rfl⟩, ih (i + 1)⟩

theorem spaces_ne_nil (i : Nat) {w : List Char} (nonempty : w ≠ []) : Step.spaces i w ≠ [] := by
  obtain ⟨b, rest, rfl⟩ := List.exists_cons_of_ne_nil nonempty
  exact List.cons_ne_nil _ _

/-- White space is read character by character. -/
theorem reads_spaces {w : List Char} (blank : ∀ b ∈ w, b ∈ Token.spaces) (front back : List Char) :
    Reads escapes (front ++ w ++ back) front.length (Step.spaces front.length w)
      (front ++ w).length := by
  induction w generalizing front with
  | nil => exact (congrArg List.length (List.append_nil front)).symm
  | cons b w ih =>
    obtain ⟨mem, blank⟩ := List.forall_mem_cons.mp blank
    have onward := ih blank (front ++ [b])
    simp only [List.append_assoc, List.singleton_append, List.length_append, List.length_singleton]
      at onward
    refine ⟨by simp, ?_, by simpa [Nat.add_comm] using onward⟩
    rw [Token.readAt, List.append_assoc, List.drop_left, List.cons_append,
      Token.read_space _ _ _ mem]

/-! ## Cursors -/

section cursors

variable {c d : Cursor} {text : String}

private theorem reads_of_takes (h : c.Takes steps d) :
    Reads c.escapes c.text c.index steps d.index := by
  induction steps generalizing c with
  | nil =>
    obtain rfl : c = d := h
    rfl
  | cons step rest ih =>
    obtain ⟨current, notEnd, takes⟩ := h
    have read : Token.readAt c.escapes step.filter c.text c.index = step.token :=
      Option.some.inj current
    refine ⟨?_, read, ?_⟩
    · by_contra outside
      rw [Token.readAt_of_length_le (Nat.le_of_not_lt outside)] at read
      rw [← read] at notEnd
      cases notEnd
    · have reads := ih takes
      simp only [Cursor.nextOf, read] at reads
      exact reads

private theorem exists_takes_of_reads (h : Reads c.escapes c.text c.index steps j) :
    ∃ d, c.Takes steps d ∧ d.index = j := by
  induction steps generalizing c with
  | nil => exact ⟨c, rfl, h⟩
  | cons step rest ih =>
    obtain ⟨inside, read, reads⟩ := h
    have notEnd := (Token.length_pos_of_readAt c.escapes step.filter inside).2
    rw [read] at notEnd
    obtain ⟨d, takes, index⟩ := @ih (c.nextOf step.filter) (by
      simp only [Cursor.nextOf, read]
      exact reads)
    exact ⟨d, ⟨congrArg some read, notEnd, takes⟩, index⟩

private theorem atEnd_next_iff : c.next.atEnd = true ↔ c.text.length ≤ c.index := by
  rw [Cursor.next, Cursor.atEnd_eq rfl]
  constructor
  · intro isEnd
    by_contra inside
    rw [(Token.length_pos_of_readAt c.escapes [] (Nat.lt_of_not_le inside)).2] at isEnd
    cases isEnd
  · intro outside
    rw [Token.readAt_of_length_le outside]
    rfl

/-- The tokens of a path that is read from a text are those of the condition. -/
theorem tokens_of_reads {whole : Bool} (path : Path whole steps)
    (reads : Reads escapes text.toList 0 steps text.toList.length) :
    tokens escapes text = .ok (steps.map Step.token) := by
  obtain ⟨d, takes, index⟩ := @exists_takes_of_reads _ _ (Cursor.start escapes text) reads
  refine tokens_of_path path takes (atEnd_next_iff.mpr ?_)
  rw [takes.before.text_eq, index]
  exact Nat.le_refl _

/-- Where a condition has nodes, a whole path is read from its text, and its tokens are a row that
the nodes are made of. -/
theorem exists_path_of_parse {nodes : List Node} (h : parse escapes text = .ok nodes) :
    ∃ steps flat, Path true steps ∧ Reads escapes text.toList 0 steps text.toList.length ∧
      tokens escapes text = .ok (steps.map Step.token) ∧ Row (steps.map Step.token) flat ∧
      linkOperators flat = .ok nodes := by
  obtain ⟨found, flat, walked, row, apart, linked⟩ := exists_row_of_parse h
  rcases exists_path_of_tokens walked with ⟨whole, steps, d, path, takes, atEnd, rfl⟩ | ⟨p, broken⟩
  · have reads : Reads escapes text.toList 0 steps d.index := reads_of_takes takes
    have ends : d.index = text.toList.length := by
      refine Nat.le_antisymm (reads.le_length (Nat.zero_le _)) ?_
      have outside := atEnd_next_iff.mp atEnd
      rwa [takes.before.text_eq] at outside
    rw [ends] at reads
    refine ⟨steps, flat, ?_, reads, walked, row, linked⟩
    cases whole with
    | true => exact path
    | false =>
      -- An operator at the end that lacks its operand could not be linked.
      obtain ⟨flat', row', -, bare⟩ := path.exists_row takes.isRead
      obtain rfl := row.unique row'
      obtain ⟨n, last, isBare⟩ := bare rfl
      obtain ⟨unary, binary, linkedUnary, linkedBinary, linkedLogical⟩ :=
        linkOperators_eq_ok.mp linked
      exact absurd isBare (not_isBare_getLast? apart linkedUnary linkedBinary linkedLogical n last)
  · obtain ⟨pieces, made, -⟩ := row.blocks
    rw [made] at broken
    cases broken

end cursors

end MessageExpr.Condition
